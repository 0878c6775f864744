-- SUMMARY: Characters that a terminal shows as one, and texts cut by columns.
import LintBridge.Console.Columns

/-!
# Clusters

Characters that take no column belong to the character before them. A joiner ties the next character
to the one before, so that both take its columns. A selector asks for the emoji form of a character,
which takes one column more if the character's plain form is narrow. A text is cut between clusters
only: where the cut falls into a cluster of two columns, a space stands for it.
-/

namespace LintBridge.Console

/-- The character that ties the next one to the one before it. -/
def joiner : Char := '\u200D'

/-- The character that asks for the emoji form of the one before it. -/
def selector : Char := '\uFE0F'

/-- The ranges of characters whose emoji form takes one column more than their plain form. -/
def narrowEmojiRanges : List (Nat × Nat) :=
  [(0x23, 0x23), (0x2A, 0x2A), (0x30, 0x39), (0xA9, 0xA9), (0xAE, 0xAE), (0x203C, 0x203C),
   (0x2049, 0x2049), (0x2122, 0x2122), (0x2139, 0x2139), (0x2194, 0x2199), (0x21A9, 0x21AA),
   (0x2328, 0x2328), (0x23CF, 0x23CF), (0x23ED, 0x23EF), (0x23F1, 0x23F2), (0x23F8, 0x23FA),
   (0x24C2, 0x24C2), (0x25AA, 0x25AB), (0x25B6, 0x25B6), (0x25C0, 0x25C0), (0x25FB, 0x25FC),
   (0x2600, 0x2604), (0x260E, 0x260E), (0x2611, 0x2611), (0x2618, 0x2618), (0x261D, 0x261D),
   (0x2620, 0x2620), (0x2622, 0x2623), (0x2626, 0x2626), (0x262A, 0x262A), (0x262E, 0x262F),
   (0x2638, 0x263A), (0x2640, 0x2640), (0x2642, 0x2642), (0x265F, 0x2660), (0x2663, 0x2663),
   (0x2665, 0x2666), (0x2668, 0x2668), (0x267B, 0x267B), (0x267E, 0x267E), (0x2692, 0x2692),
   (0x2694, 0x2697), (0x2699, 0x2699), (0x269B, 0x269C), (0x26A0, 0x26A0), (0x26A7, 0x26A7),
   (0x26B0, 0x26B1), (0x26C8, 0x26C8), (0x26CF, 0x26CF), (0x26D1, 0x26D1), (0x26D3, 0x26D3),
   (0x26E9, 0x26E9), (0x26F0, 0x26F1), (0x26F4, 0x26F4), (0x26F7, 0x26F9), (0x2702, 0x2702),
   (0x2708, 0x2709), (0x270C, 0x270D), (0x270F, 0x270F), (0x2712, 0x2712), (0x2714, 0x2714),
   (0x2716, 0x2716), (0x271D, 0x271D), (0x2721, 0x2721), (0x2733, 0x2734), (0x2744, 0x2744),
   (0x2747, 0x2747), (0x2763, 0x2764), (0x27A1, 0x27A1), (0x2934, 0x2935), (0x2B05, 0x2B07),
   (0x1F170, 0x1F171), (0x1F17E, 0x1F17F), (0x1F321, 0x1F321), (0x1F324, 0x1F32C),
   (0x1F336, 0x1F336), (0x1F37D, 0x1F37D), (0x1F396, 0x1F397), (0x1F399, 0x1F39B),
   (0x1F39E, 0x1F39F), (0x1F3CB, 0x1F3CE), (0x1F3D4, 0x1F3DF), (0x1F3F3, 0x1F3F3),
   (0x1F3F5, 0x1F3F5), (0x1F3F7, 0x1F3F7), (0x1F43F, 0x1F43F), (0x1F441, 0x1F441),
   (0x1F4FD, 0x1F4FD), (0x1F549, 0x1F54A), (0x1F56F, 0x1F570), (0x1F573, 0x1F579),
   (0x1F587, 0x1F587), (0x1F58A, 0x1F58D), (0x1F590, 0x1F590), (0x1F5A5, 0x1F5A5),
   (0x1F5A8, 0x1F5A8), (0x1F5B1, 0x1F5B2), (0x1F5BC, 0x1F5BC), (0x1F5C2, 0x1F5C4),
   (0x1F5D1, 0x1F5D3), (0x1F5DC, 0x1F5DE), (0x1F5E1, 0x1F5E1), (0x1F5E3, 0x1F5E3),
   (0x1F5E8, 0x1F5E8), (0x1F5EF, 0x1F5EF), (0x1F5F3, 0x1F5F3), (0x1F5FA, 0x1F5FA),
   (0x1F6CB, 0x1F6CB), (0x1F6CD, 0x1F6CF), (0x1F6E0, 0x1F6E5), (0x1F6E9, 0x1F6E9),
   (0x1F6F0, 0x1F6F0), (0x1F6F3, 0x1F6F3)]

/-- The columns that a selector adds after a character. -/
def selectorColumns (c : Char) : Nat := if Text.inTable narrowEmojiRanges c.toNat then 1 else 0

/-! ## Columns of a line -/

/-- The columns of the rest of a line. `base` is the last character that took columns and that no
selector has followed; `tied` says that the next character is tied to those before. -/
def lineColumnsFrom (base : Option Char) (tied : Bool) : List Char → Nat
  | [] => 0
  | c :: rest =>
    if tied then lineColumnsFrom base false rest
    else if c = joiner then lineColumnsFrom base true rest
    else if c = selector then base.elim 0 selectorColumns + lineColumnsFrom none false rest
    else columns c + lineColumnsFrom (if columns c = 0 then base else some c) false rest

/-- The number of columns of a line. -/
def lineColumns (line : List Char) : Nat := lineColumnsFrom none false line

/-! ## Clusters of a line -/

structure Cluster where
  chars : List Char
  columns : Nat
  deriving DecidableEq, Repr

/-- Clusters in reverse with a character added to the last of them, which grows by some columns. A
character with no cluster before it is a cluster of no column. -/
def Cluster.attach (c : Char) (more : Nat) : List Cluster → List Cluster
  | [] => [⟨[c], 0⟩]
  | last :: before => ⟨last.chars ++ [c], last.columns + more⟩ :: before

/-- The clusters of the rest of a line behind those in `done`, which are in reverse; `base` and
`tied` are as in `lineColumnsFrom`. A joiner with nothing before it ties nothing. -/
def clustersFrom (done : List Cluster) (base : Option Char) (tied : Bool) : List Char → List Cluster
  | [] => done.reverse
  | c :: rest =>
    if tied then clustersFrom (Cluster.attach c 0 done) base false rest
    else if c = joiner then clustersFrom (Cluster.attach c 0 done) base (!done.isEmpty) rest
    else if c = selector then
      clustersFrom (Cluster.attach c (base.elim 0 selectorColumns) done) none false rest
    else if columns c = 0 then clustersFrom (Cluster.attach c 0 done) base false rest
    else clustersFrom (⟨[c], columns c⟩ :: done) (some c) false rest

/-- The clusters of a line. -/
def clusters (line : List Char) : List Cluster := clustersFrom [] none false line

/-! ## Cuts -/

/-- The characters of as many clusters as fit in a number of columns, which a space fills up where a
wide cluster does not fit. -/
def takeColumns (width : Nat) : List Cluster → List Char
  | [] => []
  | cluster :: rest =>
    if width = 0 then []
    else if cluster.columns ≤ width then cluster.chars ++ takeColumns (width - cluster.columns) rest
    else [' ']

def spaces (n : Nat) : List Char := List.replicate n ' '

/-- A line cut or filled up to a number of columns. -/
def resize (width : Nat) (line : List Char) : List Char :=
  if lineColumns line ≤ width then line ++ spaces (width - lineColumns line)
  else takeColumns width (clusters line)

/-- Clusters in chunks of a number of columns at most, `chunk` being the current one in reverse and
`used` its columns. A last chunk of no column is left out. -/
def chunks (width used : Nat) (chunk : List Char) : List Cluster → List (List Char)
  | [] => if used = 0 then [] else [chunk.reverse]
  | cluster :: rest =>
    if used + cluster.columns ≤ width then
      chunks width (used + cluster.columns) (cluster.chars.reverse ++ chunk) rest
    else chunk.reverse :: chunks width cluster.columns cluster.chars.reverse rest

end LintBridge.Console
