-- SUMMARY: The URI under which a command lints a file names the file that the command was given.
import LintBridge.Proofs.CommandLine.Fix

/-!
# The file that a command is given

A command resolves the path of its file and goes on with the URI of what it has found. That URI is read as the
resolved path again, whatever characters are in it, and the resolved path leads where the path itself does. So the
document that is linted has the text of the file, and what is written to the one is written to the other.
-/

namespace LintBridge.CommandLine

open FileTree

variable {s : State} {word : String} {place : List String}

/-- A path that leads to a place is resolved, and its resolved form leads to the same place. -/
theorem resolve_of_placeOf (hs : s.host.files.HasWorkingDirectory) (hfree : s.host.files.NulFree)
    (hplace : s.host.files.placeOf (.ofString word) = .ok place) :
    ∃ found, s.host.files.resolve (.ofString word) = .ok found ∧ s.host.files.placeOf found = .ok place := by
  have hnul : hasNul (.ofString word) = false := (placeOf_eq_ok_iff.1 hplace).1
  have hfound := placeOf_realPath hs (Path.proper_ofString word) hplace (hfree.hasNul_realPath hnul)
  refine ⟨_, ?_, hfound⟩
  rw [resolve, if_neg (by simp [hnul])]
  dsimp only
  -- What leads to a place does not lead through too many links.
  split
  next hlinks =>
    simp only [lookup, hfound, bind, Except.bind] at hlinks
    split at hlinks
    next => cases hlinks
    next => cases hlinks
  next => rfl

/-- A URI stands for the file at a place that a command was given. -/
structure StandsFor (s : State) (word : String) (place : List String) (uri : String) (found : Path) : Prop where
  /-- The command goes on with the URI. -/
  made : (uriOf (.ofString word)).runOn s = (.ok uri, s)
  /-- The URI is read as a path that leads to the place. -/
  read : Uri.toPath uri = .ok found
  leads : s.host.files.placeOf found = .ok place
  /-- The document that is linted under the URI has the text of the file. -/
  linted (settings : Settings) (text : List Char) (time : Nat) :
    s.host.files.textOf? (.ofString word) = some (text, time) →
      ((service settings).target uri).runOn s = (.ok (found, documentOf uri text time), s)
  /-- What is written to the file is written where the URI leads. -/
  written (content : Bytes) : s.host.files.write (.ofString word) content = s.host.files.write found content

/-- The URI of a path from a root is read as that path, and the one that a command makes stands for the file that
the command was given. -/
theorem uri_names_path {p : Path} (hp : p.Proper) (habs : p.isAbsolute)
    (hs : s.host.files.HasWorkingDirectory) (hfree : s.host.files.NulFree)
    (hplace : s.host.files.placeOf (.ofString word) = .ok place) :
    Uri.toPath (Uri.ofPath p) = .ok p ∧
      ∃ found, StandsFor s word place (Uri.ofPath found) found := by
  refine ⟨Uri.toPath_ofPath hp habs, ?_⟩
  obtain ⟨found, hfound, hleads⟩ := resolve_of_placeOf hs hfree hplace
  have huri := toPath_of_resolve hs (Path.proper_ofString word) hfound
  refine ⟨found, runOn_uriOf hfound, huri, hleads, fun settings text time htext => ?_, fun content => ?_⟩
  · obtain ⟨place', old, hplace', hnode, hold⟩ := textOf?_eq_some_iff.1 htext
    cases hplace.symm.trans hplace'
    exact runOn_target huri (textOf?_eq_some_iff.2 ⟨place, old, hleads, hnode, hold⟩)
  · rw [write, write, hplace, hleads]

/-- A path with two slashes at its beginning, and with characters that URIs escape. -/
def oddPath : Path := .ofString "//a %41?#;:[é]\t\r\n/😀/.."

/-- A file with such characters in its names, and a link to its directory. -/
def oddFiles : State where
  host := {
    files := ⟨[(["d %3F#\t"], .directory),
      (["d %3F#\t", "ü\n😀;[x]:?.ts"], .file (some (Text.Utf8.encode "x".toList)) 1),
      (["l"], .link "d %3F#\t")], []⟩
    environment := []
    executables := []
    replies := fun _ => { outcome := .refused "" } }

theorem uri_names_path_odd :
    oddPath.Proper ∧ oddPath.isAbsolute ∧ oddFiles.host.files.HasWorkingDirectory ∧ oddFiles.host.files.NulFree ∧
      oddFiles.host.files.placeOf (.ofString "l/ü\n😀;[x]:?.ts") = .ok ["d %3F#\t", "ü\n😀;[x]:?.ts"] ∧
      Uri.toPath (Uri.ofPath oddPath) = .ok oddPath ∧ ∃ found,
        StandsFor oddFiles "l/ü\n😀;[x]:?.ts" ["d %3F#\t", "ü\n😀;[x]:?.ts"] (Uri.ofPath found) found := by
  have hp : oddPath.Proper := Path.proper_ofString _
  have habs : oddPath.isAbsolute := by decide
  have hs : oddFiles.host.files.HasWorkingDirectory := ⟨"/", by decide, by decide +kernel⟩
  have hfree : oddFiles.host.files.NulFree := by
    refine ⟨fun place target hlink => ?_, by simp [oddFiles]⟩
    unfold node? at hlink
    split at hlink
    next => cases hlink
    next =>
      obtain ⟨-, rfl⟩ : place = ["l"] ∧ target = "d %3F#\t" := by
        simpa [oddFiles] using Table.mem_of_find? hlink
      decide
  have hplace : oddFiles.host.files.placeOf (.ofString "l/ü\n😀;[x]:?.ts") =
      .ok ["d %3F#\t", "ü\n😀;[x]:?.ts"] := toOption_eq_some_iff.1 (by decide +kernel)
  exact ⟨hp, habs, hs, hfree, hplace, uri_names_path hp habs hs hfree hplace⟩

end LintBridge.CommandLine
