-- SUMMARY: Exact binary64 numbers: rounding of ratios and decimals, integral values, and the shortest decimal text.

/-!
# Binary64 numbers

A finite number is `± mantissa · 2 ^ exponent`, an exact value. `ofRatio` rounds a ratio to the nearest
number, a half to the even neighbour; `ofDecimal` does the same for a decimal. The text of a number is
the shortest decimal that rounds to it, and of those the nearest.
-/

namespace LintBridge

/-- A binary64 number as its exact value. -/
inductive Binary64 where
  /-- `mantissa · 2 ^ exponent`, with the sign given; zero keeps its sign. -/
  | finite (negative : Bool) (mantissa : Nat) (exponent : Int)
  | infinite (negative : Bool)
  | nan
  deriving DecidableEq, Repr

namespace Binary64

/-! ## Rounding -/

/-- The integer nearest to a ratio; a half goes to the even neighbour. -/
def roundHalfEven (num den : Nat) : Nat :=
  let below := num / den
  let rest := num % den
  if 2 * rest < den ∨ (2 * rest = den ∧ below % 2 = 0) then below else below + 1

/-- The exponent of the finest grid. -/
def leastExponent : Int := -1074

/-- The exponent of the coarsest grid. -/
def greatestExponent : Int := 971

/-- `num / den` counted in steps of `2 ^ e`, again as a ratio. -/
def inSteps (num den : Nat) (e : Int) : Nat × Nat :=
  if 0 ≤ e then (num, den * Nat.pow 2 e.toNat) else (num * Nat.pow 2 (-e).toNat, den)

/-- The number nearest to `± num / den`. The grid is the one on which the ratio has 53 bits. -/
def ofRatio (negative : Bool) (num den : Nat) : Binary64 :=
  if num = 0 then .finite negative 0 leastExponent
  else
    let low := max ((num.log2 : Int) - den.log2 - 53) leastExponent
    let (n, d) := inSteps num den low
    let e := if n / d < Nat.pow 2 53 then low else low + 1
    let (n, d) := inSteps num den e
    let m := roundHalfEven n d
    let (m, e) := if m = Nat.pow 2 53 then (Nat.pow 2 52, e + 1) else (m, e)
    if greatestExponent < e then .infinite negative else .finite negative m e

/-- The number nearest to `± digits · 10 ^ exponent`. Decimals far outside the range are decided
by their size alone. -/
def ofDecimal (negative : Bool) (digits : Nat) (exponent : Int) : Binary64 :=
  let size : Int := exponent + (Nat.toDigits 10 digits).length
  if digits = 0 ∨ size < -330 then .finite negative 0 leastExponent
  else if 310 < size then .infinite negative
  else if 0 ≤ exponent then ofRatio negative (digits * Nat.pow 10 exponent.toNat) 1
  else ofRatio negative digits (Nat.pow 10 (-exponent).toNat)

/-- The number nearest to an integer, if it does not round to infinity. -/
def ofInt? (i : Int) : Option Binary64 :=
  match ofRatio (decide (i < 0)) i.natAbs 1 with
  | .infinite _ => none
  | x => some x

/-! ## Tests -/

/-- The integer that a number equals, if it is one. -/
def toInt? : Binary64 → Option Int
  | .finite negative m e =>
    let sign : Int → Int := if negative then Neg.neg else id
    if 0 ≤ e then some (sign ((m * Nat.pow 2 e.toNat : Nat)))
    else if m % Nat.pow 2 (-e).toNat = 0 then some (sign ((m / Nat.pow 2 (-e).toNat : Nat)))
    else none
  | _ => none

def isZero : Binary64 → Bool
  | .finite _ m _ => m == 0
  | _ => false

/-- Greater than zero; NaN is not. -/
def isPositive : Binary64 → Bool
  | .finite negative m _ => !negative && m != 0
  | .infinite negative => !negative
  | .nan => false

/-! ## Shortest decimals -/

/-- The number of zeros between the point and the first digit of `num / den < 1`, plus one. -/
def leadingZeros : Nat → Nat → Nat → Nat
  | 0, _, _ => 0
  | fuel + 1, num, den => if den ≤ num then 0 else leadingZeros fuel (num * 10) den + 1

/-- The `k` with `10 ^ (k - 1) ≤ num / den < 10 ^ k`. -/
def decimalSize (num den : Nat) : Int :=
  if den ≤ num then (Nat.toDigits 10 (num / den)).length
  else 1 - (leadingZeros 400 num den : Int)

/-- A multiple of `10 ^ exponent` next to `num / den` that rounds to `x`, the nearer one first and
the even one at equal distance. -/
def neighbour? (x : Binary64) (num den : Nat) (exponent : Int) : Option Nat :=
  let (n, d) := if 0 ≤ exponent then (num, den * Nat.pow 10 exponent.toNat)
    else (num * Nat.pow 10 (-exponent).toNat, den)
  let near := roundHalfEven n d
  let far := if near = n / d then near + 1 else near - 1
  let roundsBack (digits : Nat) : Bool := decide (ofDecimal false digits exponent = x)
  if roundsBack near then some near else if roundsBack far then some far else none

/-- The shortest decimal `digits · 10 ^ exponent` that rounds to the positive number `m · 2 ^ e`.
Seventeen digits always suffice. -/
def shortest (m : Nat) (e : Int) : Nat × Int :=
  let (num, den) := inSteps m 1 (-e)
  let size := decimalSize num den
  let attempt (count : Nat) : Option (Nat × Int) :=
    (neighbour? (.finite false m e) num den (size - count)).map (·, size - count)
  ((List.range 17).findSome? fun i => attempt (i + 1)).getD (0, 0)

/-! ## Text -/

/-- A decimal exponent with its sign and at least two digits. -/
def exponentText (e : Int) : List Char :=
  let digits := Nat.toDigits 10 e.natAbs
  (if e < 0 then '-' else '+') :: (if digits.length < 2 then '0' :: digits else digits)

/-- The text of `0.digits · 10 ^ point`. The point is written in its place when the first digit
stands for `10 ^ -4` up to `10 ^ 15`, and a whole number then ends in `.0`. -/
def layout (digits : List Char) (point : Int) : List Char :=
  if -4 < point ∧ point ≤ 16 then
    if point ≤ 0 then '0' :: '.' :: (List.replicate (-point).toNat '0' ++ digits)
    else if digits.length ≤ point then
      digits ++ List.replicate (point.toNat - digits.length) '0' ++ ['.', '0']
    else digits.take point.toNat ++ '.' :: digits.drop point.toNat
  else
    let tail := digits.drop 1
    digits.take 1 ++ (if tail.isEmpty then [] else '.' :: tail) ++ 'e' :: exponentText (point - 1)

/-- The text of a number, with the given words for infinity and NaN. -/
def text (infinity nan : List Char) : Binary64 → List Char
  | .nan => nan
  | .infinite negative => if negative then '-' :: infinity else infinity
  | .finite negative m e =>
    let unsigned :=
      if m = 0 then ['0', '.', '0']
      else
        let (digits, exponent) := shortest m e
        let all := Nat.toDigits 10 digits
        let kept := (all.reverse.dropWhile (· == '0')).reverse
        layout kept (exponent + all.length)
    if negative then '-' :: unsigned else unsigned

/-- The text of a number in messages. -/
def display (x : Binary64) : List Char := x.text "inf".toList "nan".toList

end Binary64

end LintBridge
