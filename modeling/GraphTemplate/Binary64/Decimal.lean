import GraphTemplate.Binary64
import GraphTemplate.Text.Character

/-!
Decimal text of 64-bit floating-point numbers. The digits written are the fewest that read back as
the number, and of those the nearest to it. Two layouts share them: `text` writes an exponent for
very large and very small numbers, `plainText` never does.
-/

namespace GraphTemplate

namespace Binary64

/-- The multiples of `2 ^ -1075` that round to a positive number: from `low` to `high`, the ends
themselves only if `closed`. -/
structure Rounding where
  low : Nat
  high : Nat
  closed : Bool

def rounding (x : Binary64) : Rounding :=
  let ulp : Nat := 1 <<< x.position
  let below := if x.fraction.val = 0 ∧ 1 < x.exponent.val then ulp / 2 else ulp
  ⟨2 * x.scaled - below, 2 * x.scaled + ulp, x.significand % 2 == 0⟩

def Rounding.accepts (r : Rounding) (num den : Nat) : Bool :=
  if r.closed then r.low * den ≤ num && num ≤ r.high * den
  else r.low * den < num && num < r.high * den

def decimalUnits (n : Nat) (e : Int) : Nat × Nat :=
  if 0 ≤ e then ((n * Nat.pow 10 e.toNat) <<< 1075, 1) else (n <<< 1075, Nat.pow 10 (-e).toNat)

/-- The multiple of `10 ^ e` that reads back as the number and is nearest to it, if there is one:
one of the number's two neighbours on that grid. A tie goes to the even neighbour. -/
def onGrid? (x : Binary64) (e : Int) : Option Nat :=
  let r := x.rounding
  let (unit, den) := decimalUnits 1 e
  let value := 2 * x.scaled * den
  let down := value / unit
  let fits (n : Nat) : Bool := r.accepts (n * unit) den
  let toDown := value - down * unit
  let toUp := (down + 1) * unit - value
  match fits down, fits (down + 1) with
  | true, true =>
    some (if toDown < toUp ∨ (toDown = toUp ∧ down % 2 = 0) then down else down + 1)
  | true, false => some down
  | false, true => some (down + 1)
  | false, false => none

/-- The first of `steps` grids, from `10 ^ e` on towards finer ones, that holds the number. -/
def onGridFrom (x : Binary64) : Nat → Int → Nat × Int
  | 0, e => ((x.onGrid? e).getD 0, e)
  | steps + 1, e =>
    match x.onGrid? e with
    | some n => (n, e)
    | none => onGridFrom x steps (e - 1)

/-- The shortest decimal `n · 10 ^ e` that reads back as a positive number, nearest to it. -/
def shortest (x : Binary64) : Nat × Int :=
  let bits : Int := ((2 * x.scaled).log2 : Int) - 1075
  onGridFrom x 40 (bits * 30103 / 100000 + 2)

def shortestDigits (x : Binary64) : List Char × Int :=
  let (n, e) := x.shortest
  let ds := Nat.toDigits 10 n
  (ds, ds.length + e)

/-- Where the layout with exponents is used: the count of digits before the point is outside. -/
structure Layout where
  fewest : Int
  most : Int

/-- Numbers from `10 ^ -4` up to `10 ^ 16` are written without an exponent. -/
def layout : Layout := ⟨-3, 16⟩

def zeros (n : Int) : List Char := List.replicate n.toNat '0'

def positional (ds : List Char) (before : Int) : List Char × List Char :=
  if before ≤ 0 then (['0'], zeros (-before) ++ ds)
  else (ds.take before.toNat ++ zeros (before - ds.length), ds.drop before.toNat)

def exponentText (e : Int) : List Char :=
  let ds := Nat.toDigits 10 e.natAbs
  ['e', if e < 0 then '-' else '+'] ++ zeros (2 - ds.length) ++ ds

def pointed (whole part : List Char) : List Char :=
  if part.isEmpty then whole else whole ++ '.' :: part

def finiteText (x : Binary64) : List Char :=
  let (ds, before) := x.shortestDigits
  if layout.fewest ≤ before ∧ before ≤ layout.most then
    let (whole, part) := positional ds before
    whole ++ '.' :: (if part.isEmpty then ['0'] else part)
  else pointed (ds.take 1) (ds.drop 1) ++ exponentText (before - 1)

/-- As `finiteText`, but with zeros in place of an exponent, and then no point without digits
after it. -/
def finitePlainText (x : Binary64) : List Char :=
  let (ds, before) := x.shortestDigits
  if layout.fewest ≤ before ∧ before ≤ layout.most then x.finiteText
  else
    let (whole, part) := positional ds before
    pointed whole part

def signed (x : Binary64) (magnitude : List Char) : String :=
  String.ofList (if x.negative then '-' :: magnitude else magnitude)

def textWith (finite : Binary64 → List Char) (x : Binary64) : String :=
  if x.isNaN then "nan"
  else if x.isInfinite then x.signed "inf".toList
  else if x.isZero then x.signed "0.0".toList
  else x.signed (finite x)

def text : Binary64 → String := textWith finiteText
def plainText : Binary64 → String := textWith finitePlainText

end Binary64

end GraphTemplate
