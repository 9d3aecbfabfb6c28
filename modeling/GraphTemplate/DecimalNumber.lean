import GraphTemplate.Numeral

/-!
Decimal floating-point numbers: a coefficient scaled by a power of ten, with its trailing zeros
kept, an infinity, or a non-number.
-/

namespace GraphTemplate

inductive DecimalNumber where
  | finite (negative : Bool) (coefficient : Nat) (exponent : Int)
  | infinite (negative : Bool)
  | nan (negative signaling : Bool) (payload : Option Nat)
  deriving DecidableEq

namespace DecimalNumber

/-- Reads a decimal number as it is written, without rounding. -/
def ofText? (text : String) : Option DecimalNumber :=
  let (negative, body) := spanSign (trimNumeral text.toList)
  let letters := body.map lowerChar
  let word := String.ofList (letters.takeWhile (!isDecimalDigit ·))
  let rest := letters.dropWhile (!isDecimalDigit ·)
  let payload := if rest.isEmpty then none else some (digitsValue rest)
  if word == "inf" || word == "infinity" then
    if rest.isEmpty then some (.infinite negative) else none
  else if word == "nan" && rest.all isDecimalDigit then some (.nan negative false payload)
  else if word == "snan" && rest.all isDecimalDigit then some (.nan negative true payload)
  else (readDecimalParts? negative body).map fun p => .finite p.negative p.digits p.exponent

def sign (negative : Bool) : List Char := if negative then ['-'] else []

/-- Digits with the point in its place if it stands among them or close before them, else with one
digit before the point and an exponent. -/
def finiteText (coefficient : Nat) (exponent : Int) : List Char :=
  let ds := Nat.toDigits 10 coefficient
  let before : Int := exponent + ds.length
  let plain := exponent ≤ 0 ∧ -6 < before
  let place : Int := if plain then before else 1
  let mantissa :=
    if place ≤ 0 then '0' :: '.' :: (List.replicate (-place).toNat '0' ++ ds)
    else if ds.length ≤ place then ds ++ List.replicate (place - ds.length).toNat '0'
    else ds.take place.toNat ++ '.' :: ds.drop place.toNat
  if before = place then mantissa
  else
    let e := before - place
    mantissa ++ 'E' :: (if e < 0 then '-' else '+') :: Nat.toDigits 10 e.natAbs

def text : DecimalNumber → String
  | finite s c e => String.ofList (sign s ++ finiteText c e)
  | infinite s => String.ofList (sign s ++ "Infinity".toList)
  | nan s signaling payload =>
    String.ofList (sign s ++ (if signaling then "sNaN" else "NaN").toList ++
      ((payload.map (Nat.toDigits 10)).getD []))

def isNaN : DecimalNumber → Bool
  | nan .. => true
  | _ => false

def isZero : DecimalNumber → Bool
  | finite _ c _ => c == 0
  | _ => false

def truncate? : DecimalNumber → Option Int
  | finite s c e =>
    some (signedInt s (if 0 ≤ e then c * Nat.pow 10 e.toNat else c / Nat.pow 10 (-e).toNat))
  | _ => none

def ratio? : DecimalNumber → Option (Int × Nat)
  | finite s c e =>
    some (if 0 ≤ e then (signedInt s (c * Nat.pow 10 e.toNat), 1)
      else (signedInt s c, Nat.pow 10 (-e).toNat))
  | _ => none

end DecimalNumber

end GraphTemplate
