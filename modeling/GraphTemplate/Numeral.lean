import GraphTemplate.Binary64
import GraphTemplate.Text.Character
import GraphTemplate.Text.Lowercase

/-!
Numbers read from text and integers written to it. Blanks around a number, a sign, digits of any
script and single underscores between digits are read; integers of more than `digitLimit` digits
are neither read nor written.
-/

namespace GraphTemplate

/-- The longest integer that is read from or written to decimal text. -/
def digitLimit : Nat := 4300

inductive NumeralError where
  | malformed
  | tooLong (digits : Nat)
  deriving DecidableEq

def integerText? (n : Int) : Option String :=
  let ds := Nat.toDigits 10 n.natAbs
  if ds.length ≤ digitLimit then some (String.ofList (if n < 0 then '-' :: ds else ds)) else none

def startsWithDigit : List Char → Bool
  | c :: _ => isDecimalDigit c
  | [] => false

/-- The digits ahead, after a digit if `seen`, and what follows them. -/
def spanDigitsFrom (seen : Bool) : List Char → List Char × List Char
  | [] => ([], [])
  | c :: cs =>
    if isDecimalDigit c then
      let (ds, rest) := spanDigitsFrom true cs
      (c :: ds, rest)
    else if seen && c == '_' && startsWithDigit cs then spanDigitsFrom false cs
    else ([], c :: cs)

/-- Digits with single underscores between them, and what follows the last digit. -/
def spanDigits : List Char → List Char × List Char := spanDigitsFrom false

def spanSign : List Char → Bool × List Char
  | '-' :: cs => (true, cs)
  | '+' :: cs => (false, cs)
  | cs => (false, cs)

/-- Blanks around numbers are those of text but for the information separators. -/
def isNumeralBlank (c : Char) : Bool := isBlank c && !(28 ≤ c.toNat && c.toNat ≤ 31)

def trimNumeral (cs : List Char) : List Char :=
  ((cs.dropWhile isNumeralBlank).reverse.dropWhile isNumeralBlank).reverse

def signedInt (negative : Bool) (n : Nat) : Int := if negative then -(n : Int) else n

def readInteger (cs : List Char) : Except NumeralError Int :=
  let (negative, body) := spanSign (trimNumeral cs)
  let (ds, rest) := spanDigits body
  if ds.isEmpty then .error .malformed
  else if rest.isEmpty then
    if ds.length ≤ digitLimit then .ok (signedInt negative (digitsValue ds))
    else .error (.tooLong ds.length)
  else .error .malformed

/-- The exponent after a number's digits: none, or an e, a sign and digits. -/
def readExponent? : List Char → Option Int
  | [] => some 0
  | c :: cs =>
    if c == 'e' || c == 'E' then
      let (negative, body) := spanSign cs
      let (ds, rest) := spanDigits body
      if ds.isEmpty || !rest.isEmpty then none else some (signedInt negative (digitsValue ds))
    else none

structure DecimalParts where
  negative : Bool
  digits : Nat
  exponent : Int
  deriving DecidableEq

/-- Reads digits, a point, more digits and an exponent; one digit at least. -/
def readDecimalParts? (negative : Bool) (cs : List Char) : Option DecimalParts := do
  let (whole, rest) := spanDigits cs
  let (part, rest) := match rest with
    | '.' :: more => spanDigits more
    | _ => ([], rest)
  guard (!(whole.isEmpty && part.isEmpty))
  let e ← readExponent? rest
  return ⟨negative, digitsValue (whole ++ part), e - part.length⟩

/-- The floating-point number nearest to what a text denotes; names of infinity and of the
non-number are read in any case. -/
def readBinary64? (cs : List Char) : Option Binary64 :=
  let (negative, body) := spanSign (trimNumeral cs)
  let word := String.ofList (body.map lowerChar)
  if word == "inf" || word == "infinity" then some (.infinity negative)
  else if word == "nan" then some .nan
  else (readDecimalParts? negative body).map fun p => .ofDecimal p.negative p.digits p.exponent

end GraphTemplate
