/-!
Binary floating-point numbers of 64 bits, computed exactly: a number is its sign, its biased
exponent and its fraction, and every rounding is one division of natural numbers. A finite number
is a multiple of `2 ^ -1074`; `scaled` is that multiple.
-/

namespace GraphTemplate

structure Binary64 where
  negative : Bool
  exponent : Fin 2048
  fraction : Fin 0x10000000000000
  deriving DecidableEq

namespace Binary64

/-- Infinities and non-numbers have the largest exponent. -/
def isFinite (x : Binary64) : Bool := x.exponent != 2047
def isNaN (x : Binary64) : Bool := x.exponent == 2047 && x.fraction != 0
def isInfinite (x : Binary64) : Bool := x.exponent == 2047 && x.fraction == 0

def significand (x : Binary64) : Nat :=
  if x.exponent = 0 then x.fraction.val else 0x10000000000000 + x.fraction.val

/-- The position of the last binary digit of the significand, counted from that of `2 ^ -1074`. -/
def position (x : Binary64) : Nat := x.exponent.val - 1

def scaled (x : Binary64) : Nat := x.significand <<< x.position

def isZero (x : Binary64) : Bool := x.isFinite && x.scaled == 0

/-- The number whose exponent and fraction, read as one numeral, are `code`; too large a code is
that of infinity. -/
def ofCode (negative : Bool) (code : Nat) : Binary64 :=
  if h : code < 2047 * 0x10000000000000 then
    ⟨negative, ⟨code / 0x10000000000000, by omega⟩,
      ⟨code % 0x10000000000000, Nat.mod_lt _ (by decide)⟩⟩
  else ⟨negative, 2047, 0⟩

def zero (negative : Bool) : Binary64 := ofCode negative 0
def infinity (negative : Bool) : Binary64 := ⟨negative, 2047, 0⟩
def nan : Binary64 := ⟨false, 2047, 0x8000000000000⟩

/-- The quotient rounded to the nearest whole number, a half to the even one. -/
def roundDiv (n d : Nat) : Nat :=
  let q := n / d
  let r := n % d
  if 2 * r < d then q else if d < 2 * r then q + 1 else q + q % 2

/-- The nearest number to `num / den`, a tie to the even significand; a quotient that rounds to
`2 ^ 1024` or more gives infinity. -/
def ofRatio (negative : Bool) (num den : Nat) : Binary64 :=
  if num = 0 then zero negative else
  let units := num <<< 1074
  let shift := (units / den).log2 - 52
  ofCode negative (shift * 0x10000000000000 + roundDiv units (den <<< shift))

def ofInt (n : Int) : Binary64 := ofRatio (decide (n < 0)) n.natAbs 1

def ofDecimal (negative : Bool) (digits : Nat) (exponent : Int) : Binary64 :=
  if digits = 0 then zero negative
  else if 400 < exponent then infinity negative
  else if exponent < -(400 + digits.log2 : Int) then zero negative
  else if 0 ≤ exponent then ofRatio negative (digits * Nat.pow 10 exponent.toNat) 1
  else ofRatio negative digits (Nat.pow 10 (-exponent).toNat)

def scaledInt (x : Binary64) : Int := if x.negative then -(x.scaled : Int) else x.scaled

/-- Equality of numbers: the two zeros are equal, and a non-number equals nothing. -/
def same (x y : Binary64) : Bool :=
  if x.isFinite && y.isFinite then x.scaledInt == y.scaledInt
  else x.isInfinite && y.isInfinite && x.negative == y.negative

def isRatio (x : Binary64) (num : Int) (den : Nat) : Bool :=
  x.isFinite && x.scaledInt * den == num * (1 <<< 1074 : Nat)

def truncate (x : Binary64) : Int :=
  let n : Nat := x.scaled >>> 1074
  if x.negative then -(n : Int) else n

theorem same_comm (x y : Binary64) : same x y = same y x := by
  simp only [same, Bool.and_comm x.isFinite, Bool.and_comm x.isInfinite,
    Bool.beq_comm (a := x.negative)]
  rw [BEq.comm (a := x.scaledInt)]

def add (x y : Binary64) : Binary64 :=
  if x.isNaN || y.isNaN then nan
  else if x.isInfinite then
    if y.isInfinite && x.negative != y.negative then nan else x
  else if y.isInfinite then y
  else
    let n := x.scaledInt + y.scaledInt
    if n = 0 then zero (x.negative && y.negative)
    else ofRatio (decide (n < 0)) n.natAbs (1 <<< 1074)

def mul (x y : Binary64) : Binary64 :=
  let negative := x.negative != y.negative
  if x.isNaN || y.isNaN then nan
  else if x.isInfinite || y.isInfinite then
    if x.isZero || y.isZero then nan else infinity negative
  else ofRatio negative (x.scaled * y.scaled) (1 <<< 2148)

def negate (x : Binary64) : Binary64 := { x with negative := !x.negative }

end Binary64

end GraphTemplate
