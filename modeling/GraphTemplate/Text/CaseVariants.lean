import GraphTemplate.Text.Lowercase

/-!
Letters that differ in case only, one character each. Two letters are variants if their lowercase
letters are the same, or have the same capital.
-/

namespace GraphTemplate

/-- Lowercase letters that share a capital. -/
def lowercaseTwins : List (List Nat) := [
  [0x69, 0x131], [0x73, 0x17f], [0xb5, 0x3bc], [0x345, 0x3b9, 0x1fbe], [0x390, 0x1fd3], [0x3b0,
  0x1fe3], [0x3b2, 0x3d0], [0x3b5, 0x3f5], [0x3b8, 0x3d1], [0x3ba, 0x3f0], [0x3c0, 0x3d6], [0x3c1,
  0x3f1], [0x3c2, 0x3c3], [0x3c6, 0x3d5], [0x432, 0x1c80], [0x434, 0x1c81], [0x43e, 0x1c82],
  [0x441, 0x1c83], [0x442, 0x1c84, 0x1c85], [0x44a, 0x1c86], [0x463, 0x1c87], [0x1c88, 0xa64b],
  [0x1e61, 0x1e9b], [0xfb05, 0xfb06]]

def lowerCode (code : Nat) : Nat :=
  if code = 0x130 then 0x69
  else if 0xd800 ≤ code ∧ code < 0xe000 then code
  else (lowerChar (Char.ofNat code)).toNat

/-- The lowercase letters that share a capital with the lowercase letter `code`, itself first. -/
def twinsOf (code : Nat) : List Nat :=
  code :: ((lowercaseTwins.filter (·.contains code)).flatten.filter (· != code))

def capitalsOf (code : Nat) : List Nat :=
  let ascii := if 0x61 ≤ code ∧ code ≤ 0x7a then [code - 0x20] else []
  let dotted := if code = 0x69 then [0x130] else []
  let others := capitalRuns.filterMap fun r =>
    let n := (code : Int) - r.shift
    if r.first ≤ n ∧ n ≤ r.last ∧ (n - r.first) % r.step = 0 then some n.toNat else none
  ascii ++ dotted ++ others

def areCaseVariants (a b : Nat) : Bool := (twinsOf (lowerCode a)).contains (lowerCode b)

/-- All letters that differ from `code` in case only, itself included. -/
def caseVariants (code : Nat) : List Nat :=
  (twinsOf (lowerCode code)).flatMap fun t => t :: capitalsOf t

end GraphTemplate
