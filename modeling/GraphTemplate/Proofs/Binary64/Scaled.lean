import GraphTemplate.Binary64
import Mathlib.Algebra.Group.Nat.Defs

/-! Finite numbers by their magnitudes. A number is the only one of its sign and magnitude, and it
is found again from its significand and the position of the last digit. -/
namespace GraphTemplate.Binary64

variable {x y : Binary64}

theorem significand_lt (x : Binary64) : x.significand < 2 ^ 53 := by
  have := x.fraction.isLt
  unfold significand
  split <;> omega

/-- Only numbers of the least exponent have significands of fewer than 53 digits. -/
theorem two_pow_le_significand (h : x.exponent ≠ 0) : 2 ^ 52 ≤ x.significand := by
  rw [significand, if_neg h]
  omega

theorem scaled_eq (x : Binary64) : x.scaled = x.significand * 2 ^ x.position := Nat.shiftLeft_eq _ _

theorem significand_pos (h : x.scaled ≠ 0) : 0 < x.significand := by
  apply Nat.pos_of_ne_zero
  intro h0
  exact h (by rw [scaled_eq, h0, Nat.zero_mul])

theorem scaled_lt_of_exponent_lt (h : x.exponent < y.exponent) : x.scaled < y.scaled := by
  have hx := x.fraction.isLt
  have hy : 2 ^ 52 ≤ y.significand := by
    apply two_pow_le_significand
    intro he
    rw [he] at h
    exact absurd h (Fin.not_lt_zero _)
  have hval : x.exponent.val < y.exponent.val := h
  simp only [scaled, Nat.shiftLeft_eq]
  by_cases he : x.exponent = 0
  · have hzero : x.exponent.val = 0 := by rw [he]; rfl
    have hsig : x.significand = x.fraction.val := if_pos he
    have hone : 1 ≤ 2 ^ y.position := Nat.one_le_two_pow
    have hmul : y.significand * 1 ≤ y.significand * 2 ^ y.position := Nat.mul_le_mul_left _ hone
    have hpos' : x.position = 0 := by rw [position, hzero]
    rw [hpos', hsig]
    omega
  · have hx1 : x.exponent.val ≠ 0 := fun h0 => he (Fin.ext h0)
    have hle : x.position + 1 ≤ y.position := by
      simp only [position]
      omega
    calc x.significand * 2 ^ x.position
        < 2 ^ 53 * 2 ^ x.position :=
        Nat.mul_lt_mul_of_pos_right x.significand_lt (Nat.two_pow_pos _)
      _ = 2 ^ 52 * 2 ^ (x.position + 1) := by rw [← Nat.pow_add, ← Nat.pow_add]; congr 1; omega
      _ ≤ 2 ^ 52 * 2 ^ y.position :=
        Nat.mul_le_mul_left _ (Nat.pow_le_pow_right (by decide) hle)
      _ ≤ y.significand * 2 ^ y.position := Nat.mul_le_mul_right _ hy

theorem scaled_injective (hn : x.negative = y.negative) (h : x.scaled = y.scaled) : x = y := by
  have he : x.exponent = y.exponent := by
    rcases Nat.lt_trichotomy x.exponent.val y.exponent.val with hlt | he | hlt
    · exact absurd h (Nat.ne_of_lt (scaled_lt_of_exponent_lt hlt))
    · exact Fin.ext he
    · exact absurd h.symm (Nat.ne_of_lt (scaled_lt_of_exponent_lt hlt))
  have hp : x.position = y.position := by rw [position, position, he]
  simp only [scaled, Nat.shiftLeft_eq, hp] at h
  have hs : x.significand = y.significand := Nat.eq_of_mul_eq_mul_right (Nat.two_pow_pos _) h
  have hf : x.fraction.val = y.fraction.val := by
    simp only [significand, he] at hs
    split at hs <;> omega
  obtain ⟨_, _, _⟩ := x
  obtain ⟨_, _, _⟩ := y
  simp only [mk.injEq]
  exact ⟨hn, he, Fin.ext hf⟩

theorem scaled_zero (b : Bool) : (zero b).scaled = 0 := by cases b <;> decide

/-- The code of a finite number counts the significands below its own. -/
theorem ofCode_position (h : x.isFinite = true) :
    ofCode x.negative (x.position * 0x10000000000000 + x.significand) = x := by
  obtain ⟨negative, exponent, fraction⟩ := x
  have he := exponent.isLt
  have hf := fraction.isLt
  have hne : exponent.val ≠ 2047 := by
    intro h2047
    exact bne_iff_ne.mp h (Fin.ext h2047)
  have hcode : (Binary64.mk negative exponent fraction).position * 0x10000000000000 +
      (Binary64.mk negative exponent fraction).significand =
        exponent.val * 0x10000000000000 + fraction.val := by
    simp only [position, significand]
    by_cases h0 : exponent = 0
    · rw [if_pos h0, h0]
      rfl
    · have h1 : exponent.val ≠ 0 := fun hz => h0 (Fin.ext hz)
      rw [if_neg h0]
      omega
  rw [hcode, ofCode, dif_pos (by omega)]
  simp only [mk.injEq, true_and]
  exact ⟨Fin.ext (by dsimp only; omega), Fin.ext (by dsimp only; omega)⟩

end GraphTemplate.Binary64
