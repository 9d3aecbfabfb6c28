import GraphTemplate.Binary64
import Mathlib.Algebra.Group.Nat.Defs

/-! Quotients that are too large for a finite number: those from half a unit above the largest one
on. The half itself is a tie, and goes to the even neighbour, which is the infinite one. -/
namespace GraphTemplate.Binary64

theorem isInfinite_ofCode {negative : Bool} {code : Nat} :
    (ofCode negative code).isInfinite = true ↔ (2045 + 2) * 2 ^ 52 ≤ code := by
  unfold ofCode
  split
  · next h =>
    have hexp : code / 0x10000000000000 < 2047 := by omega
    have hne : (⟨code / 0x10000000000000, by omega⟩ : Fin 2048) ≠ 2047 := by
      intro he
      have hval : code / 0x10000000000000 = 2047 := congrArg Fin.val he
      omega
    simp [isInfinite, hne]
    omega
  · next h => simp [isInfinite]; omega

section

variable {n d : Nat}

/-- Below the half, above it, and on it, where the quotient becomes even. -/
theorem roundDiv_cases (n d : Nat) :
    (2 * (n % d) < d ∧ roundDiv n d = n / d) ∨ (d < 2 * (n % d) ∧ roundDiv n d = n / d + 1) ∨
      (2 * (n % d) = d ∧ roundDiv n d = n / d + n / d % 2) := by
  unfold roundDiv
  dsimp only
  split
  · omega
  · split <;> omega

theorem le_roundDiv (n d : Nat) : n / d ≤ roundDiv n d := by
  rcases roundDiv_cases n d with ⟨-, h⟩ | ⟨-, h⟩ | ⟨-, h⟩ <;> omega

theorem roundDiv_le (n d : Nat) : roundDiv n d ≤ n / d + 1 := by
  rcases roundDiv_cases n d with ⟨-, h⟩ | ⟨-, h⟩ | ⟨-, h⟩ <;> omega

/-- An odd quotient is rounded up from the half on. -/
theorem roundDiv_eq_succ_iff (h : n / d % 2 = 1) :
    roundDiv n d = n / d + 1 ↔ d ≤ 2 * (n % d) := by
  rcases roundDiv_cases n d with ⟨hr, he⟩ | ⟨hr, he⟩ | ⟨hr, he⟩ <;> omega

/-- A quotient of 53 digits is rounded to the next power of two just from half a unit below it. -/
theorem two_pow_le_roundDiv_iff (hd : 0 < d) (h : n / d < 2 ^ 53) :
    2 ^ 53 ≤ roundDiv n d ↔ (2 ^ 54 - 1) * d ≤ 2 * n := by
  have hn := Nat.div_add_mod' n d
  have hr := Nat.mod_lt n hd
  by_cases hm : n / d = 2 ^ 53 - 1
  · have hodd : n / d % 2 = 1 := by omega
    have hle := roundDiv_le n d
    have hup := roundDiv_eq_succ_iff hodd
    rw [hm] at hle hup hn
    omega
  · have hle := roundDiv_le n d
    have hmul : n / d * d ≤ (2 ^ 53 - 2) * d := Nat.mul_le_mul_right d (by omega)
    omega

end

/-- The least magnitude that is no finite number's: half a unit above the largest one. -/
def overflow : Nat := (2 ^ 54 - 1) * 2 ^ 970

theorem overflow_pos : 0 < overflow := by
  have hpos (p : Nat) : 0 < (2 ^ 54 - 1) * 2 ^ p := Nat.mul_pos (by decide) (Nat.two_pow_pos p)
  rw [overflow]
  exact hpos 970

/-- A quotient with its last digits left out has 53 digits, or fewer if none are left out. -/
theorem digits_of_shift {x den shift : Nat} (h : shift = (x / den).log2 - 52) :
    x / (den * 2 ^ shift) < 2 ^ 53 ∧ (shift = 0 ∨ 2 ^ 52 ≤ x / (den * 2 ^ shift)) := by
  rw [← Nat.div_div_eq_div_mul]
  generalize x / den = q at h ⊢
  have hlt : q < 2 ^ (q.log2 + 1) := Nat.lt_log2_self
  constructor
  · rw [Nat.div_lt_iff_lt_mul (Nat.two_pow_pos _), ← Nat.pow_add]
    exact Nat.lt_of_lt_of_le hlt (Nat.pow_le_pow_right (by decide) (by omega))
  · by_cases hs : shift = 0
    · exact .inl hs
    · have hq : q ≠ 0 := by
        rintro rfl
        exact hs (by simpa using h)
      refine .inr ?_
      rw [Nat.le_div_iff_mul_le (Nat.two_pow_pos _), ← Nat.pow_add]
      exact Nat.le_trans (Nat.pow_le_pow_right (by decide) (by omega)) (Nat.log2_self_le hq)

/-- A quotient is rounded to `2 ^ (top + 53)` or more just from half a unit below it on. -/
theorem two_pow_le_code_iff {x den shift : Nat} (hd : 0 < den) (hs : shift = (x / den).log2 - 52)
    (top : Nat) :
    (top + 2) * 2 ^ 52 ≤ shift * 0x10000000000000 + roundDiv x (den * 2 ^ shift) ↔
      (2 ^ 54 - 1) * (den * 2 ^ top) ≤ 2 * x := by
  obtain ⟨hlt, hle⟩ := digits_of_shift hs
  have hpos (k : Nat) : 0 < den * 2 ^ k := Nat.mul_pos hd (Nat.two_pow_pos k)
  have hdouble {j k : Nat} (h : j < k) : 2 * (den * 2 ^ j) ≤ den * 2 ^ k := by
    have hmul := Nat.mul_le_mul_left den (Nat.pow_le_pow_right (n := 2) (by decide) h)
    rw [Nat.pow_succ, ← Nat.mul_assoc] at hmul
    omega
  have hlow := le_roundDiv x (den * 2 ^ shift)
  have hhigh := roundDiv_le x (den * 2 ^ shift)
  rcases Nat.lt_trichotomy shift top with h | rfl | h
  · have htop := hdouble h
    have hx := (Nat.div_lt_iff_lt_mul (hpos shift)).mp hlt
    omega
  · have hcode := two_pow_le_roundDiv_iff (hpos shift) hlt
    omega
  · have htop := hdouble h
    have hfull := hle.resolve_left (by omega)
    have hx := (Nat.le_div_iff_mul_le (hpos shift)).mp hfull
    omega

theorem mul_two_pow_le_iff {c num den p q : Nat} :
    c * 2 ^ p * den ≤ num ↔ c * (den * 2 ^ (p + q + 1)) ≤ 2 * (num <<< q) := by
  have hl : c * (den * 2 ^ (p + q + 1)) = c * 2 ^ p * den * 2 ^ (q + 1) := by
    rw [Nat.add_assoc, Nat.pow_add]
    ac_rfl
  have hr : 2 * (num <<< q) = num * 2 ^ (q + 1) := by
    rw [Nat.shiftLeft_eq, Nat.pow_succ]
    ac_rfl
  rw [hl, hr, Nat.mul_le_mul_right_iff (Nat.two_pow_pos _)]

/-- The largest finite numbers are shifted by 2045 digits. -/
theorem isInfinite_rounded {negative : Bool} {x den : Nat} (hd : 0 < den) :
    (ofCode negative (((x / den).log2 - 52) * 0x10000000000000 +
      roundDiv x (den <<< ((x / den).log2 - 52)))).isInfinite = true ↔
      (2 ^ 54 - 1) * (den * 2 ^ 2045) ≤ 2 * x := by
  rw [isInfinite_ofCode, Nat.shiftLeft_eq]
  exact two_pow_le_code_iff hd rfl 2045

theorem isInfinite_ofRatio {negative : Bool} {num den : Nat} :
    (ofRatio negative num den).isInfinite = true ↔ 0 < den ∧ overflow * den ≤ num := by
  have hscale := @mul_two_pow_le_iff (2 ^ 54 - 1) num den 970 1074
  have htop : 970 + 1074 + 1 = 2045 := rfl
  rw [htop] at hscale
  unfold ofRatio
  rcases Nat.eq_zero_or_pos den with rfl | hd
  · have hle := roundDiv_le (num <<< 1074) (0 <<< 0)
    have hzero : (num <<< 1074) / (0 <<< 0) = 0 := Nat.div_zero _
    rw [hzero] at hle
    refine iff_of_false ?_ fun h => Nat.lt_irrefl 0 h.1
    split
    · rw [zero, isInfinite_ofCode]
      omega
    · dsimp only
      rw [Nat.div_zero, Nat.log2_zero, Nat.zero_sub, isInfinite_ofCode]
      omega
  · by_cases hn : num = 0
    · subst hn
      have hpos : 0 < overflow * den := Nat.mul_pos overflow_pos hd
      rw [if_pos rfl, zero, isInfinite_ofCode]
      omega
    · rw [if_neg hn, isInfinite_rounded hd, ← hscale, overflow]
      exact (and_iff_right hd).symm

end GraphTemplate.Binary64
