import GraphTemplate.Proofs.Binary64.Rounding
import Mathlib.Algebra.Order.Field.Basic

/-! The shortest decimal of a number is rounded to the number. A grid that is fine enough has such a
decimal below the number, and the search for the first grid that has one begins no more than its
number of steps above a grid so fine. -/
namespace GraphTemplate.Binary64

theorem decimalUnits_pos (n : Nat) (e : Int) : 0 < (decimalUnits n e).2 := by
  unfold decimalUnits
  split
  · exact Nat.one_pos
  · exact Nat.pow_pos (by decide)

theorem decimalUnits_eq (n : Nat) (e : Int) :
    ((decimalUnits n e).1 / (decimalUnits n e).2 : ℚ) = n * (10 : ℚ) ^ e * unitsPerOne := by
  unfold decimalUnits
  split
  · next he =>
    obtain ⟨k, rfl⟩ := Int.eq_ofNat_of_zero_le he
    rw [← mul_unitsPerOne, zpow_natCast, Nat.cast_one, div_one]
    simp only [Int.toNat_natCast, Nat.pow_eq, Nat.cast_mul, Nat.cast_pow, Nat.cast_ofNat]
  · next he =>
    obtain ⟨k, hk⟩ := Int.eq_ofNat_of_zero_le (show 0 ≤ -e by omega)
    have hek : e = -(k : Int) := by omega
    subst hek
    rw [← mul_unitsPerOne, zpow_neg, zpow_natCast]
    simp only [neg_neg, Int.toNat_natCast, Nat.pow_eq, Nat.cast_mul, Nat.cast_pow, Nat.cast_ofNat]
    rw [div_eq_mul_inv, mul_right_comm]

variable {x : Binary64} {e : Int} {n : Nat}

/-- A multiple of a power of ten is accepted if it is rounded to the number. -/
theorem accepts_decimalUnits : x.rounding.accepts (n * (decimalUnits 1 e).1) (decimalUnits 1 e).2 =
    true ↔ x.RoundedFrom (n * (10 : ℚ) ^ e) := by
  have hunits := decimalUnits_eq 1 e
  rw [Rounding.accepts_iff (decimalUnits_pos 1 e), RoundedFrom, Nat.cast_mul, mul_div_assoc, hunits,
    Nat.cast_one, one_mul, mul_assoc]

theorem roundedFrom_of_onGrid? (h : x.onGrid? e = some n) : x.RoundedFrom (n * (10 : ℚ) ^ e) := by
  apply accepts_decimalUnits.mp
  unfold onGrid? at h
  dsimp only at h
  split at h
  · next hdown hup =>
    split at h
    · exact Option.some.inj h ▸ hdown
    · exact Option.some.inj h ▸ hup
  · next hdown _ => exact Option.some.inj h ▸ hdown
  · next _ hup => exact Option.some.inj h ▸ hup
  · cases h

/-- Half of the last place below a number belongs to its interval. -/
theorem two_mul_low_add_le (hs : x.scaled ≠ 0) :
    2 * x.rounding.low + 2 ^ x.position ≤ 4 * x.scaled := by
  have hulp := two_pow_position_le hs
  have hdvd (h : 1 < x.exponent.val) : 2 ∣ 2 ^ x.position :=
    dvd_pow_self 2 (by rw [position]; omega)
  simp only [rounding, Nat.one_shiftLeft]
  generalize 2 ^ x.position = ulp at hulp hdvd ⊢
  split
  · next h =>
    have htwo := hdvd h.2
    omega
  · omega

theorem accepts_of_lt {r : Rounding} {num den : Nat} (hlow : r.low * den < num)
    (hhigh : num < r.high * den) : r.accepts num den = true := by
  unfold Rounding.accepts
  split <;> simp only [Bool.and_eq_true, decide_eq_true_eq] <;> omega

theorem onGrid?_ne_none_of_below
    (h : x.rounding.accepts (2 * x.scaled * (decimalUnits 1 e).2 / (decimalUnits 1 e).1 *
      (decimalUnits 1 e).1) (decimalUnits 1 e).2 = true) : x.onGrid? e ≠ none := by
  unfold onGrid?
  generalize decimalUnits 1 e = units at h ⊢
  obtain ⟨unit, den⟩ := units
  dsimp only at h ⊢
  rw [h]
  cases x.rounding.accepts ((2 * x.scaled * den / unit + 1) * unit) den <;> simp

/-- A number is rounded to itself. -/
theorem accepts_self (hs : x.scaled ≠ 0) : x.rounding.accepts (2 * x.scaled) 1 = true := by
  have hlow := two_mul_low_add_le hs
  have hpos := Nat.two_pow_pos x.position
  apply accepts_of_lt
  · omega
  · rw [high_eq]
    omega

/-- A grid whose steps are half of the last place at most has a decimal just below the number. -/
theorem onGrid?_ne_none (hs : x.scaled ≠ 0)
    (h : 2 * ((10 : ℚ) ^ e * unitsPerOne) ≤ 2 ^ x.position) : x.onGrid? e ≠ none := by
  apply onGrid?_ne_none_of_below
  have hd := decimalUnits_pos 1 e
  have hratio := decimalUnits_eq 1 e
  generalize decimalUnits 1 e = units at hd hratio ⊢
  obtain ⟨unit, den⟩ := units
  dsimp only at hd hratio ⊢
  have hd' : (0 : ℚ) < den := by exact_mod_cast hd
  have hu : (0 : ℚ) < unitsPerOne := by exact_mod_cast unitsPerOne_pos
  rw [Nat.cast_one, one_mul] at hratio
  have hpos : 0 < unit := by
    have hq : (0 : ℚ) < unit / den := hratio ▸ mul_pos (zpow_pos (by norm_num) e) hu
    exact_mod_cast (div_pos_iff_of_pos_right hd').mp hq
  have hstep : 2 * unit ≤ 2 ^ x.position * den := by
    rw [← hratio, ← mul_div_assoc, div_le_iff₀ hd'] at h
    exact_mod_cast h
  have hlow := Nat.mul_le_mul_right den (two_mul_low_add_le hs)
  rw [Nat.add_mul] at hlow
  have hdown := Nat.div_add_mod' (2 * x.scaled * den) unit
  have hmod := Nat.mod_lt (2 * x.scaled * den) hpos
  apply accepts_of_lt
  · have hl : 2 * x.rounding.low * den = 2 * (x.rounding.low * den) := Nat.mul_assoc _ _ _
    have hs : 4 * x.scaled * den = 2 * (2 * x.scaled * den) := by ring
    omega
  · rw [high_eq, Nat.add_mul]
    omega

/-- The search ends at the first grid that has a decimal for the number. -/
theorem onGridFrom_spec {steps k : Nat} (hk : k ≤ steps) (h : x.onGrid? (e - k) ≠ none) :
    x.onGrid? (x.onGridFrom steps e).2 = some (x.onGridFrom steps e).1 ∧
      e - k ≤ (x.onGridFrom steps e).2 := by
  induction steps generalizing e k with
  | zero =>
    obtain rfl : k = 0 := by omega
    obtain ⟨n, hn⟩ := Option.ne_none_iff_exists'.mp h
    have hzero : e - (0 : Nat) = e := by omega
    rw [hzero] at hn
    simp only [onGridFrom, hn, Option.getD_some, true_and]
    omega
  | succ steps ih =>
    cases hn : x.onGrid? e with
    | some n =>
      simp only [onGridFrom, hn, true_and]
      omega
    | none =>
      have hpos : k ≠ 0 := by
        rintro rfl
        exact h (by simpa using hn)
      have hprev : e - 1 - (k - 1 : Nat) = e - k := by omega
      have hrest := ih (k := k - 1) (e := e - 1) (by omega) (by rwa [hprev])
      simp only [onGridFrom, hn]
      rwa [hprev] at hrest

/-- A power of ten against a power of two: `10 ^ 3 ≤ 2 ^ 10`, and `2 ^ 33 ≤ 10 ^ 10` for negative
exponents. -/
theorem ten_zpow_le_two_zpow {e b : Int} (hpos : 10 * e ≤ 3 * b) (hneg : 33 * e ≤ 10 * b) :
    (10 : ℚ) ^ e ≤ 2 ^ b := by
  have hroot {n : Nat} (hn : n ≠ 0) (h : ((10 : ℚ) ^ e) ^ n ≤ ((2 : ℚ) ^ b) ^ n) :
      (10 : ℚ) ^ e ≤ 2 ^ b := (pow_le_pow_iff_left₀ (by positivity) (by positivity) hn).mp h
  have hswap (a : ℚ) (n : Nat) (i : Int) : (a ^ i) ^ n = (a ^ n) ^ i := by
    rw [← zpow_natCast, ← zpow_mul, mul_comm, zpow_mul, zpow_natCast]
  have htwo (n : Nat) {i : Int} (h : n * e ≤ i * b) : ((2 : ℚ) ^ n) ^ e ≤ 2 ^ (i * b) := by
    rw [← zpow_natCast, ← zpow_mul]
    exact zpow_le_zpow_right₀ one_le_two h
  rcases Int.le_total 0 e with he | he
  · apply hroot (n := 3) (by decide)
    calc ((10 : ℚ) ^ e) ^ 3 = (10 ^ 3) ^ e := hswap 10 3 e
      _ ≤ (2 ^ 10) ^ e := zpow_le_zpow_left₀ he (by norm_num) (by norm_num)
      _ ≤ 2 ^ (3 * b) := htwo 10 hpos
      _ = (2 ^ b) ^ 3 := by rw [mul_comm, zpow_mul]; rfl
  · apply hroot (n := 10) (by decide)
    have hinv : ((10 : ℚ) ^ 10)⁻¹ ^ (-e) ≤ ((2 : ℚ) ^ 33)⁻¹ ^ (-e) :=
      zpow_le_zpow_left₀ (by omega) (by norm_num) (by norm_num)
    rw [inv_zpow', inv_zpow', neg_neg] at hinv
    calc ((10 : ℚ) ^ e) ^ 10 = (10 ^ 10) ^ e := hswap 10 10 e
      _ ≤ (2 ^ 33) ^ e := hinv
      _ ≤ 2 ^ (10 * b) := htwo 33 hneg
      _ = (2 ^ b) ^ 10 := by rw [mul_comm, zpow_mul]; rfl

theorem cast_unitsPerOne : (unitsPerOne : ℚ) = 2 ^ (1075 : Int) := by
  rw [unitsPerOne, Nat.cast_pow, Nat.cast_ofNat, zpow_ofNat]

theorem log2_le (x : Binary64) : (2 * x.scaled).log2 ≤ x.position + 53 := by
  by_cases hs : x.scaled = 0
  · rw [hs]
    exact Nat.zero_le _
  · apply Nat.le_of_lt_succ
    rw [Nat.log2_lt (by omega), scaled_eq]
    have hlt := Nat.mul_lt_mul_of_pos_right x.significand_lt (Nat.two_pow_pos x.position)
    have hpow : 2 ^ (x.position + 53).succ = 2 * (2 ^ 53 * 2 ^ x.position) := by
      rw [← Nat.pow_add, ← Nat.pow_succ']
      congr 1
      omega
    omega

def firstGrid (x : Binary64) : Int := (((2 * x.scaled).log2 : Int) - 1075) * 30103 / 100000 + 2

/-- The search begins less than forty grids above one that is fine enough. -/
theorem onGrid?_firstGrid (hs : x.scaled ≠ 0) : x.onGrid? (x.firstGrid - (40 : Nat)) ≠ none := by
  have hlog := x.log2_le
  have hpos : x.position ≤ 2046 := by
    have hlt := x.exponent.isLt
    rw [position]
    omega
  apply onGrid?_ne_none hs
  obtain ⟨b, hb⟩ : ∃ b : Int, b = ((2 * x.scaled).log2 : Int) - 1075 := ⟨_, rfl⟩
  have hten : (10 : ℚ) ^ (x.firstGrid - (40 : Nat)) ≤ 2 ^ (b - 54) := by
    apply ten_zpow_le_two_zpow <;> rw [firstGrid, ← hb] <;> omega
  calc 2 * ((10 : ℚ) ^ (x.firstGrid - (40 : Nat)) * unitsPerOne)
      ≤ 2 * (2 ^ (b - 54) * unitsPerOne) :=
        mul_le_mul_of_nonneg_left (mul_le_mul_of_nonneg_right hten (Nat.cast_nonneg _)) zero_le_two
    _ = 2 ^ (b + 1022) := by
        rw [cast_unitsPerOne, ← zpow_add₀ two_ne_zero, ← zpow_one_add₀ two_ne_zero]
        congr 1
        omega
    _ ≤ 2 ^ (x.position : Int) := zpow_le_zpow_right₀ one_le_two (by omega)
    _ = 2 ^ x.position := zpow_natCast 2 _

theorem shortest_spec (hs : x.scaled ≠ 0) : x.onGrid? x.shortest.2 = some x.shortest.1 :=
  (onGridFrom_spec (Nat.le_refl 40) (onGrid?_firstGrid hs)).1

/-- The shortest decimal is rounded to the number. -/
theorem roundedFrom_shortest (hs : x.scaled ≠ 0) :
    x.RoundedFrom (x.shortest.1 * (10 : ℚ) ^ x.shortest.2) :=
  roundedFrom_of_onGrid? (shortest_spec hs)

theorem shortest_ne_zero (hs : x.scaled ≠ 0) : x.shortest.1 ≠ 0 := by
  intro h0
  have hone := (roundedFrom_shortest hs).pos hs
  rw [h0, Nat.cast_zero, zero_mul, zero_mul] at hone
  linarith

end GraphTemplate.Binary64
