import GraphTemplate.Binary64.Decimal
import GraphTemplate.Proofs.Binary64.Overflow
import GraphTemplate.Proofs.Binary64.Scaled
import Mathlib.Algebra.Order.Field.Power
import Mathlib.Data.Rat.Cast.Order
import Mathlib.Tactic.FieldSimp
import Mathlib.Tactic.Linarith
import Mathlib.Tactic.Positivity
import Mathlib.Tactic.Ring

/-! The numbers that round to a floating-point number: an interval around it, with its ends if the
significand is even. Whatever lies in the interval is rounded to the number. -/
namespace GraphTemplate.Binary64

/-- A number of units within the bounds; the bounds themselves only if they are closed. -/
def Rounding.Holds (r : Rounding) (q : ℚ) : Prop :=
  if r.closed = true then r.low ≤ q ∧ q ≤ r.high else r.low < q ∧ q < r.high

theorem Rounding.accepts_iff {r : Rounding} {num den : Nat} (hd : 0 < den) :
    r.accepts num den = true ↔ r.Holds (num / den : ℚ) := by
  have hd' : (0 : ℚ) < den := by exact_mod_cast hd
  unfold accepts Holds
  split
  · rw [Bool.and_eq_true, decide_eq_true_eq, decide_eq_true_eq, le_div_iff₀ hd', div_le_iff₀ hd']
    exact_mod_cast Iff.rfl
  · rw [Bool.and_eq_true, decide_eq_true_eq, decide_eq_true_eq, lt_div_iff₀ hd', div_lt_iff₀ hd']
    exact_mod_cast Iff.rfl

/-- What lies between numbers within the bounds is within the bounds. -/
theorem Rounding.Holds.between {r : Rounding} {p q v : ℚ} (hp : r.Holds p) (hq : r.Holds q)
    (hpv : p ≤ v) (hvq : v ≤ q) : r.Holds v := by
  by_cases hc : r.closed = true
  · simp only [Holds, hc, if_true] at hp hq ⊢
    exact ⟨hp.1.trans hpv, hvq.trans hq.2⟩
  · simp only [Holds, hc] at hp hq ⊢
    exact ⟨hp.1.trans_le hpv, hvq.trans_lt hq.2⟩

theorem Rounding.Holds.le {r : Rounding} {q : ℚ} (h : r.Holds q) : r.low ≤ q ∧ q ≤ r.high := by
  by_cases hc : r.closed = true
  · simpa only [Holds, hc, if_true] using h
  · simp only [Holds, hc] at h
    exact ⟨h.1.le, h.2.le⟩

section

variable {n d m : Nat}

/-- A quotient within half a unit of `m` is rounded to `m`, at half a unit if `m` is even. -/
theorem roundDiv_eq (hd : 0 < d) (hlow : 2 * (m * d) ≤ 2 * n + d) (hhigh : 2 * n ≤ 2 * (m * d) + d)
    (hodd : m % 2 = 1 → 2 * (m * d) < 2 * n + d ∧ 2 * n < 2 * (m * d) + d) :
    roundDiv n d = m := by
  have hn := Nat.div_add_mod' n d
  have hr := Nat.mod_lt n hd
  have hstep {i j : Nat} (h : i < j) : i * d + d ≤ j * d := by
    rw [← Nat.succ_mul]
    exact Nat.mul_le_mul_right d h
  have hcases := roundDiv_cases n d
  generalize roundDiv n d = rounded at hcases ⊢
  generalize n % d = r at hn hr hcases
  generalize n / d = q at hn hcases
  rcases Nat.lt_trichotomy q m with hq | rfl | hq
  · have hnext : (q + 1) * d = q * d + d := Nat.succ_mul q d
    have hqm : q + 1 = m := by
      by_contra hne
      have hgap : (q + 1) * d + d ≤ m * d := hstep (by omega)
      omega
    subst hqm
    omega
  · omega
  · have hmq := hstep hq
    omega

end

section

variable {x : Binary64} {num den : Nat}

theorem high_eq (x : Binary64) : x.rounding.high = 2 * x.scaled + 2 ^ x.position := by
  rw [← Nat.one_shiftLeft]
  rfl

/-- Below a power of two the units are half as large. -/
theorem low_eq (x : Binary64) : ∃ below, x.rounding.low = 2 * x.scaled - below ∧
    below ≤ 2 ^ x.position ∧
    (0 < x.position → x.significand = 2 ^ 52 → 2 * below = 2 ^ x.position) := by
  refine ⟨_, rfl, ?_, ?_⟩
  · rw [Nat.one_shiftLeft]
    split
    · exact Nat.div_le_self _ 2
    · exact Nat.le_refl _
  · intro hp hm
    have hexp : 1 < x.exponent.val := Nat.lt_of_sub_pos hp
    have hne : x.exponent ≠ 0 := fun h0 => by simp [h0] at hexp
    rw [significand, if_neg hne] at hm
    have hdvd : 2 ∣ 2 ^ x.position := dvd_pow_self 2 hp.ne'
    have hfraction : x.fraction.val = 0 := by omega
    rw [Nat.one_shiftLeft, if_pos ⟨hfraction, hexp⟩]
    exact Nat.mul_div_cancel' hdvd

/-- What is accepted lies within half a unit of the last place, strictly so if the significand is
odd, and within a quarter below a power of two. -/
theorem Rounding.bounds_of_accepts (h : x.rounding.accepts num den = true) :
    2 * (x.significand * (den * 2 ^ x.position)) ≤ num + den * 2 ^ x.position ∧
      num ≤ 2 * (x.significand * (den * 2 ^ x.position)) + den * 2 ^ x.position ∧
      (x.significand % 2 = 1 →
        2 * (x.significand * (den * 2 ^ x.position)) < num + den * 2 ^ x.position ∧
          num < 2 * (x.significand * (den * 2 ^ x.position)) + den * 2 ^ x.position) ∧
      (0 < x.position → x.significand = 2 ^ 52 →
        4 * (x.significand * (den * 2 ^ x.position)) ≤ 2 * num + den * 2 ^ x.position) := by
  obtain ⟨below, hlow, hle, hhalf⟩ := low_eq x
  have hscaled : x.scaled * den = x.significand * (den * 2 ^ x.position) := by
    rw [scaled_eq]
    ac_rfl
  have hle' : below * den ≤ den * 2 ^ x.position := by
    rw [Nat.mul_comm den]
    exact Nat.mul_le_mul_right den hle
  have hhalf' : 0 < x.position → x.significand = 2 ^ 52 →
      2 * (below * den) = den * 2 ^ x.position := by
    intro hp hm
    rw [← hhalf hp hm]
    ac_rfl
  have hclosed : x.rounding.closed = (x.significand % 2 == 0) := rfl
  unfold accepts at h
  rw [hlow, high_eq, Nat.sub_mul, Nat.add_mul, Nat.mul_assoc 2, hscaled,
    Nat.mul_comm (2 ^ x.position)] at h
  split at h
  · next hc =>
    rw [hclosed, beq_iff_eq] at hc
    simp only [Bool.and_eq_true, decide_eq_true_eq] at h
    refine ⟨by omega, by omega, by omega, fun hp hm => ?_⟩
    have hb := hhalf' hp hm
    omega
  · simp only [Bool.and_eq_true, decide_eq_true_eq] at h
    refine ⟨by omega, by omega, by omega, fun hp hm => ?_⟩
    have hb := hhalf' hp hm
    omega

theorem two_mul_le_of_lt (den : Nat) {j k : Nat} (h : j < k) : 2 * (den * 2 ^ j) ≤ den * 2 ^ k := by
  have hmul := Nat.mul_le_mul_left den (Nat.pow_le_pow_right (n := 2) (by decide) h)
  rw [Nat.pow_succ, ← Nat.mul_assoc] at hmul
  omega

/-- Units that are accepted have one digit fewer than the number only just below a power of two. -/
theorem position_of_shift_lt {units shift : Nat} (hd : 0 < den)
    (h : x.rounding.accepts (2 * units) den = true) (hdigits : units < 2 ^ 53 * (den * 2 ^ shift))
    (hshift : shift < x.position) : x.significand = 2 ^ 52 ∧ x.position = shift + 1 := by
  obtain ⟨hlow, -, -, hhalf⟩ := Rounding.bounds_of_accepts h
  have hexp : x.exponent ≠ 0 := fun h0 => by
    rw [position, h0] at hshift
    exact absurd hshift (by simp)
  have hnormal := two_pow_le_significand hexp
  have hunit : 0 < den * 2 ^ shift := Nat.mul_pos hd (Nat.two_pow_pos shift)
  have htwo := two_mul_le_of_lt den hshift
  have hsig : x.significand = 2 ^ 52 := by
    by_contra hne
    have hmul : (2 ^ 52 + 1) * (den * 2 ^ x.position) ≤
        x.significand * (den * 2 ^ x.position) := Nat.mul_le_mul_right _ (by omega)
    omega
  have hquarter := hhalf (Nat.zero_lt_of_lt hshift) hsig
  rw [hsig] at hquarter
  refine ⟨hsig, ?_⟩
  by_contra hne
  have hnext := two_mul_le_of_lt den (Nat.lt_add_one shift)
  have hfar := two_mul_le_of_lt den (show shift + 1 < x.position by omega)
  omega

/-- A quotient in the interval of a number other than zero is rounded to the number. -/
theorem ofRatio_of_accepts (hx : x.isFinite = true) (hs : x.scaled ≠ 0) (hd : 0 < den)
    (h : x.rounding.accepts (2 * (num <<< 1074)) den = true) :
    ofRatio x.negative num den = x := by
  obtain ⟨hlow, hhigh, hodd, hhalf⟩ := Rounding.bounds_of_accepts h
  have hlt := x.significand_lt
  have hpos (k : Nat) : 0 < den * 2 ^ k := Nat.mul_pos hd (Nat.two_pow_pos k)
  have hone : den * 2 ^ x.position ≤ x.significand * (den * 2 ^ x.position) :=
    Nat.le_mul_of_pos_left _ (significand_pos hs)
  have hunit := hpos x.position
  have hnum : num ≠ 0 := by
    rintro rfl
    rw [Nat.zero_shiftLeft] at hlow
    omega
  rw [ofRatio, if_neg hnum]
  dsimp only
  generalize num <<< 1074 = units at h hlow hhigh hodd hhalf ⊢
  obtain ⟨shift, hshift⟩ : ∃ shift, shift = (units / den).log2 - 52 := ⟨_, rfl⟩
  obtain ⟨hdigits, hfull⟩ := digits_of_shift hshift
  rw [← hshift, Nat.shiftLeft_eq]
  rw [Nat.div_lt_iff_lt_mul (hpos shift)] at hdigits
  rw [Nat.le_div_iff_mul_le (hpos shift)] at hfull
  rcases Nat.lt_trichotomy shift x.position with hsp | hsp | hsp
  · obtain ⟨hsig, hnext⟩ := position_of_shift_lt hd h hdigits hsp
    have hunits : den * 2 ^ x.position = 2 * (den * 2 ^ shift) := by
      rw [hnext, Nat.pow_succ]
      ac_rfl
    have hquarter := hhalf (Nat.zero_lt_of_lt hsp) hsig
    rw [hsig] at hhigh hquarter
    rw [roundDiv_eq (hpos shift) (m := 2 ^ 53) (by omega) (by omega) (by omega)]
    have hcode : shift * 0x10000000000000 + 2 ^ 53 =
        x.position * 0x10000000000000 + x.significand := by omega
    rw [hcode]
    exact ofCode_position hx
  · rw [hsp, roundDiv_eq hunit (by omega) (by omega) (fun ho => by have := hodd ho; omega)]
    exact ofCode_position hx
  · -- more digits than the number has are too many units
    have htwo := two_mul_le_of_lt den hsp
    have hmax : x.significand * (den * 2 ^ x.position) ≤ (2 ^ 53 - 1) * (den * 2 ^ x.position) :=
      Nat.mul_le_mul_right _ (by omega)
    have := hfull.resolve_left (by omega)
    omega

end

/-- As many units of an interval, multiples of `2 ^ -1075`, make one. -/
def unitsPerOne : Nat := 2 ^ 1075

theorem mul_unitsPerOne (n : Nat) : n * unitsPerOne = n <<< 1075 := by
  rw [Nat.shiftLeft_eq, unitsPerOne]

theorem unitsPerOne_pos : 0 < unitsPerOne := by
  have hpos (p : Nat) : 0 < 2 ^ p := Nat.two_pow_pos p
  rw [unitsPerOne]
  exact hpos 1075

theorem two_mul_shiftLeft (n : Nat) : 2 * (n <<< 1074) = n * unitsPerOne := by
  have hsucc := Nat.shiftLeft_succ n 1074
  have htop : 1074 + 1 = 1075 := rfl
  rw [htop] at hsucc
  rw [mul_unitsPerOne, hsucc]

theorem two_pow_mul_unitsPerOne (n : Nat) : 2 ^ n * unitsPerOne = 2 ^ (n + 1075) := by
  rw [unitsPerOne, Nat.pow_add]

theorem le_log2_of_unitsPerOne_le {n : Nat} (h : unitsPerOne ≤ n) : 1075 ≤ n.log2 := by
  have hlog (p : Nat) (hp : 2 ^ p ≤ n) : p ≤ n.log2 :=
    (Nat.le_log2 (Nat.ne_of_gt (Nat.lt_of_lt_of_le (Nat.two_pow_pos p) hp))).mpr hp
  rw [unitsPerOne] at h
  exact hlog 1075 h

/-- The number is what the magnitude `q` is rounded to. -/
def RoundedFrom (x : Binary64) (q : ℚ) : Prop := x.rounding.Holds (q * unitsPerOne)

section

variable {x : Binary64} {q : ℚ}

theorem RoundedFrom.between {p v : ℚ} (hp : x.RoundedFrom p) (hq : x.RoundedFrom q) (hpv : p ≤ v)
    (hvq : v ≤ q) : x.RoundedFrom v :=
  Rounding.Holds.between hp hq (mul_le_mul_of_nonneg_right hpv (by positivity))
    (mul_le_mul_of_nonneg_right hvq (by positivity))

theorem two_pow_position_le (hs : x.scaled ≠ 0) : 2 ^ x.position ≤ x.scaled := by
  rw [scaled_eq]
  exact Nat.le_mul_of_pos_left _ (significand_pos hs)

theorem scaled_le_low (hs : x.scaled ≠ 0) : x.scaled ≤ x.rounding.low := by
  have hulp := two_pow_position_le hs
  have hhalf := Nat.div_le_self (2 ^ x.position) 2
  simp only [rounding, Nat.one_shiftLeft]
  split <;> omega

theorem RoundedFrom.pos (h : x.RoundedFrom q) (hs : x.scaled ≠ 0) : 1 ≤ q * unitsPerOne := by
  have hlow := scaled_le_low hs
  have hone : 1 ≤ x.rounding.low := by omega
  calc (1 : ℚ) ≤ x.rounding.low := by exact_mod_cast hone
    _ ≤ q * unitsPerOne := h.le.1

theorem two_pow_le_ten_pow {j k : Nat} (h : j ≤ 3 * k) : 2 ^ j ≤ 10 ^ k :=
  calc 2 ^ j ≤ 2 ^ (3 * k) := Nat.pow_le_pow_right (by decide) h
    _ = 8 ^ k := Nat.pow_mul 2 3 k
    _ ≤ 10 ^ k := Nat.pow_le_pow_left (by decide) k

theorem high_lt (hx : x.isFinite = true) : x.rounding.high < 2 ^ 1025 * unitsPerOne := by
  have hexp : x.exponent.val < 2047 := by
    have hne : x.exponent.val ≠ 2047 := fun h => bne_iff_ne.mp hx (Fin.ext h)
    have hlt := x.exponent.isLt
    omega
  have hpos : x.position ≤ 2045 := by
    rw [position]
    omega
  have hsig : 2 * x.significand + 1 < 2 ^ 55 := by
    have hlt := x.significand_lt
    omega
  calc x.rounding.high = (2 * x.significand + 1) * 2 ^ x.position := by
        rw [high_eq, scaled_eq]
        ring
    _ < 2 ^ 55 * 2 ^ x.position := Nat.mul_lt_mul_of_pos_right hsig (Nat.two_pow_pos _)
    _ = 2 ^ (55 + x.position) := (Nat.pow_add 2 55 _).symm
    _ ≤ 2 ^ 1025 * unitsPerOne := by
        rw [two_pow_mul_unitsPerOne]
        exact pow_le_pow_right₀ one_le_two (by omega)

theorem ofRatio_of_roundedFrom {num den : Nat} (hx : x.isFinite = true) (hs : x.scaled ≠ 0)
    (hd : 0 < den) (h : x.RoundedFrom (num / den)) : ofRatio x.negative num den = x := by
  apply ofRatio_of_accepts hx hs hd
  rw [Rounding.accepts_iff hd, two_mul_shiftLeft, Nat.cast_mul, mul_div_right_comm]
  exact h

variable {digits : Nat} {e : Int}

/-- Above all finite numbers nothing is rounded to one. -/
theorem not_large (hx : x.isFinite = true) (hdigits : digits ≠ 0)
    (h : x.RoundedFrom (digits * (10 : ℚ) ^ e)) : ¬400 < e := by
  intro he
  obtain ⟨k, rfl⟩ := Int.eq_ofNat_of_zero_le (show 0 ≤ e by omega)
  have hpow : 2 ^ 1025 ≤ 10 ^ k := two_pow_le_ten_pow (by omega)
  have hle : 10 ^ k ≤ digits * 10 ^ k := Nat.le_mul_of_pos_left _ (by omega)
  have hhigh : digits * 10 ^ k * unitsPerOne ≤ x.rounding.high := by
    have hq := h.le.2
    rw [zpow_natCast] at hq
    exact_mod_cast hq
  have hmul : 2 ^ 1025 * unitsPerOne ≤ digits * 10 ^ k * unitsPerOne :=
    Nat.mul_le_mul_right _ (hpow.trans hle)
  exact absurd (hmul.trans hhigh) (Nat.not_le_of_lt (high_lt hx))

/-- Below half the least number other than zero nothing is rounded to one. -/
theorem not_small (hs : x.scaled ≠ 0) (h : x.RoundedFrom (digits * (10 : ℚ) ^ e)) :
    ¬e < -(400 + digits.log2 : Int) := by
  intro he
  obtain ⟨k, hk⟩ := Int.eq_ofNat_of_zero_le (show 0 ≤ -e by omega)
  have hek : e = -(k : Int) := by omega
  subst hek
  have hone : 10 ^ k ≤ digits * unitsPerOne := by
    have hq := h.pos hs
    rw [zpow_neg, zpow_natCast, mul_right_comm, ← div_eq_mul_inv,
      one_le_div₀ (by positivity)] at hq
    exact_mod_cast hq
  have hdigits : digits < 2 ^ (digits.log2 + 1) := Nat.lt_log2_self
  have hpow : 2 ^ (digits.log2 + 1 + 1075) ≤ 10 ^ k := two_pow_le_ten_pow (by omega)
  have hmul : digits * unitsPerOne < 2 ^ (digits.log2 + 1 + 1075) := by
    rw [← two_pow_mul_unitsPerOne]
    exact Nat.mul_lt_mul_of_pos_right hdigits unitsPerOne_pos
  exact absurd (hpow.trans hone) (Nat.not_le_of_lt hmul)

/-- A decimal that is rounded to a number other than zero is read as the number. -/
theorem ofDecimal_of_roundedFrom (hx : x.isFinite = true) (hs : x.scaled ≠ 0)
    (h : x.RoundedFrom (digits * (10 : ℚ) ^ e)) :
    ofDecimal x.negative digits e = x := by
  have hone := h.pos hs
  have hdigits : digits ≠ 0 := by
    rintro rfl
    rw [Nat.cast_zero, zero_mul, zero_mul] at hone
    linarith
  rw [ofDecimal, if_neg hdigits, if_neg (not_large hx hdigits h), if_neg (not_small hs h)]
  split
  · next he =>
    obtain ⟨k, rfl⟩ := Int.eq_ofNat_of_zero_le he
    apply ofRatio_of_roundedFrom hx hs Nat.one_pos
    rw [zpow_natCast] at h
    simpa using h
  · next he =>
    obtain ⟨k, hk⟩ := Int.eq_ofNat_of_zero_le (show 0 ≤ -e by omega)
    have hek : e = -(k : Int) := by omega
    subst hek
    apply ofRatio_of_roundedFrom hx hs (Nat.pow_pos (by decide))
    rw [zpow_neg, zpow_natCast, ← div_eq_mul_inv] at h
    simpa using h

end

end GraphTemplate.Binary64
