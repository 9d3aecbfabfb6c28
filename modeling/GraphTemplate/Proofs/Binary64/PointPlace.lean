import GraphTemplate.Proofs.Binary64.PlainText

/-! Where the point stands in the shortest decimal of a number. Up to sixteen digits stand before it
just in the numbers below `10 ^ 16`; larger numbers are whole, and then so is the decimal. -/
namespace GraphTemplate.Binary64

variable {x : Binary64}

def magnitude (x : Binary64) : ℚ := (2 * x.scaled : Nat) / unitsPerOne

theorem roundedFrom_magnitude (hs : x.scaled ≠ 0) : x.RoundedFrom x.magnitude := by
  have hu : (unitsPerOne : ℚ) ≠ 0 := by exact_mod_cast unitsPerOne_pos.ne'
  have hself := (Rounding.accepts_iff Nat.one_pos).mp (accepts_self hs)
  rw [Nat.cast_one, div_one] at hself
  rw [RoundedFrom, magnitude, div_mul_cancel₀ _ hu]
  exact hself

theorem magnitude_lt_iff {n : Nat} : x.magnitude < n ↔ x.scaled < n <<< 1074 := by
  have hu : (0 : ℚ) < unitsPerOne := by exact_mod_cast unitsPerOne_pos
  rw [magnitude, div_lt_iff₀ hu, ← Nat.cast_mul, Nat.cast_lt, ← two_mul_shiftLeft]
  exact Nat.mul_lt_mul_left Nat.two_pos

theorem shortest_lt (x : Binary64) :
    x.shortest.1 * (10 : ℚ) ^ x.shortest.2 < 10 ^ x.pointPlace := by
  have hlt : x.shortest.1 < 10 ^ x.shortDigits.length :=
    (Nat.length_toDigits_le_iff (by decide) Nat.length_toDigits_pos).mp (Nat.le_refl _)
  have hlt' : (x.shortest.1 : ℚ) < 10 ^ x.shortDigits.length := by exact_mod_cast hlt
  rw [pointPlace, zpow_add₀ (by norm_num), zpow_natCast]
  exact mul_lt_mul_of_pos_right hlt' (zpow_pos (by norm_num) _)

theorem le_shortest (hs : x.scaled ≠ 0) :
    10 ^ (x.pointPlace - 1) ≤ x.shortest.1 * (10 : ℚ) ^ x.shortest.2 := by
  have hpos := List.length_pos_of_ne_nil x.shortDigits_ne_nil
  have hle : 10 ^ (x.shortDigits.length - 1) ≤ x.shortest.1 := by
    by_cases hone : x.shortDigits.length = 1
    · rw [hone]
      exact Nat.pos_of_ne_zero (shortest_ne_zero hs)
    · have hmany : ¬x.shortDigits.length ≤ x.shortDigits.length - 1 := by omega
      rw [shortDigits, Nat.length_toDigits_le_iff (by decide) (by rw [← shortDigits]; omega)]
        at hmany
      exact Nat.le_of_not_lt hmany
  have hle' : (10 : ℚ) ^ (x.shortDigits.length - 1) ≤ x.shortest.1 := by exact_mod_cast hle
  have hplace : x.pointPlace - 1 = (x.shortDigits.length - 1 : Nat) + x.shortest.2 := by
    rw [pointPlace]
    omega
  rw [hplace, zpow_add₀ (by norm_num), zpow_natCast]
  exact mul_le_mul_of_nonneg_right hle' (zpow_pos (by norm_num) _).le

/-- The bound of the numbers that are laid out without an exponent has one digit more. -/
theorem eq_of_roundedFrom_bound (hx : x.isFinite = true) (hs : x.scaled ≠ 0)
    (h : x.RoundedFrom ((10 ^ 16 : Nat) : ℚ)) :
    x.pointPlace = 17 ∧ x.scaled = 10 ^ 16 <<< 1074 := by
  have hread : ofDecimal x.negative (10 ^ 16) 0 = x :=
    ofDecimal_of_roundedFrom hx hs (by simpa using h)
  have hall : ∀ b, (ofDecimal b (10 ^ 16) 0).pointPlace = 17 ∧
      (ofDecimal b (10 ^ 16) 0).scaled = 10 ^ 16 <<< 1074 := by decide +kernel
  rw [← hread]
  exact hall x.negative

theorem pointPlace_le_iff (hx : x.isFinite = true) (hs : x.scaled ≠ 0) :
    x.pointPlace ≤ 16 ↔ x.scaled < 10 ^ 16 <<< 1074 := by
  have hshort := roundedFrom_shortest hs
  have hself := roundedFrom_magnitude hs
  have hmono {i j : Int} (h : i ≤ j) : (10 : ℚ) ^ i ≤ 10 ^ j :=
    zpow_le_zpow_right₀ (by norm_num) h
  have hbound : ((10 ^ 16 : Nat) : ℚ) = 10 ^ (16 : Int) := by norm_num
  have hmag := @magnitude_lt_iff x (10 ^ 16)
  constructor
  · intro hplace
    by_contra hge
    have hhigh := not_lt.mp (hmag.not.mpr hge)
    have hlow : x.shortest.1 * (10 : ℚ) ^ x.shortest.2 ≤ (10 ^ 16 : Nat) :=
      hbound ▸ (x.shortest_lt.le.trans (hmono hplace))
    have h17 := (eq_of_roundedFrom_bound hx hs (hshort.between hself hlow hhigh)).1
    omega
  · intro hlt
    by_contra hplace
    have hhigh : ((10 ^ 16 : Nat) : ℚ) ≤ x.shortest.1 * (10 : ℚ) ^ x.shortest.2 :=
      hbound ▸ ((hmono (by omega)).trans (le_shortest hs))
    have heq := (eq_of_roundedFrom_bound hx hs
      (hself.between hshort (hmag.mpr hlt).le hhigh)).2
    exact absurd hlt (heq ▸ Nat.lt_irrefl _)

/-- A number from `10 ^ 16` units of `2 ^ -1074` on has its last digit above the units. -/
theorem lt_position {q : Nat} (h : 10 ^ 16 <<< q ≤ x.scaled) : q < x.position := by
  by_contra hle
  have hpow : 2 ^ x.position ≤ 2 ^ q := Nat.pow_le_pow_right Nat.two_pos (by omega)
  rw [Nat.shiftLeft_eq, scaled_eq] at h
  have hlt : x.significand * 2 ^ x.position < 10 ^ 16 * 2 ^ q :=
    calc x.significand * 2 ^ x.position
        < 2 ^ 53 * 2 ^ x.position :=
        Nat.mul_lt_mul_of_pos_right x.significand_lt (Nat.two_pow_pos _)
      _ ≤ 10 ^ 16 * 2 ^ q := Nat.mul_le_mul (by decide) hpow
  exact Nat.not_le_of_lt hlt h

theorem unitsPerOne_dvd (h : 10 ^ 16 <<< 1074 ≤ x.scaled) : unitsPerOne ∣ 2 * x.scaled := by
  have hposition := lt_position h
  rw [scaled_eq, unitsPerOne]
  exact Dvd.dvd.mul_left (Dvd.dvd.mul_left (pow_dvd_pow 2 hposition) _) 2

theorem decimalUnits_zero : decimalUnits 1 0 = (unitsPerOne, 1) := by
  rw [decimalUnits, if_pos (Int.le_refl 0), ← mul_unitsPerOne, Int.toNat_zero, Nat.pow_eq,
    Nat.pow_zero, Nat.mul_one, Nat.one_mul]

/-- A whole number is a decimal of its own, so that the search goes no further than the units. -/
theorem shortest_nonneg (hs : x.scaled ≠ 0) (h : 10 ^ 16 <<< 1074 ≤ x.scaled) :
    0 ≤ x.shortest.2 := by
  have hdvd := unitsPerOne_dvd h
  have hunits : x.onGrid? 0 ≠ none := by
    apply onGrid?_ne_none_of_below
    rw [decimalUnits_zero, Nat.mul_one, Nat.div_mul_cancel hdvd]
    exact accepts_self hs
  have hlog := le_log2_of_unitsPerOne_le (Nat.le_of_dvd (by omega) hdvd)
  have hfirst : 0 ≤ x.firstGrid := by
    rw [firstGrid]
    omega
  by_cases hk : x.firstGrid ≤ 40
  · have hzero : x.firstGrid - (x.firstGrid.toNat : Int) = 0 := by omega
    have hsearch := (onGridFrom_spec (show x.firstGrid.toNat ≤ 40 by omega) (hzero ▸ hunits)).2
    rwa [hzero] at hsearch
  · have hsearch := (onGridFrom_spec (Nat.le_refl 40) (onGrid?_firstGrid hs)).2
    exact (show 0 ≤ x.firstGrid - (40 : Nat) by omega).trans hsearch

/-- The plain text of a number has no point just if the number is `10 ^ 16` or more. -/
theorem part_plainlySpelled_eq_nil_iff (hx : x.isFinite = true) :
    x.plainlySpelled.part = [] ↔ ¬x.scaled < 10 ^ 16 <<< 1074 := by
  by_cases hs : x.scaled = 0
  · have hpos : 0 < 10 ^ 16 <<< 1074 := by decide +kernel
    rw [plainlySpelled, if_pos hs, hs]
    exact iff_of_false (List.cons_ne_nil _ _) (not_not.mpr hpos)
  have hplace := pointPlace_le_iff hx hs
  have hlen := List.length_pos_of_ne_nil x.shortDigits_ne_nil
  rw [← hplace, plainlySpelled, if_neg hs]
  split
  · next hin => exact iff_of_false x.expanded.part_withPart_ne_nil (not_not.mpr hin.2)
  · next hout =>
    rw [expanded, DecimalText.part_placed_eq_nil_iff]
    constructor
    · intro hle hmost
      have hfewest : -3 ≤ x.pointPlace := by omega
      exact hout ⟨hfewest, hmost⟩
    · intro hmore
      have hnonneg := shortest_nonneg hs (Nat.le_of_not_lt (hplace.not.mp hmore))
      rw [pointPlace]
      omega

end GraphTemplate.Binary64
