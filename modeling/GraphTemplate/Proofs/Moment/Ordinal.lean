import GraphTemplate.Moment.Reading

/-! The day number of a date gives the date back, and so does the instant of a moment of universal
time. -/
namespace GraphTemplate

namespace Date

theorem daysBeforeYear_succ (z : Nat) :
    daysBeforeYear (z + 1) = 365 * z + z / 4 - z / 100 + z / 400 := rfl

theorem daysBeforeYear_add_two (z : Nat) : daysBeforeYear (z + 2) =
    daysBeforeYear (z + 1) + if isLeapYear (z + 1) = true then 366 else 365 := by
  have h₄ : (z + 1) / 4 = z / 4 + if (z + 1) % 4 = 0 then 1 else 0 := by
    split <;> omega
  have h₁ : (z + 1) / 100 = z / 100 + if (z + 1) % 100 = 0 then 1 else 0 := by
    split <;> omega
  have h₀ : (z + 1) / 400 = z / 400 + if (z + 1) % 400 = 0 then 1 else 0 := by
    split <;> omega
  have h₄₁ : (z + 1) % 100 = 0 → (z + 1) % 4 = 0 := by omega
  have h₁₀ : (z + 1) % 400 = 0 → (z + 1) % 100 = 0 := by omega
  have hle : z / 100 ≤ 365 * z := by omega
  rw [daysBeforeYear_succ, daysBeforeYear_succ, h₄, h₁, h₀]
  clear h₄ h₁ h₀
  simp only [isLeapYear, Bool.and_eq_true, Bool.or_eq_true, beq_iff_eq, bne_iff_ne]
  generalize (z + 1) % 4 = a at *
  generalize (z + 1) % 100 = b at *
  generalize (z + 1) % 400 = c at *
  generalize z / 4 = p, z / 100 = q at *
  generalize z / 400 = r at *
  by_cases ha : a = 0
  · by_cases hb : b = 0
    · by_cases hc : c = 0 <;> simp [ha, hb, hc] <;> omega
    · have hc : c ≠ 0 := fun hc => hb (h₁₀ hc)
      simp [ha, hb, hc]
      omega
  · have hb : b ≠ 0 := fun hb => ha (h₄₁ hb)
    have hc : c ≠ 0 := fun hc => hb (h₁₀ hc)
    simp [ha, hb, hc]
    omega

theorem daysBeforeYear_le (z : Nat) : daysBeforeYear z ≤ daysBeforeYear (z + 1) := by
  cases z with
  | zero => exact Nat.le_refl _
  | succ z =>
    rw [daysBeforeYear_add_two]
    omega

theorem yearOfOrdinal_eq {z n : Nat} (h : daysBeforeYear (z + 1) < n)
    (k : n ≤ daysBeforeYear (z + 2)) : yearOfOrdinal n = z + 1 := by
  have hlow : n * 400 / 146097 ≤ z + 1 := by
    rw [daysBeforeYear_succ] at k
    omega
  have hhigh : z ≤ n * 400 / 146097 + 1 := by
    rw [daysBeforeYear_succ] at h
    omega
  unfold yearOfOrdinal
  dsimp only
  generalize n * 400 / 146097 = guess at hlow hhigh ⊢
  rcases (by omega : guess + 1 = z ∨ guess = z ∨ guess = z + 1) with rfl | rfl | rfl
  · have hle := daysBeforeYear_le (guess + 1)
    have hlt : daysBeforeYear (guess + 2) < n := h
    rw [if_neg (by omega), if_pos hlt]
  · have hnlt : ¬daysBeforeYear (guess + 2) < n := by omega
    rw [if_neg (by omega), if_neg hnlt]
  · rw [if_pos k]
    omega

theorem daysBeforeMonth_succ (y : Nat) {m : Nat} (hm : 1 ≤ m) :
    daysBeforeMonth y (m + 1) = daysBeforeMonth y m + daysInMonth y m := by
  obtain ⟨k, rfl⟩ : ∃ k, m = k + 1 := ⟨m - 1, by omega⟩
  rfl

theorem daysBeforeMonth_le_add (y : Nat) {m : Nat} (hm : 1 ≤ m) (i : Nat) :
    daysBeforeMonth y m ≤ daysBeforeMonth y (m + i) := by
  induction i with
  | zero => exact Nat.le_refl _
  | succ i ih =>
    rw [← Nat.add_assoc, daysBeforeMonth_succ y (by omega)]
    omega

theorem monthFrom_eq {y left month j day : Nat} (hm : 1 ≤ month) (hj : j ≤ left) (hday : 1 ≤ day)
    (hle : day ≤ daysInMonth y (month + j)) :
    monthFrom y left month (daysBeforeMonth y (month + j) - daysBeforeMonth y month + day) =
      (month + j, day) := by
  induction left generalizing month j with
  | zero =>
    obtain rfl : j = 0 := by omega
    rw [Nat.add_zero, Nat.sub_self, Nat.zero_add]
    rfl
  | succ left ih =>
    cases j with
    | zero =>
      simp only [Nat.add_zero, Nat.sub_self, Nat.zero_add] at hle ⊢
      rw [monthFrom, if_pos hle]
    | succ j =>
      have hsucc := daysBeforeMonth_succ y hm
      have hmono := daysBeforeMonth_le_add y (Nat.le_add_left 1 month) j
      have hadd : month + (j + 1) = month + 1 + j := by omega
      rw [hadd] at hle ⊢
      have hn : daysBeforeMonth y (month + 1 + j) - daysBeforeMonth y month + day -
          daysInMonth y month =
          daysBeforeMonth y (month + 1 + j) - daysBeforeMonth y (month + 1) + day := by
        omega
      rw [monthFrom, if_neg (by omega), hn, ih (by omega) (by omega) hle]

theorem daysBeforeMonth_add_le (d : Date) : daysBeforeMonth d.year d.month + d.day ≤
    if isLeapYear d.year = true then 366 else 365 := by
  have hle := d.day_le
  have hpos := d.month_pos
  have hmonth := d.month_le
  generalize d.month = m at *
  rcases (by omega : m = 1 ∨ m = 2 ∨ m = 3 ∨ m = 4 ∨ m = 5 ∨ m = 6 ∨ m = 7 ∨ m = 8 ∨ m = 9 ∨
    m = 10 ∨ m = 11 ∨ m = 12) with
    rfl | rfl | rfl | rfl | rfl | rfl | rfl | rfl | rfl | rfl | rfl | rfl
  all_goals
    simp only [daysBeforeMonth, daysInMonth] at hle ⊢
    split <;> simp_all <;> omega

theorem ofOrdinal?_ordinal (d : Date) : ofOrdinal? d.ordinal = some d := by
  obtain ⟨z, hz⟩ : ∃ z, d.year = z + 1 := ⟨d.year - 1, by have := d.year_pos; omega⟩
  have hday := d.day_pos
  have hbound := daysBeforeMonth_add_le d
  have hnext := daysBeforeYear_add_two z
  rw [hz] at hbound
  have hyear : yearOfOrdinal d.ordinal = d.year := by
    rw [hz]
    apply yearOfOrdinal_eq <;> rw [ordinal, hz] <;> omega
  have hrest : d.ordinal - daysBeforeYear d.year =
      daysBeforeMonth d.year (1 + (d.month - 1)) - daysBeforeMonth d.year 1 + d.day := by
    have hm : 1 + (d.month - 1) = d.month := by have := d.month_pos; omega
    rw [ordinal, hm, daysBeforeMonth]
    omega
  have hmonth : 1 + (d.month - 1) = d.month := by have := d.month_pos; omega
  unfold ofOrdinal?
  dsimp only
  rw [hyear, hrest, monthFrom_eq (Nat.le_refl 1) (by have := d.month_le; omega) hday
    (hmonth.symm ▸ d.day_le)]
  dsimp only
  rw [hmonth, ofParts_self]
  rfl

end Date

namespace Moment

theorem toUniversal?_of_zero (d : Date) (c : Clock) :
    (Moment.mk d c (some Offset.zero)).toUniversal? = some ⟨d, c, some Offset.zero⟩ := by
  have hc := c.micros_lt
  have hn : (Moment.mk d c (some Offset.zero)).instant =
      ((d.ordinal * Clock.microsPerDay + c.micros : Nat) : Int) := by
    simp [instant, localMicros, Offset.zero]
  unfold toUniversal? ofInstant?
  dsimp only
  rw [hn, if_neg (by omega), Int.toNat_natCast]
  have hpos : 0 < Clock.microsPerDay := by decide
  rw [Nat.add_comm, Nat.add_mul_div_right _ _ hpos, Nat.div_eq_of_lt hc, Nat.zero_add,
    Nat.add_mul_mod_self_right, Nat.mod_eq_of_lt hc, Date.ofOrdinal?_ordinal,
    Clock.ofMicros_micros]

theorem offset_of_ofZulu {cs : List Char} {m : Moment} (h : ofZulu cs = .ok m) :
    m.offset = some Offset.zero := by
  unfold ofZulu at h
  split at h
  · split at h
    · split at h
      · split at h
        · exact nomatch h
        · split at h
          · exact nomatch h
          · obtain rfl := Except.ok.inj h
            rfl
      · exact nomatch h
    · exact nomatch h
  · exact nomatch h

/-- What a restriction's text reads as is a moment of universal time already. -/
theorem toUniversal?_of_ofZulu {cs : List Char} {m : Moment} (h : ofZulu cs = .ok m) :
    m.toUniversal? = some m := by
  obtain ⟨d, c, o⟩ := m
  obtain rfl : o = some Offset.zero := offset_of_ofZulu h
  exact toUniversal?_of_zero d c

end Moment

end GraphTemplate
