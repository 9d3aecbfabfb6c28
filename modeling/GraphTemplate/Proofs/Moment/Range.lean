import GraphTemplate.Proofs.Moment.Ordinal
import Mathlib.Order.Monotone.Basic

/-! The instants that the calendar holds: those of the years 1 to 9999 of universal time. Only an
offset can take a moment out of them. -/
namespace GraphTemplate

namespace Date

theorem exists_step {f : Nat → Nat} {n k : Nat} (h : f 0 < k) (hn : k ≤ f n) :
    ∃ i < n, f i < k ∧ k ≤ f (i + 1) := by
  induction n with
  | zero => omega
  | succ n ih =>
    by_cases hk : k ≤ f n
    · obtain ⟨i, hi, hstep⟩ := ih hk
      exact ⟨i, by omega, hstep⟩
    · exact ⟨n, by omega, by omega, hn⟩

theorem daysBeforeYear_mono {y y' : Nat} (h : y ≤ y') : daysBeforeYear y ≤ daysBeforeYear y' :=
  monotone_nat_of_le_succ daysBeforeYear_le h

theorem daysBeforeMonth_end (y : Nat) :
    daysBeforeMonth y 13 = if isLeapYear y = true then 366 else 365 := by
  simp only [daysBeforeMonth, daysInMonth]
  split <;> rfl

theorem ordinal_pos (d : Date) : 0 < d.ordinal := by
  have hday := d.day_pos
  unfold ordinal
  omega

theorem ordinal_le (d : Date) : d.ordinal ≤ lastOrdinal := by
  obtain ⟨z, hz⟩ : ∃ z, d.year = z + 1 := ⟨d.year - 1, by have := d.year_pos; omega⟩
  have hbound := daysBeforeMonth_add_le d
  have hnext := daysBeforeYear_add_two z
  have hyear := d.year_le
  have hlast : daysBeforeYear (z + 2) ≤ daysBeforeYear 10000 := daysBeforeYear_mono (by omega)
  have heq : daysBeforeYear 10000 = lastOrdinal := rfl
  rw [hz] at hbound
  rw [ordinal, hz]
  omega

theorem exists_ordinal {n : Nat} (h : 0 < n) (hn : n ≤ lastOrdinal) :
    ∃ d : Date, d.ordinal = n := by
  obtain ⟨z, hz, hlow, hhigh⟩ :=
    exists_step (f := fun z => daysBeforeYear (z + 1)) (n := 9999) h hn
  have hhigh : n ≤ daysBeforeYear (z + 2) := hhigh
  have hyear : n - daysBeforeYear (z + 1) ≤ daysBeforeMonth (z + 1) 13 := by
    rw [daysBeforeMonth_end]
    have := daysBeforeYear_add_two z
    omega
  obtain ⟨m, hm, hbefore, hafter⟩ :=
    exists_step (f := fun m => daysBeforeMonth (z + 1) (m + 1)) (n := 12)
      (k := n - daysBeforeYear (z + 1)) (by show 0 < _; omega) hyear
  rw [daysBeforeMonth_succ _ (Nat.le_add_left 1 m)] at hafter
  refine ⟨⟨z + 1, m + 1, n - daysBeforeYear (z + 1) - daysBeforeMonth (z + 1) (m + 1),
    by omega, by omega, by omega, by omega, by omega, by omega⟩, ?_⟩
  unfold ordinal
  dsimp only
  omega

theorem ofOrdinal?_eq_none_iff {n : Nat} : ofOrdinal? n = none ↔ n = 0 ∨ lastOrdinal < n := by
  constructor
  · intro h
    by_contra hn
    obtain ⟨d, rfl⟩ := exists_ordinal (n := n) (by omega) (by omega)
    rw [ofOrdinal?_ordinal] at h
    exact nomatch h
  · rintro (rfl | hn)
    · rfl
    · have hmany : n ≤ daysBeforeYear (n + 1) := by
        rw [daysBeforeYear_succ]
        omega
      obtain ⟨z, -, hlow, hhigh⟩ :=
        exists_step (f := fun z => daysBeforeYear (z + 1)) (Nat.zero_lt_of_lt hn) hmany
      have hhigh : n ≤ daysBeforeYear (z + 2) := hhigh
      have hz : 9999 < z + 1 := by
        by_contra hz
        have hle : daysBeforeYear (z + 2) ≤ daysBeforeYear 10000 := daysBeforeYear_mono (by omega)
        have heq : daysBeforeYear 10000 = lastOrdinal := rfl
        omega
      unfold ofOrdinal?
      dsimp only
      rw [yearOfOrdinal_eq hlow hhigh, ofParts, dif_neg (by omega)]
      rfl

theorem ordinal_of_ofOrdinal? {n : Nat} {d : Date} (h : ofOrdinal? n = some d) : d.ordinal = n := by
  have hn : ¬(n = 0 ∨ lastOrdinal < n) := by
    rw [← ofOrdinal?_eq_none_iff, h]
    exact nofun
  obtain ⟨d', rfl⟩ := exists_ordinal (n := n) (by omega) (by omega)
  rw [ofOrdinal?_ordinal] at h
  rw [Option.some.inj h]

end Date

theorem Clock.micros_ofMicros {n : Nat} (h : n < microsPerDay) : (ofMicros n).micros = n := by
  simp only [micros, ofMicros, microsPerDay] at *
  omega

namespace Moment

def InCalendar (n : Int) : Prop :=
  Clock.microsPerDay ≤ n ∧ n < ((Date.lastOrdinal + 1) * Clock.microsPerDay : Nat)

theorem ofInstant?_eq_none_iff {n : Int} : ofInstant? n = none ↔ ¬InCalendar n := by
  have hpos : 0 < Clock.microsPerDay := by decide
  unfold ofInstant? InCalendar
  by_cases h : n < 0
  · simp only [if_pos h, true_iff]
    omega
  · rw [if_neg h]
    obtain ⟨m, rfl⟩ := Int.eq_ofNat_of_zero_le (Int.not_lt.mp h)
    have hn := @Date.ofOrdinal?_eq_none_iff (m / Clock.microsPerDay)
    have hday : m / Clock.microsPerDay = 0 ↔ m < Clock.microsPerDay := by
      rw [Nat.div_eq_zero_iff]
      omega
    have hlast : Date.lastOrdinal < m / Clock.microsPerDay ↔
        (Date.lastOrdinal + 1) * Clock.microsPerDay ≤ m := by
      rw [← Nat.succ_le_iff, Nat.le_div_iff_mul_le hpos]
    rw [Int.toNat_natCast]
    cases hd : Date.ofOrdinal? (m / Clock.microsPerDay) with
    | none =>
      rw [hd, hday, hlast] at hn
      simp only [true_iff] at hn
      simp only [true_iff]
      omega
    | some d =>
      rw [hd, hday, hlast] at hn
      simp only [reduceCtorEq, false_iff] at hn ⊢
      omega

theorem inCalendar_localMicros (m : Moment) : InCalendar m.localMicros := by
  have hpos := m.date.ordinal_pos
  have hle := m.date.ordinal_le
  have hc := m.clock.micros_lt
  have hday : 1 * Clock.microsPerDay ≤ m.date.ordinal * Clock.microsPerDay :=
    Nat.mul_le_mul_right _ hpos
  have hlast := Nat.mul_le_mul_right Clock.microsPerDay hle
  have hend : (Date.lastOrdinal + 1) * Clock.microsPerDay =
      Date.lastOrdinal * Clock.microsPerDay + Clock.microsPerDay := Nat.succ_mul _ _
  have hlocal : m.localMicros = (m.date.ordinal * Clock.microsPerDay + m.clock.micros : Nat) := rfl
  rw [InCalendar, hlocal, hend]
  omega

/-- A moment has a form of universal time just if its instant is one of the calendar. -/
theorem toUniversal?_eq_none_iff {m : Moment} : m.toUniversal? = none ↔ ¬InCalendar m.instant := by
  unfold toUniversal?
  split
  · next ho =>
    have hlocal : m.instant = m.localMicros := by
      rw [instant, ho]
      exact Int.sub_zero _
    simp [hlocal, inCalendar_localMicros]
  · exact ofInstant?_eq_none_iff

/-- Universal time tells the same instant. -/
theorem instant_of_toUniversal? {m u : Moment} (h : m.toUniversal? = some u) :
    u.instant = m.instant := by
  unfold toUniversal? at h
  split at h
  · next ho =>
    obtain rfl := Option.some.inj h
    rw [instant, instant, ho]
    rfl
  · unfold ofInstant? at h
    split at h
    · cases h
    · next hn =>
      split at h
      · next d hd =>
        obtain rfl := Option.some.inj h
        have hclock : (Clock.ofMicros (m.instant.toNat % Clock.microsPerDay)).micros = _ :=
          Clock.micros_ofMicros (Nat.mod_lt _ (by decide))
        have hmod := Nat.div_add_mod' m.instant.toNat Clock.microsPerDay
        rw [instant, localMicros, Date.ordinal_of_ofOrdinal? hd, hclock]
        have hsum : ((m.instant.toNat / Clock.microsPerDay * Clock.microsPerDay +
          m.instant.toNat % Clock.microsPerDay : Nat) : Int) = m.instant := by
          rw [hmod]
          omega
        push_cast at hsum
        simpa [Offset.zero] using hsum
      · cases h

end Moment

end GraphTemplate
