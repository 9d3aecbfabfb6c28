import GraphTemplate.Moment.Reading
import GraphTemplate.Proofs.Moment.Range
import GraphTemplate.Proofs.Text.Digit

/-! Stamps: the texts `YYYY-MM-DDTHH:MM:SSZ` of a day of the calendar and a second of that day. They
are the ASCII texts that are read as moments, and the texts that moments are written as. -/
namespace GraphTemplate

structure Field (width : Nat) where
  digits : List Char
  ascii : AsciiDigits digits
  length : digits.length = width

namespace Field

variable {width n : Nat}

def value (f : Field width) : Nat := digitsValue f.digits

def ofNat (width n : Nat) (hw : 0 < width) (h : n < 10 ^ width) : Field width :=
  ⟨Moment.padded width n, asciiDigits_padded width n, length_padded hw h⟩

theorem value_ofNat (hw : 0 < width) (h : n < 10 ^ width) : (ofNat width n hw h).value = n :=
  digitsValue_padded width n

theorem padded_value (f : Field width) (hw : 0 < width) :
    Moment.padded width f.value = f.digits := by
  have hne : f.digits ≠ [] := by
    intro he
    have hlen := f.length
    rw [he] at hlen
    exact Nat.ne_of_lt hw hlen
  have hp := f.ascii.padded_eq hne
  rwa [f.length] at hp

theorem value_lt (f : Field width) : f.value < 10 ^ width := by
  have hlt := digitsValue_lt f.digits
  rwa [f.length] at hlt

theorem exists_two (f : Field 2) :
    ∃ a b, f.digits = [a, b] ∧ isAsciiDigit a = true ∧ isAsciiDigit b = true := by
  obtain ⟨a, b, hab⟩ := List.length_eq_two.mp f.length
  have hascii := f.ascii
  rw [hab] at hascii
  exact ⟨a, b, hab, hascii a (by simp), hascii b (by simp)⟩

theorem exists_four (f : Field 4) :
    ∃ a b c d, f.digits = [a, b, c, d] := by
  obtain ⟨ds, -, hlen⟩ := f
  obtain ⟨a, ds, rfl⟩ := List.exists_cons_of_length_eq_add_one hlen
  obtain ⟨b, c, d, rfl⟩ := List.length_eq_three.mp (Nat.succ.inj hlen)
  exact ⟨a, b, c, d, rfl⟩

end Field

section

variable {a b : Char}

theorem forall_digits {P : Char → Char → Prop}
    (h : ∀ i < 10, ∀ j < 10, P (Nat.digitChar i) (Nat.digitChar j))
    (ha : isAsciiDigit a = true) (hb : isAsciiDigit b = true) : P a b := by
  have hchar {c : Char} (hc : isAsciiDigit c = true) :
      c.toNat - 48 < 10 ∧ Nat.digitChar (c.toNat - 48) = c := by
    have hbounds := isAsciiDigit_iff.mp hc
    refine ⟨by omega, Char.toNat_inj.mp ?_⟩
    rw [Nat.toNat_digitChar_of_lt_ten (by omega)]
    omega
  have hab := h _ (hchar ha).1 _ (hchar hb).1
  rwa [(hchar ha).2, (hchar hb).2] at hab

theorem isMonthText_iff (ha : isAsciiDigit a = true) (hb : isAsciiDigit b = true) :
    Moment.isMonthText a b = true ↔ 1 ≤ digitsValue [a, b] ∧ digitsValue [a, b] ≤ 12 :=
  forall_digits (P := fun a b => Moment.isMonthText a b = true ↔
    1 ≤ digitsValue [a, b] ∧ digitsValue [a, b] ≤ 12) (by decide +kernel) ha hb

theorem isDayText_iff (ha : isAsciiDigit a = true) (hb : isAsciiDigit b = true) :
    Moment.isDayText a b = true ↔ 1 ≤ digitsValue [a, b] ∧ digitsValue [a, b] ≤ 31 :=
  forall_digits (P := fun a b => Moment.isDayText a b = true ↔
    1 ≤ digitsValue [a, b] ∧ digitsValue [a, b] ≤ 31) (by decide +kernel) ha hb

theorem isHourText_iff (ha : isAsciiDigit a = true) (hb : isAsciiDigit b = true) :
    Moment.isHourText a b = true ↔ digitsValue [a, b] ≤ 23 :=
  forall_digits (P := fun a b => Moment.isHourText a b = true ↔ digitsValue [a, b] ≤ 23)
    (by decide +kernel) ha hb

theorem isMinuteText_iff (ha : isAsciiDigit a = true) (hb : isAsciiDigit b = true) :
    Moment.isMinuteText a b = true ↔ digitsValue [a, b] ≤ 59 :=
  forall_digits (P := fun a b => Moment.isMinuteText a b = true ↔ digitsValue [a, b] ≤ 59)
    (by decide +kernel) ha hb

theorem isSecondText_iff (ha : isAsciiDigit a = true) (hb : isAsciiDigit b = true) :
    Moment.isSecondText a b = true ↔ digitsValue [a, b] ≤ 61 :=
  forall_digits (P := fun a b => Moment.isSecondText a b = true ↔ digitsValue [a, b] ≤ 61)
    (by decide +kernel) ha hb

end

/-- A day of the calendar and a second of the day, in digits. -/
structure Stamp where
  year : Field 4
  month : Field 2
  day : Field 2
  hour : Field 2
  minute : Field 2
  second : Field 2
  year_pos : 1 ≤ year.value
  month_pos : 1 ≤ month.value
  month_le : month.value ≤ 12
  day_pos : 1 ≤ day.value
  day_le : day.value ≤ daysInMonth year.value month.value
  hour_le : hour.value ≤ 23
  minute_le : minute.value ≤ 59
  second_le : second.value ≤ 59

namespace Stamp

variable (s : Stamp)

def chars : List Char :=
  s.year.digits ++ '-' :: s.month.digits ++ '-' :: s.day.digits ++ 'T' :: s.hour.digits ++
    ':' :: s.minute.digits ++ ':' :: s.second.digits ++ ['Z']

def date : Date where
  year := s.year.value
  month := s.month.value
  day := s.day.value
  year_pos := s.year_pos
  year_le := Nat.le_of_lt_succ s.year.value_lt
  month_pos := s.month_pos
  month_le := s.month_le
  day_pos := s.day_pos
  day_le := s.day_le

def clock : Clock where
  hour := s.hour.value
  minute := s.minute.value
  second := s.second.value
  microsecond := 0
  hour_lt := Nat.lt_succ_of_le s.hour_le
  minute_lt := Nat.lt_succ_of_le s.minute_le
  second_lt := Nat.lt_succ_of_le s.second_le
  microsecond_lt := Nat.succ_pos 999999

def moment : Moment := ⟨s.date, s.clock, some Offset.zero⟩

end Stamp

theorem daysInMonth_le (year month : Nat) : daysInMonth year month ≤ 31 := by
  unfold daysInMonth
  split
  · split <;> decide
  all_goals decide

theorem Date.ofParts_eq_ok_iff {year month day : Nat} {d : Date} :
    Date.ofParts year month day = .ok d ↔ d.year = year ∧ d.month = month ∧ d.day = day := by
  constructor
  · intro h
    unfold Date.ofParts at h
    split at h
    · split at h
      · split at h
        · obtain rfl := Except.ok.inj h
          exact ⟨rfl, rfl, rfl⟩
        · cases h
      · cases h
    · cases h
  · rintro ⟨rfl, rfl, rfl⟩
    exact Date.ofParts_self d

theorem Clock.ofParts_eq_ok_iff {hour minute second micros : Nat} {c : Clock} :
    Clock.ofParts hour minute second micros = .ok c ↔
      c.hour = hour ∧ c.minute = minute ∧ c.second = second ∧ c.microsecond = micros := by
  constructor
  · intro h
    unfold Clock.ofParts at h
    split at h
    · split at h
      · split at h
        · split at h
          · obtain rfl := Except.ok.inj h
            exact ⟨rfl, rfl, rfl, rfl⟩
          · cases h
        · cases h
      · cases h
    · cases h
  · rintro ⟨rfl, rfl, rfl, rfl⟩
    exact Clock.ofParts_self c

namespace Stamp

variable (s : Stamp)

/-- A stamp is read as the moment that it names. -/
theorem read_chars : Moment.isZuluShaped s.chars = true ∧ Moment.ofZulu s.chars = .ok s.moment := by
  obtain ⟨y₁, y₂, y₃, y₄, hy⟩ := s.year.exists_four
  obtain ⟨m₁, m₂, hm, hm₁, hm₂⟩ := s.month.exists_two
  obtain ⟨d₁, d₂, hd, hd₁, hd₂⟩ := s.day.exists_two
  obtain ⟨h₁, h₂, hh, hh₁, hh₂⟩ := s.hour.exists_two
  obtain ⟨n₁, n₂, hn, hn₁, hn₂⟩ := s.minute.exists_two
  obtain ⟨t₁, t₂, ht, ht₁, ht₂⟩ := s.second.exists_two
  have hchars : s.chars = [y₁, y₂, y₃, y₄, '-', m₁, m₂, '-', d₁, d₂, 'T', h₁, h₂, ':', n₁, n₂, ':',
      t₁, t₂, 'Z'] := by
    simp only [chars, hy, hm, hd, hh, hn, ht, List.cons_append, List.nil_append]
  have hyear := s.year.ascii.decimal
  have hmonth : Moment.isMonthText m₁ m₂ = true :=
    (isMonthText_iff hm₁ hm₂).mpr ⟨hm ▸ s.month_pos, hm ▸ s.month_le⟩
  have hday : Moment.isDayText d₁ d₂ = true :=
    (isDayText_iff hd₁ hd₂).mpr ⟨hd ▸ s.day_pos, hd ▸ s.day_le.trans (daysInMonth_le _ _)⟩
  have hhour : Moment.isHourText h₁ h₂ = true := (isHourText_iff hh₁ hh₂).mpr (hh ▸ s.hour_le)
  have hminute : Moment.isMinuteText n₁ n₂ = true :=
    (isMinuteText_iff hn₁ hn₂).mpr (hn ▸ s.minute_le)
  have hsecond : Moment.isSecondText t₁ t₂ = true :=
    (isSecondText_iff ht₁ ht₂).mpr (ht ▸ s.second_le.trans (by decide))
  have hdate : Date.ofParts (digitsValue [y₁, y₂, y₃, y₄]) (digitsValue [m₁, m₂])
      (digitsValue [d₁, d₂]) = .ok s.date := hy ▸ hm ▸ hd ▸ Date.ofParts_self s.date
  have hclock : Clock.ofParts (digitsValue [h₁, h₂]) (digitsValue [n₁, n₂])
      (digitsValue [t₁, t₂]) 0 = .ok s.clock := hh ▸ hn ▸ ht ▸ Clock.ofParts_self s.clock
  rw [hy] at hyear
  rw [hchars]
  constructor
  · have hdigit {c : Char} (hc : isAsciiDigit c = true) := isDecimalDigit_of_isAsciiDigit hc
    simp at hyear
    simp [Moment.isZuluShaped, hyear, hdigit, hm₁, hm₂, hd₁, hd₂, hh₁, hh₂, hn₁, hn₂, ht₁, ht₂]
  · simp [Moment.ofZulu, hyear, hmonth, hday, hhour, hminute, hsecond, hdate, hclock, moment]

end Stamp

/-- What is read as a moment has the layout of a stamp, and the moment has the numbers of it. -/
theorem Moment.fields_of_ofZulu {cs : List Char} {m : Moment} (h : ofZulu cs = .ok m) :
    ∃ y₁ y₂ y₃ y₄ m₁ m₂ d₁ d₂ h₁ h₂ n₁ n₂ t₁ t₂,
      cs = [y₁, y₂, y₃, y₄, '-', m₁, m₂, '-', d₁, d₂, 'T', h₁, h₂, ':', n₁, n₂, ':', t₁, t₂, 'Z'] ∧
      (m.date.year = digitsValue [y₁, y₂, y₃, y₄] ∧ m.date.month = digitsValue [m₁, m₂] ∧
        m.date.day = digitsValue [d₁, d₂]) ∧
      m.clock.hour = digitsValue [h₁, h₂] ∧ m.clock.minute = digitsValue [n₁, n₂] ∧
        m.clock.second = digitsValue [t₁, t₂] ∧ m.clock.microsecond = 0 := by
  unfold ofZulu at h
  split at h
  · next y₁ y₂ y₃ y₄ m₁ m₂ d₁ d₂ h₁ h₂ n₁ n₂ t₁ t₂ rest =>
    split at h
    · split at h
      · next hempty =>
        obtain rfl := List.isEmpty_iff.mp hempty
        split at h
        · exact nomatch h
        · next date hdate =>
          split at h
          · exact nomatch h
          · next clock hclock =>
            obtain rfl := Except.ok.inj h
            exact ⟨y₁, y₂, y₃, y₄, m₁, m₂, d₁, d₂, h₁, h₂, n₁, n₂, t₁, t₂, rfl,
              Date.ofParts_eq_ok_iff.mp hdate, Clock.ofParts_eq_ok_iff.mp hclock⟩
      · exact nomatch h
    · exact nomatch h
  · exact nomatch h

namespace Stamp

/-- Whatever ASCII text is read as a moment is a stamp of that moment. -/
theorem exists_of_ofZulu {cs : List Char} {m : Moment} (hascii : ∀ c ∈ cs, c.toNat < 128)
    (hshape : Moment.isZuluShaped cs = true) (h : Moment.ofZulu cs = .ok m) :
    ∃ s : Stamp, cs = s.chars ∧ m = s.moment := by
  have hoffset := Moment.offset_of_ofZulu h
  obtain ⟨y₁, y₂, y₃, y₄, m₁, m₂, d₁, d₂, h₁, h₂, n₁, n₂, t₁, t₂, rfl, ⟨hyear, hmonth, hday⟩,
    hhour, hminute, hsecond, hmicros⟩ := Moment.fields_of_ofZulu h
  simp [Moment.isZuluShaped] at hshape
  obtain ⟨hy₁, hy₂, hy₃, hy₄, hm₁, hm₂, hd₁, hd₂, hh₁, hh₂, hn₁, hn₂, ht₁, ht₂⟩ := hshape
  have hdigit {c : Char} (hc : isDecimalDigit c = true) (hmem : c ∈ _) :=
    isAsciiDigit_of_isDecimalDigit hc (hascii c hmem)
  refine ⟨{
    year := ⟨[y₁, y₂, y₃, y₄], by simp [AsciiDigits, hdigit, hy₁, hy₂, hy₃, hy₄], rfl⟩
    month := ⟨[m₁, m₂], by simp [AsciiDigits, hdigit, hm₁, hm₂], rfl⟩
    day := ⟨[d₁, d₂], by simp [AsciiDigits, hdigit, hd₁, hd₂], rfl⟩
    hour := ⟨[h₁, h₂], by simp [AsciiDigits, hdigit, hh₁, hh₂], rfl⟩
    minute := ⟨[n₁, n₂], by simp [AsciiDigits, hdigit, hn₁, hn₂], rfl⟩
    second := ⟨[t₁, t₂], by simp [AsciiDigits, hdigit, ht₁, ht₂], rfl⟩
    year_pos := hyear ▸ m.date.year_pos
    month_pos := hmonth ▸ m.date.month_pos
    month_le := hmonth ▸ m.date.month_le
    day_pos := hday ▸ m.date.day_pos
    day_le := hyear ▸ hmonth ▸ hday ▸ m.date.day_le
    hour_le := hhour ▸ Nat.le_of_lt_succ m.clock.hour_lt
    minute_le := hminute ▸ Nat.le_of_lt_succ m.clock.minute_lt
    second_le := hsecond ▸ Nat.le_of_lt_succ m.clock.second_lt }, rfl, ?_⟩
  obtain ⟨⟨_, _, _⟩, ⟨_, _, _, _⟩, _⟩ := m
  dsimp only at hyear hmonth hday hhour hminute hsecond hmicros hoffset
  subst hyear hmonth hday hhour hminute hsecond hmicros hoffset
  rfl

def ofMoment (m : Moment) : Stamp where
  year := .ofNat 4 m.date.year (by decide) (Nat.lt_succ_of_le m.date.year_le)
  month := .ofNat 2 m.date.month (by decide) (by have := m.date.month_le; omega)
  day := .ofNat 2 m.date.day (by decide)
    (by have := m.date.day_le.trans (daysInMonth_le _ _); omega)
  hour := .ofNat 2 m.clock.hour (by decide) (by have := m.clock.hour_lt; omega)
  minute := .ofNat 2 m.clock.minute (by decide) (by have := m.clock.minute_lt; omega)
  second := .ofNat 2 m.clock.second (by decide) (by have := m.clock.second_lt; omega)
  year_pos := by rw [Field.value_ofNat]; exact m.date.year_pos
  month_pos := by rw [Field.value_ofNat]; exact m.date.month_pos
  month_le := by rw [Field.value_ofNat]; exact m.date.month_le
  day_pos := by rw [Field.value_ofNat]; exact m.date.day_pos
  day_le := by simp only [Field.value_ofNat]; exact m.date.day_le
  hour_le := by rw [Field.value_ofNat]; exact Nat.le_of_lt_succ m.clock.hour_lt
  minute_le := by rw [Field.value_ofNat]; exact Nat.le_of_lt_succ m.clock.minute_lt
  second_le := by rw [Field.value_ofNat]; exact Nat.le_of_lt_succ m.clock.second_lt

/-- Moments are written as their stamps. -/
theorem toList_zuluText (m : Moment) : m.zuluText.toList = (ofMoment m).chars := by
  simp only [Moment.zuluText, Moment.dateText, Moment.secondsText, String.toList_ofList, chars,
    ofMoment, Field.ofNat, List.append_assoc, List.cons_append]

/-- A stamp is written as it was read. -/
theorem zuluText_moment (s : Stamp) : s.moment.zuluText = String.ofList s.chars := by
  simp only [Moment.zuluText, Moment.dateText, Moment.secondsText, chars, moment, date, clock,
    Field.padded_value, Nat.zero_lt_succ, List.append_assoc, List.cons_append]

theorem date_ofMoment (m : Moment) : (ofMoment m).moment.date = m.date := by
  simp only [moment, date, ofMoment, Field.value_ofNat]

theorem micros_ofMoment (m : Moment) :
    (ofMoment m).moment.clock.micros + m.clock.microsecond = m.clock.micros := by
  simp only [moment, clock, ofMoment, Field.value_ofNat, Clock.micros, Nat.add_zero]

/-- The stamp of a moment of universal time names its instant without the fraction of the second. -/
theorem instant_ofMoment {u : Moment} (hu : u.offset = some Offset.zero) :
    (ofMoment u).moment.instant = u.instant - u.instant % 1000000 := by
  have hzero : Offset.zero.micros = 0 := rfl
  have hinstant : u.instant = u.date.ordinal * Clock.microsPerDay + u.clock.micros := by
    rw [Moment.instant, Moment.localMicros, hu, Option.getD_some, hzero, Int.sub_zero]
  have hstamp : (ofMoment u).moment.instant =
      u.date.ordinal * Clock.microsPerDay + (ofMoment u).moment.clock.micros := by
    rw [Moment.instant, Moment.localMicros, date_ofMoment]
    exact Int.sub_zero _
  have hclock := micros_ofMoment u
  have hmicros := u.clock.microsecond_lt
  have hsum : u.clock.micros =
    ((u.clock.hour * 60 + u.clock.minute) * 60 + u.clock.second) * 1000000 +
      u.clock.microsecond := rfl
  rw [hinstant, hstamp, Clock.microsPerDay]
  omega

end Stamp

end GraphTemplate
