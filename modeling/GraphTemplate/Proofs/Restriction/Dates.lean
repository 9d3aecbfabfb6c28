import GraphTemplate.Proofs.Moment.Stamp
import GraphTemplate.Proofs.Template.Instants

/-! Restrictions to one instant. Their texts are the stamps, each of which is the canonical text of
the moment that it is read as, and the canonical text of any moment is the stamp of its second. -/
namespace GraphTemplate

namespace Restriction

def Names (d : Descriptor) (kind : RestrictionKind) (s : Scalar) : Prop :=
  kind = .value ∧ d.valueType? = some s ∨ kind = .keyValue ∧ d.keyType? = some s

variable {d : Descriptor} {kind : RestrictionKind} {s : Scalar}

theorem build_of_names (h : Names d kind s) (raw : String) :
    build d kind raw = (readDatum s raw).map fun datum => ⟨s, kind.isKey, .equals datum, raw⟩ := by
  obtain ⟨rfl, hd⟩ | ⟨rfl, hd⟩ := h
  · simp only [build, restrictedType, hd, RestrictionKind.isKey, RestrictionKind.isRegexp,
      Bool.false_eq_true, if_false]
  · cases d with
    | map key value =>
      obtain rfl := Option.some.inj hd
      rfl
    | _ => cases hd

/-- A text is a restriction just if it reads as a value, which is then the value that is wanted. -/
theorem build_eq_ok_iff (h : Names d kind s) {raw : String} {r : Restriction} :
    build d kind raw = .ok r ↔
      ∃ datum, readDatum s raw = .ok datum ∧ r = ⟨s, kind.isKey, .equals datum, raw⟩ := by
  rw [build_of_names h]
  cases readDatum s raw with
  | error e => simp [Except.map]
  | ok datum => simp [Except.map, eq_comm]

end Restriction

namespace Moment

variable {m : Moment}

def WholeSeconds (m : Moment) : Prop :=
  m.clock.microsecond = 0 ∧ ∀ o, m.offset = some o → o.micros % 1000000 = 0

theorem WholeSeconds.instant_mod (h : m.WholeSeconds) : m.instant % 1000000 = 0 := by
  obtain ⟨hclock, hoffset⟩ := h
  have hmicros : (m.offset.getD Offset.zero).micros % 1000000 = 0 := by
    cases ho : m.offset with
    | none => rfl
    | some o => exact hoffset o ho
  simp only [instant, localMicros, Clock.micros, Clock.microsPerDay, hclock]
  omega

theorem exists_toUniversal? (h : InCalendar m.instant) : ∃ u, m.toUniversal? = some u := by
  apply Option.ne_none_iff_exists'.mp
  intro hnone
  exact toUniversal?_eq_none_iff.mp hnone h

end Moment

namespace Restriction

theorem readDatum_chars (s : Stamp) :
    readDatum .datetime (String.ofList s.chars) = .ok (.datetime s.moment) := by
  obtain ⟨hshape, hread⟩ := s.read_chars
  rw [← String.toList_ofList (l := s.chars)] at hshape hread
  exact readDatum_eq_ok_iff.mpr ⟨.datetime hshape hread, rfl⟩

theorem exists_stamp_of_readDatum {raw : String} {datum : Datum}
    (hascii : ∀ c ∈ raw.toList, c.toNat < 128) (h : readDatum .datetime raw = .ok datum) :
    ∃ s : Stamp, raw.toList = s.chars ∧ datum = .datetime s.moment := by
  obtain ⟨hd, hscalar⟩ := readDatum_eq_ok_iff.mp h
  cases hd with
  | datetime hshape hm =>
    obtain ⟨s, hs, rfl⟩ := Stamp.exists_of_ofZulu hascii hshape hm
    exact ⟨s, hs, rfl⟩
  | _ => cases hscalar

end Restriction

theorem Datum.canonicalText_stamp (s : Stamp) :
    (datetime s.moment).canonicalText = .ok (String.ofList s.chars) := by
  have hu : s.moment.toUniversal? = some s.moment := Moment.toUniversal?_eq_some_iff.mpr ⟨rfl, rfl⟩
  rw [canonicalText, toUniversal, hu, ← s.zuluText_moment]
  rfl

/-- The canonical text of a moment is the stamp of its second. -/
theorem Datum.exists_stamp_of_inCalendar {m : Moment} (h : Moment.InCalendar m.instant) :
    ∃ s : Stamp, (datetime m).canonicalText = .ok (String.ofList s.chars) ∧
      s.moment.instant = m.instant - m.instant % 1000000 := by
  obtain ⟨u, hu⟩ := Moment.exists_toUniversal? h
  obtain ⟨hoffset, hinstant⟩ := Moment.toUniversal?_eq_some_iff.mp hu
  refine ⟨Stamp.ofMoment u, ?_, ?_⟩
  · rw [canonicalText, toUniversal, hu, ← Stamp.toList_zuluText, String.ofList_toList]
    rfl
  · rw [Stamp.instant_ofMoment hoffset, hinstant]

/-- The ASCII texts of restrictions to one instant are the stamps, and each of them is the
canonical text of what is wanted. The other way round the canonical text of a moment is a
restriction, to the instant of the moment with the fraction of the second dropped: to its own
instant if neither its time of day nor its offset has such a fraction. -/
theorem Restriction.datetime_texts {d : Descriptor} {kind : RestrictionKind}
    (h : Names d kind .datetime) :
    (∀ raw : String, (∀ c ∈ raw.toList, c.toNat < 128) →
      ((∃ r, build d kind raw = .ok r) ↔ ∃ s : Stamp, raw.toList = s.chars) ∧
      ∀ r, build d kind raw = .ok r →
        ∃ datum, r.demand = .equals datum ∧ datum.canonicalText = .ok raw) ∧
    ∀ m : Moment, Moment.InCalendar m.instant → ∃ raw r u,
      (Datum.datetime m).canonicalText = .ok raw ∧ build d kind raw = .ok r ∧
      r.demand = .equals (.datetime u) ∧ u.instant = m.instant - m.instant % 1000000 ∧
      (m.WholeSeconds → u.instant = m.instant) := by
  refine ⟨fun raw hascii => ⟨⟨?_, ?_⟩, ?_⟩, fun m hm => ?_⟩
  · rintro ⟨r, hr⟩
    obtain ⟨datum, hread, -⟩ := (build_eq_ok_iff h).mp hr
    obtain ⟨s, hs, -⟩ := exists_stamp_of_readDatum hascii hread
    exact ⟨s, hs⟩
  · rintro ⟨s, hs⟩
    obtain rfl : String.ofList s.chars = raw := by rw [← hs, String.ofList_toList]
    exact ⟨_, (build_eq_ok_iff h).mpr ⟨_, readDatum_chars s, rfl⟩⟩
  · intro r hr
    obtain ⟨datum, hread, rfl⟩ := (build_eq_ok_iff h).mp hr
    obtain ⟨s, hs, rfl⟩ := exists_stamp_of_readDatum hascii hread
    refine ⟨_, rfl, ?_⟩
    rw [Datum.canonicalText_stamp, ← hs, String.ofList_toList]
  · obtain ⟨s, htext, hinstant⟩ := Datum.exists_stamp_of_inCalendar hm
    refine ⟨_, _, s.moment, htext, (build_eq_ok_iff h).mpr ⟨_, readDatum_chars s, rfl⟩, rfl,
      hinstant, ?_⟩
    intro hwhole
    rw [hinstant, hwhole.instant_mod, Int.sub_zero]

def dayBreak (offset : Offset) : Moment :=
  ⟨⟨2020, 5, 7, by decide, by decide, by decide, by decide, by decide, by decide⟩, .ofMicros 0,
    some offset⟩

def threeHours : Offset := ⟨10800000000, by decide, by decide⟩

theorem Restriction.datetime_texts_dayBreak :
    Names (.scalar .datetime) .value .datetime ∧ (dayBreak threeHours).WholeSeconds ∧
      (∃ r, build (.scalar .datetime) .value "2020-05-06T21:00:00Z" = .ok r ∧
        ∃ u, r.demand = .equals (.datetime u) ∧ u.instant = (dayBreak threeHours).instant) ∧
      ¬∃ r, build (.scalar .datetime) .value "2019-02-29T21:00:00Z" = .ok r := by
  have hnames : Names (.scalar .datetime) .value .datetime := .inl ⟨rfl, rfl⟩
  have hwhole : (dayBreak threeHours).WholeSeconds := by
    refine ⟨rfl, fun o ho => ?_⟩
    rw [← Option.some.inj ho]
    rfl
  have htext : (Datum.datetime (dayBreak threeHours)).canonicalText =
      .ok "2020-05-06T21:00:00Z" := by decide +kernel
  obtain ⟨htexts, hmoments⟩ := datetime_texts hnames
  obtain ⟨raw, r, u, hraw, hbuild, hdemand, -, hinstant⟩ :=
    hmoments (dayBreak threeHours) ⟨by decide, by decide⟩
  obtain rfl : "2020-05-06T21:00:00Z" = raw := Except.ok.inj (htext.symm.trans hraw)
  refine ⟨hnames, hwhole, ⟨r, hbuild, u, hdemand, hinstant hwhole⟩, ?_⟩
  rw [(htexts "2019-02-29T21:00:00Z" (by simp)).1]
  rintro ⟨s, hs⟩
  have hfail : (Moment.ofZulu "2019-02-29T21:00:00Z".toList).toOption = none := by decide +kernel
  rw [hs, s.read_chars.2] at hfail
  cases hfail

def halfSecond : Offset := ⟨1500000, by decide, by decide⟩

/-- An offset with a fraction of a second takes a moment of whole seconds off the second that its
canonical text names. -/
theorem Restriction.second_not_kept : ¬∀ m : Moment, m.clock.microsecond = 0 →
    Moment.InCalendar m.instant → ∃ raw r u, (Datum.datetime m).canonicalText = .ok raw ∧
      build (.scalar .datetime) .value raw = .ok r ∧ r.demand = .equals (.datetime u) ∧
      u.instant = m.instant := by
  intro h
  have hnames : Names (.scalar .datetime) .value .datetime := .inl ⟨rfl, rfl⟩
  have hm : Moment.InCalendar (dayBreak halfSecond).instant := ⟨by decide, by decide⟩
  obtain ⟨raw, r, u, hraw, hbuild, hdemand, hinstant⟩ := h (dayBreak halfSecond) rfl hm
  obtain ⟨s, htext, hs⟩ := Datum.exists_stamp_of_inCalendar hm
  obtain rfl := Except.ok.inj (htext.symm.trans hraw)
  obtain ⟨datum, hread, rfl⟩ := (build_eq_ok_iff hnames).mp hbuild
  rw [readDatum_chars s] at hread
  obtain rfl := Except.ok.inj hread
  obtain rfl := Datum.datetime.inj (Demand.equals.inj hdemand)
  rw [hs] at hinstant
  exact absurd hinstant (by decide)

end GraphTemplate
