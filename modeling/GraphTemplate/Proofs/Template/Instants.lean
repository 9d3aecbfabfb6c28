import GraphTemplate.Proofs.Build.Declarations
import GraphTemplate.Proofs.Restriction
import GraphTemplate.Proofs.Template.Acceptance

/-! Moments are judged as instants. The form of universal time is a normal form: an instant has one
at most, and the verdict on a moment is a function of it, with the text that the verdict tells. -/
namespace GraphTemplate

namespace Moment

variable {m n u v : Moment}

/-- A moment of universal time is what the calendar says at its instant, so that no other one has
the same instant. -/
theorem eq_of_instant (hu : u.offset = some Offset.zero) (hv : v.offset = some Offset.zero)
    (h : u.instant = v.instant) : u = v := by
  have hlocal : u.localMicros = v.localMicros := by
    rw [instant, instant, hu, hv] at h
    omega
  obtain ⟨hdate, hclock⟩ := parts_of_localMicros hlocal
  obtain ⟨_, _, _⟩ := u
  obtain ⟨_, _, _⟩ := v
  simp only at hdate hclock hu hv
  rw [hdate, hclock, hu, hv]

theorem inCalendar_of_universal (hu : u.offset = some Offset.zero) : InCalendar u.instant := by
  have hlocal : u.instant = u.localMicros := by
    rw [instant, hu]
    exact Int.sub_zero _
  rw [hlocal]
  exact inCalendar_localMicros u

/-- The date and the time of day that an offset leads to, over the ends of days, months and years,
are those of the moment of universal time with the same instant. -/
theorem toUniversal?_eq_some_iff :
    m.toUniversal? = some u ↔ u.offset = some Offset.zero ∧ u.instant = m.instant := by
  constructor
  · intro h
    exact ⟨toUniversal?_offset h, instant_of_toUniversal? h⟩
  · rintro ⟨hu, hinstant⟩
    cases hm : m.toUniversal? with
    | none =>
      have hout := toUniversal?_eq_none_iff.mp hm
      rw [← hinstant] at hout
      exact absurd (inCalendar_of_universal hu) hout
    | some w =>
      have hw := (instant_of_toUniversal? hm).trans hinstant.symm
      rw [eq_of_instant (toUniversal?_offset hm) hu hw]

theorem toUniversal?_toUniversal? (h : m.toUniversal? = some u) : u.toUniversal? = some u :=
  toUniversal?_eq_some_iff.mpr ⟨toUniversal?_offset h, rfl⟩

/-- Two moments have the same form of universal time just if they are one instant. -/
theorem same_universal_iff (hm : m.toUniversal? = some u) (hn : n.toUniversal? = some v) :
    u.same v = true ↔ m.instant = n.instant := by
  rw [same_iff, toUniversal?_offset hm, toUniversal?_offset hn, instant_of_toUniversal? hm,
    instant_of_toUniversal? hn]
  exact and_iff_right rfl

theorem eq_of_same_universal (hm : m.toUniversal? = some u) (hn : n.toUniversal? = some v)
    (h : u.same v = true) : u = v :=
  eq_of_instant (toUniversal?_offset hm) (toUniversal?_offset hn) (same_iff.mp h).2

end Moment

theorem Datum.toUniversal_toUniversal (m : Moment) :
    (toUniversal m >>= toUniversal) = toUniversal m := by
  cases hm : m.toUniversal? with
  | none => rw [toUniversal, hm]; rfl
  | some u =>
    have hu : toUniversal m = .ok u := by rw [toUniversal, hm]
    have huu : toUniversal u = .ok u := by rw [toUniversal, Moment.toUniversal?_toUniversal? hm]
    rw [hu]
    exact huu

/-- Whether a moment of universal time is as the restriction asks: it is the instant that is wanted,
or the pattern occurs in its text. -/
def Restriction.admitsInstant (r : Restriction) (u : Moment) : Bool :=
  r.scalar == .datetime &&
    match r.demand with
    | .equals (.datetime wanted) => u.same wanted
    | .equals _ => false
    | .matching pattern => pattern.occursIn u.zuluText

namespace Property

open Check

variable {p : Property} {m n u v : Moment}

theorem accepts_moment {r : Restriction} (h : m.toUniversal? = some u) :
    r.accepts (.moment m) = .ok (r.admitsInstant u) := by
  have hu : Datum.toUniversal m = .ok u := by rw [Datum.toUniversal, h]
  unfold Restriction.accepts Restriction.admitsInstant
  cases r.scalar with
  | datetime =>
    simp only [Datum.ofValue?, bind, Except.bind]
    cases r.demand with
    | equals wanted =>
      cases wanted with
      | datetime w => simp [Datum.meets, hu, Except.map]
      | _ => rfl
    | matching pattern => simp [Datum.canonicalText, hu, Except.map, pure, Except.pure]
  | _ => rfl

theorem anyAccepts_moment (h : m.toUniversal? = some u) (rs : List Restriction) :
    anyAccepts (.moment m) rs = .ok (rs.any (·.admitsInstant u)) := by
  induction rs with
  | nil => rfl
  | cons r rs ih =>
    rw [anyAccepts, accepts_moment h, List.any_cons]
    cases r.admitsInstant u with
    | true => rfl
    | false => exact ih

theorem shown_moment (h : m.toUniversal? = some u) :
    shown .datetime (.moment m) = .ok u.zuluText := by
  show (Datum.toUniversal m).map Moment.zuluText = _
  rw [Datum.toUniversal, h]
  rfl

def checkInstant (p : Property) (u : Moment) : Check Unit :=
  if p.values.isEmpty || p.values.any (·.admitsInstant u) then .ok ()
  else violated (.rejected p.key u.zuluText "value" (p.values.map (·.raw)))

theorem check_moment (hp : p.descriptor = .scalar .datetime) (h : m.toUniversal? = some u) :
    p.check (.moment m) = p.checkInstant u := by
  have htyped : hasType .datetime (.moment m) = .ok true := rfl
  unfold check checkInstant
  simp only [hp, checkScalar, htyped]
  show p.checkRestrictions .datetime p.values "value" (.moment m) = _
  unfold checkRestrictions
  cases p.values.isEmpty with
  | true => rfl
  | false =>
    simp only [anyAccepts_moment h, shown_moment h]
    cases p.values.any (·.admitsInstant u) <;> rfl

/-- Moments with the same form of universal time are one instant and have one verdict: both pass, or
both are rejected with the text of that form. Universal time is its own form. -/
theorem check_of_same_universal (hp : p.descriptor = .scalar .datetime)
    (hm : m.toUniversal? = some u) (hn : n.toUniversal? = some v) (h : u.same v = true) :
    (p.check (.moment m) = .ok () ∧ p.check (.moment n) = .ok () ∨
      p.check (.moment m) = violated (.rejected p.key u.zuluText "value" (p.values.map (·.raw))) ∧
      p.check (.moment n) = violated (.rejected p.key u.zuluText "value" (p.values.map (·.raw)))) ∧
    m.instant = n.instant ∧
    ∀ d, (Datum.toUniversal d >>= Datum.toUniversal) = Datum.toUniversal d := by
  refine ⟨?_, (Moment.same_universal_iff hm hn).mp h, Datum.toUniversal_toUniversal⟩
  obtain rfl := Moment.eq_of_same_universal hm hn h
  rw [check_moment hp hm, check_moment hp hn]
  unfold checkInstant
  split
  · exact .inl ⟨rfl, rfl⟩
  · exact .inr ⟨rfl, rfl⟩

def inMarch : PropertyEntry := ⟨"datetime", ⟨["2024-03-01T00:30:15Z"], ["^2024-03"], [], []⟩⟩

def marchHere : Moment :=
  ⟨⟨2024, 3, 1, by decide, by decide, by decide, by decide, by decide, by decide⟩,
    ⟨0, 30, 15, 250000, by decide, by decide, by decide, by decide⟩,
    some ⟨7200000000, by decide, by decide⟩⟩

def leapDay : Moment :=
  ⟨⟨2024, 2, 29, by decide, by decide, by decide, by decide, by decide, by decide⟩,
    ⟨22, 30, 15, 250000, by decide, by decide, by decide, by decide⟩, none⟩

theorem check_leapDay :
    (inMarch.property "at").descriptor = .scalar .datetime ∧
      marchHere.toUniversal? = some { leapDay with offset := some Offset.zero } ∧
      leapDay.toUniversal? = some { leapDay with offset := some Offset.zero } ∧
      (inMarch.property "at").check (.moment leapDay) =
        violated (.rejected "at" "2024-02-29T22:30:15Z" "value"
          ["2024-03-01T00:30:15Z", "^2024-03"]) := by
  have hp : (inMarch.property "at").descriptor = .scalar .datetime := by decide +kernel
  have hm : marchHere.toUniversal? = some { leapDay with offset := some Offset.zero } := by
    decide +kernel
  have hn : leapDay.toUniversal? = some { leapDay with offset := some Offset.zero } := rfl
  have hcheck : (inMarch.property "at").check (.moment marchHere) =
      violated (.rejected "at" "2024-02-29T22:30:15Z" "value"
        ["2024-03-01T00:30:15Z", "^2024-03"]) := by decide +kernel
  refine ⟨hp, hm, hn, ?_⟩
  rcases (check_of_same_universal hp hm hn (by decide +kernel)).1 with ⟨h, -⟩ | ⟨h, h'⟩
  · rw [h] at hcheck
    cases hcheck
  · rw [h', ← h, hcheck]

end Property

end GraphTemplate
