import GraphTemplate.Proofs.Build.Declarations
import GraphTemplate.Proofs.Template.WellFormed

/-! Contradictions among restrictions: a pattern that rejects a value which is wanted beside it.
The check that a build makes on the texts of values and the verdict on a value itself are two ways
to one answer, for values of the type that the pattern is for. Restrictions of a property are all
for such values: those on its values of one type, and those on its keys of one. -/
namespace GraphTemplate

namespace Restriction

variable {r s : Restriction} {all : List Restriction}

/-- What `s` wants, if it wants one value, is as `r` asks. -/
def Agrees (r s : Restriction) : Prop :=
  ∀ datum, s.demand = .equals datum → r.accepts datum.value = .ok true

def Rejects (r s : Restriction) : Prop :=
  ∃ datum, s.demand = .equals datum ∧ r.accepts datum.value = .ok false

/-- The first of the restrictions whose value `r` rejects, or none if `r` agrees with all. -/
def FirstRejected (r : Restriction) (all : List Restriction) : Option Restriction → Prop
  | none => ∀ s ∈ all, r.Agrees s
  | some s => r.Rejects s ∧ ∃ before after, all = before ++ s :: after ∧ ∀ s' ∈ before, r.Agrees s'

theorem FirstRejected.cons {found : Option Restriction} (hs : r.Agrees s)
    (h : r.FirstRejected all found) : r.FirstRejected (s :: all) found := by
  cases found with
  | none => exact List.forall_mem_cons.mpr ⟨hs, h⟩
  | some s' =>
    obtain ⟨hrejects, before, after, rfl, hbefore⟩ := h
    exact ⟨hrejects, s :: before, after, rfl, List.forall_mem_cons.mpr ⟨hs, hbefore⟩⟩

/-- A pattern is looked for in the canonical text of a value of its type. -/
theorem accepts_value {p : Pattern} {datum : Datum} {t : String} (hr : r.demand = .matching p)
    (hscalar : r.scalar = datum.scalar) (ht : datum.canonicalText = .ok t) :
    r.accepts datum.value = .ok (p.occursIn t) := by
  simp [accepts, hscalar, Datum.ofValue?_value, hr, ht, bind, Except.bind, pure, Except.pure]

theorem exists_pattern (hr : r.isRegexp = true) : ∃ p, r.demand = .matching p := by
  unfold isRegexp at hr
  split at hr
  · next p hd => exact ⟨p, hd⟩
  · cases hr

theorem contradiction?_cons_of_matching {p : Pattern} (hs : s.demand = .matching p) :
    r.contradiction? (s :: all) = r.contradiction? all := by
  simp only [contradiction?, hs]
  cases r.demand <;> rfl

theorem contradiction?_cons_of_equals {p : Pattern} {datum : Datum} {t : String}
    (hr : r.demand = .matching p) (hs : s.demand = .equals datum)
    (ht : datum.canonicalText = .ok t) :
    r.contradiction? (s :: all) =
      if p.occursIn t = true then r.contradiction? all else .ok (some s) := by
  simp only [contradiction?, hr, hs, ht]
  rfl

/-- The check of a pattern finds the first value that the pattern rejects. -/
theorem contradiction?_first (hr : r.isRegexp = true)
    (h : ∀ s ∈ all, s.Canonical ∧ ∀ datum, s.demand = .equals datum → r.scalar = datum.scalar) :
    ∃ found, r.contradiction? all = .ok found ∧ r.FirstRejected all found := by
  obtain ⟨p, hp⟩ := exists_pattern hr
  induction all with
  | nil => exact ⟨none, rfl, fun s hs => nomatch hs⟩
  | cons s all ih =>
    obtain ⟨⟨hcanonical, hscalar⟩, hall⟩ := List.forall_mem_cons.mp h
    obtain ⟨found, hfound, hfirst⟩ := ih hall
    cases hs : s.demand with
    | matching q =>
      have hagrees : r.Agrees s := fun datum hd => by rw [hs] at hd; cases hd
      exact ⟨found, (contradiction?_cons_of_matching hs).trans hfound, hfirst.cons hagrees⟩
    | equals datum =>
      -- the text that the check looks at is the one that the verdict on the value looks at
      obtain ⟨t, ht⟩ := hcanonical hs
      have haccepts := accepts_value hp (hscalar datum hs) ht
      rw [contradiction?_cons_of_equals hp hs ht]
      cases hoccurs : p.occursIn t with
      | true =>
        rw [hoccurs] at haccepts
        have hagrees : r.Agrees s := by
          intro datum' hd
          rw [hs] at hd
          rw [← Demand.equals.inj hd, haccepts]
        exact ⟨found, (if_pos rfl).trans hfound, hfirst.cons hagrees⟩
      | false =>
        rw [hoccurs] at haccepts
        have hrejects : r.Rejects s := ⟨datum, hs, haccepts⟩
        exact ⟨some s, if_neg Bool.false_ne_true, hrejects, [], all, rfl, fun s' hs' => nomatch hs'⟩

theorem rejected?_of_not_isRegexp (hr : r.isRegexp = false) : r.rejected? all = none := by
  have hnone : r.contradiction? all = .ok none := by
    induction all with
    | nil => rfl
    | cons s all ih =>
      rw [contradiction?]
      cases hd : r.demand with
      | matching p => simp [isRegexp, hd] at hr
      | equals datum => exact ih
  rw [rejected?, hnone]
  rfl

end Restriction

namespace PropertyEntry

variable {p : PropertyEntry} {r s : Restriction}

/-- Restrictions of values are all of one type, and so are those of keys. -/
theorem scalar_of_mem_allBuilt (hr : r ∈ p.allBuilt) (hs : s ∈ p.allBuilt)
    (hk : r.onKeys = s.onKeys) : r.scalar = s.scalar := by
  obtain ⟨kind, raw, hbr⟩ := exists_of_mem_allBuilt hr
  obtain ⟨kind', raw', hbs⟩ := exists_of_mem_allBuilt hs
  cases hkeys : s.onKeys with
  | false =>
    have hd := Restriction.valueType?_of_build hbr (hk.trans hkeys)
    rw [Restriction.valueType?_of_build hbs hkeys] at hd
    exact (Option.some.inj hd).symm
  | true =>
    obtain ⟨value, hd⟩ := Restriction.descriptor_of_build hbr (hk.trans hkeys)
    obtain ⟨value', hd'⟩ := Restriction.descriptor_of_build hbs hkeys
    exact (Descriptor.map.inj (hd.symm.trans hd')).1

/-- A list of restrictions of a property holds those on values or those on keys. -/
theorem contradiction?_of_built {rs : List Restriction} (onKeys : Bool)
    (hrs : ∀ s ∈ rs, s ∈ p.allBuilt ∧ s.onKeys = onKeys) (hr : r ∈ rs) (hp : r.isRegexp = true) :
    ∃ found, r.contradiction? rs = .ok found ∧ r.FirstRejected rs found := by
  apply Restriction.contradiction?_first hp
  intro s hs
  obtain ⟨hrb, hrk⟩ := hrs r hr
  obtain ⟨hsb, hsk⟩ := hrs s hs
  refine ⟨canonical_of_mem_allBuilt hsb, fun datum hd => ?_⟩
  obtain ⟨kind, raw, hb⟩ := exists_of_mem_allBuilt hsb
  rw [scalar_of_mem_allBuilt hrb hsb (hrk.trans hsk.symm)]
  exact (Datum.scalar_of_ofValue? (Restriction.wantsOwnType_of_build hb datum hd)).symm

theorem contradiction?_of_mem {key : String} {rs : List Restriction}
    (hrs : rs ∈ [(p.property key).values, (p.property key).keys]) (hr : r ∈ rs)
    (hp : r.isRegexp = true) :
    ∃ found, r.contradiction? rs = .ok found ∧ r.FirstRejected rs found := by
  rcases List.mem_pair.mp hrs with rfl | rfl
  · exact contradiction?_of_built false
      (fun s hs => ⟨(List.mem_filter.mp hs).1, by simpa using (List.mem_filter.mp hs).2⟩) hr hp
  · exact contradiction?_of_built true
      (fun s hs => ⟨(List.mem_filter.mp hs).1, (List.mem_filter.mp hs).2⟩) hr hp

end PropertyEntry

end GraphTemplate
