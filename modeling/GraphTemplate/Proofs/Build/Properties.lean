import GraphTemplate.Proofs.Build.Declarations
import GraphTemplate.Proofs.DataType
import Mathlib.Data.List.Forall2

/-! Properties of which every text is accepted: they have the type and the restrictions that their
declaration names, kind after kind and each kind in the order of the declaration. -/
namespace GraphTemplate

namespace RestrictionTexts

def onValues (r : RestrictionTexts) : List (RestrictionKind × String) :=
  r.values.map (.value, ·) ++ r.regexps.map (.regexp, ·)

def onKeys (r : RestrictionTexts) : List (RestrictionKind × String) :=
  r.keyValues.map (.keyValue, ·) ++ r.keyRegexps.map (.keyRegexp, ·)

theorem isKey_of_mem_onValues {r : RestrictionTexts} {x : RestrictionKind × String}
    (h : x ∈ r.onValues) : x.1.isKey = false := by
  simp only [onValues, List.mem_append, List.mem_map] at h
  rcases h with ⟨raw, -, rfl⟩ | ⟨raw, -, rfl⟩ <;> rfl

theorem isKey_of_mem_onKeys {r : RestrictionTexts} {x : RestrictionKind × String}
    (h : x ∈ r.onKeys) : x.1.isKey = true := by
  simp only [onKeys, List.mem_append, List.mem_map] at h
  rcases h with ⟨raw, -, rfl⟩ | ⟨raw, -, rfl⟩ <;> rfl

end RestrictionTexts

namespace Restriction

variable {d : Descriptor} {kind : RestrictionKind} {raw : String} {r : Restriction}

theorem onKeys_of_build (h : build d kind raw = .ok r) : r.onKeys = kind.isKey := by
  obtain ⟨scalar, -, ⟨-, p, rfl⟩ | ⟨-, datum, -, rfl⟩⟩ := cases_of_build h <;> rfl

theorem built?_eq_some_iff : built? d kind raw = some r ↔ build d kind raw = .ok r := by
  unfold built?
  cases build d kind raw <;> simp [Except.toOption]

theorem exists_of_accepted (he : error? d kind raw = none) (hf : fault? d kind raw = none) :
    ∃ r, build d kind raw = .ok r := by
  unfold error? at he
  unfold fault? at hf
  rcases h : build d kind raw with (e | f) | r
  · simp [h] at he
  · simp [h] at hf
  · exact ⟨r, rfl⟩

end Restriction

namespace PropertyEntry

variable {entry : PropertyEntry} {kind : RestrictionKind}

def Builds (d : Descriptor) : List (RestrictionKind × String) → List Restriction → Prop :=
  List.Forall₂ fun x r => Restriction.build d x.1 x.2 = .ok r

/-- A property as its declaration has it, all of whose texts are accepted. -/
structure Yields (entry : PropertyEntry) (key : String) (p : Property) : Prop where
  key : p.key = key
  descriptor : Descriptor.read entry.type = .ok p.descriptor
  values : Builds p.descriptor entry.restrictions.onValues p.values
  keys : Builds p.descriptor entry.restrictions.onKeys p.keys

theorem Builds.exists_of_mem {d : Descriptor} {xs : List (RestrictionKind × String)}
    {rs : List Restriction} (h : Builds d xs rs) {r : Restriction} (hr : r ∈ rs) :
    ∃ x ∈ xs, Restriction.build d x.1 x.2 = .ok r := by
  induction h with
  | nil => simp at hr
  | @cons x r' xs rs hx _ ih =>
    rcases List.mem_cons.mp hr with rfl | hr
    · exact ⟨x, List.mem_cons_self, hx⟩
    · obtain ⟨y, hy, hb⟩ := ih hr
      exact ⟨y, List.mem_cons_of_mem x hy, hb⟩

theorem builds_built {raws : List String} {d : Descriptor}
    (h : ∀ raw ∈ raws, ∃ r, Restriction.build d kind raw = .ok r) :
    Builds d (raws.map (kind, ·)) (raws.filterMap (Restriction.built? d kind)) := by
  induction raws with
  | nil => exact .nil
  | cons raw raws ih =>
    rw [List.forall_mem_cons] at h
    obtain ⟨⟨r, hr⟩, hraws⟩ := h
    rw [List.filterMap_cons_some (Restriction.built?_eq_some_iff.mpr hr)]
    exact .cons hr (ih hraws)

theorem accepted_of_defects {place : List String} (hd : entry.defects place = [])
    (hf : entry.fault? = none) {raw : String} (hr : raw ∈ entry.restrictions.ofKind kind) :
    ∃ r, Restriction.build entry.descriptor kind raw = .ok r := by
  have hkind : kind ∈ RestrictionKind.all := by cases kind <;> decide
  apply Restriction.exists_of_accepted
  · have hnone : entry.restrictionDefects place kind = [] :=
      List.flatMap_eq_nil_iff.mp (List.append_eq_nil_iff.mp hd).2 kind hkind
    rw [← List.zipIdx_map_fst 1 (entry.restrictions.ofKind kind)] at hr
    obtain ⟨x, hx, rfl⟩ := List.mem_map.mp hr
    simpa using List.filterMap_eq_nil_iff.mp hnone x hx
  · have hnone := List.findSome?_eq_none_iff.mp hf kind hkind
    exact List.findSome?_eq_none_iff.mp hnone raw hr

theorem filter_built (p : Bool → Bool) :
    (entry.built kind).filter (fun r => p r.onKeys) =
      if p kind.isKey = true then entry.built kind else [] := by
  have hkeys : ∀ r ∈ entry.built kind, p r.onKeys = p kind.isKey := by
    intro r hr
    obtain ⟨raw, -, hb⟩ := List.mem_filterMap.mp hr
    rw [Restriction.onKeys_of_build (Restriction.built?_eq_some_iff.mp hb)]
  rw [List.filter_congr hkeys]
  cases p kind.isKey <;> simp

theorem values_property (key : String) :
    (entry.property key).values = entry.built .value ++ entry.built .regexp := by
  have hfilter (kind : RestrictionKind) : (entry.built kind).filter (fun r => !r.onKeys) =
      if (!kind.isKey) = true then entry.built kind else [] := filter_built not
  simp [property, allBuilt, RestrictionKind.all, hfilter, RestrictionKind.isKey]

theorem keys_property (key : String) :
    (entry.property key).keys = entry.built .keyValue ++ entry.built .keyRegexp := by
  have hfilter (kind : RestrictionKind) : (entry.built kind).filter (·.onKeys) =
      if kind.isKey = true then entry.built kind else [] := filter_built fun b => b
  simp [property, allBuilt, RestrictionKind.all, hfilter, RestrictionKind.isKey]

theorem descriptor_of_typeDefects {place : List String} (h : entry.typeDefects place = []) :
    Descriptor.read entry.type = .ok entry.descriptor := by
  unfold typeDefects at h
  unfold descriptor
  cases hr : Descriptor.read entry.type with
  | error e =>
    rw [hr] at h
    exact nomatch h
  | ok d => rfl

theorem yields_property {place : List String} (hd : entry.defects place = [])
    (hf : entry.fault? = none) (key : String) : entry.Yields key (entry.property key) where
  key := rfl
  descriptor := descriptor_of_typeDefects (List.append_eq_nil_iff.mp hd).1
  values := by
    rw [values_property]
    apply List.rel_append
    · exact builds_built fun raw hr => accepted_of_defects hd hf hr
    · exact builds_built fun raw hr => accepted_of_defects hd hf hr
  keys := by
    rw [keys_property]
    apply List.rel_append
    · exact builds_built fun raw hr => accepted_of_defects hd hf hr
    · exact builds_built fun raw hr => accepted_of_defects hd hf hr

end PropertyEntry

end GraphTemplate
