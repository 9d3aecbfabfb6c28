import GraphTemplate.Template
import GraphTemplate.Proofs.NameTable
import Mathlib.Data.List.Nodup

/-! Rules in their places: a table that has every rule under the names that the rule itself tells
lists every rule once. -/
namespace GraphTemplate

namespace NameTable

variable {α β : Type} {t : NameTable α}

theorem mem_values_iff {a : α} : a ∈ t.values ↔ ∃ name, t.get? name = some a := by
  unfold values
  rw [List.mem_map]
  constructor
  · rintro ⟨⟨name, a'⟩, he, rfl⟩
    exact ⟨name, get?_eq_some_iff.mpr he⟩
  · rintro ⟨name, h⟩
    exact ⟨(name, a), get?_eq_some_iff.mp h, rfl⟩

/-- Lists without repetitions, one for every name, whose elements tell the name. -/
theorem nodup_flatMap_values {g : α → List β} (key : β → String)
    (hk : ∀ name a, t.get? name = some a → ∀ b ∈ g a, key b = name)
    (hn : ∀ a ∈ t.values, (g a).Nodup) : (t.values.flatMap g).Nodup := by
  rw [List.nodup_flatMap]
  refine ⟨hn, ?_⟩
  unfold values
  rw [List.pairwise_map]
  refine (List.pairwise_map.mp t.distinct).imp_of_mem ?_
  intro e e' he he' hne b hb hb'
  have hname := hk e.1 e.2 (get?_eq_some_iff.mpr he) b hb
  have hname' := hk e'.1 e'.2 (get?_eq_some_iff.mpr he') b hb'
  exact hne (hname.symm.trans hname')

theorem nodup_values (key : α → String)
    (hk : ∀ name a, t.get? name = some a → key a = name) : t.values.Nodup := by
  have h := nodup_flatMap_values (t := t) (g := fun a => [a]) key
    (fun name a ha b hb => List.mem_singleton.mp hb ▸ hk name a ha)
    (fun a _ => List.nodup_singleton a)
  rwa [List.flatMap_singleton'] at h

end NameTable

namespace LinkTable

variable {α : Type} {t : LinkTable α}

theorem get?_eq_some_iff {subject edge : String} {a : α} :
    t.get? subject edge = some a ↔
      ∃ edges, NameTable.get? t subject = some edges ∧ edges.get? edge = some a :=
  Option.bind_eq_some_iff

theorem mem_toList_iff {a : α} : a ∈ t.toList ↔ ∃ subject edge, t.get? subject edge = some a := by
  unfold toList
  rw [List.mem_flatMap]
  constructor
  · rintro ⟨edges, hedges, ha⟩
    obtain ⟨subject, hs⟩ := NameTable.mem_values_iff.mp hedges
    obtain ⟨edge, he⟩ := NameTable.mem_values_iff.mp ha
    exact ⟨subject, edge, get?_eq_some_iff.mpr ⟨edges, hs, he⟩⟩
  · rintro ⟨subject, edge, h⟩
    obtain ⟨edges, hs, he⟩ := get?_eq_some_iff.mp h
    exact ⟨edges, NameTable.mem_values_iff.mpr ⟨subject, hs⟩,
      NameTable.mem_values_iff.mpr ⟨edge, he⟩⟩

end LinkTable

namespace RuleTable

variable {t : RuleTable} {r : Rule}

def Placed (t : RuleTable) : Prop :=
  ∀ ⦃main subject edge r⦄, t.get? main subject edge = some r →
    r.main = main ∧ r.subject = subject ∧ r.edge = edge

theorem get?_eq_some_iff {main subject edge : String} :
    t.get? main subject edge = some r ↔
      ∃ links, NameTable.get? t main = some links ∧ LinkTable.get? links subject edge = some r :=
  Option.bind_eq_some_iff

theorem mem_toList_iff : r ∈ t.toList ↔ ∃ main subject edge, t.get? main subject edge = some r := by
  unfold toList
  rw [List.mem_flatMap]
  constructor
  · rintro ⟨links, hlinks, hr⟩
    obtain ⟨main, hm⟩ := NameTable.mem_values_iff.mp hlinks
    obtain ⟨subject, edge, h⟩ := LinkTable.mem_toList_iff.mp hr
    exact ⟨main, subject, edge, get?_eq_some_iff.mpr ⟨links, hm, h⟩⟩
  · rintro ⟨main, subject, edge, h⟩
    obtain ⟨links, hm, h⟩ := get?_eq_some_iff.mp h
    exact ⟨links, NameTable.mem_values_iff.mpr ⟨main, hm⟩,
      LinkTable.mem_toList_iff.mpr ⟨subject, edge, h⟩⟩

theorem mem_ofMain_iff {main : String} :
    r ∈ t.ofMain main ↔ ∃ subject edge, t.get? main subject edge = some r := by
  unfold ofMain get?
  cases NameTable.get? t main with
  | none => simp
  | some links => exact LinkTable.mem_toList_iff

namespace Placed

theorem mem_toList_iff (h : t.Placed) :
    r ∈ t.toList ↔ t.get? r.main r.subject r.edge = some r := by
  rw [RuleTable.mem_toList_iff]
  constructor
  · rintro ⟨main, subject, edge, hr⟩
    obtain ⟨rfl, rfl, rfl⟩ := h hr
    exact hr
  · intro hr
    exact ⟨r.main, r.subject, r.edge, hr⟩

theorem mem_ofMain_iff (h : t.Placed) {main : String} :
    r ∈ t.ofMain main ↔ r ∈ t.toList ∧ r.main = main := by
  rw [RuleTable.mem_ofMain_iff, h.mem_toList_iff]
  constructor
  · rintro ⟨subject, edge, hr⟩
    obtain ⟨rfl, rfl, rfl⟩ := h hr
    exact ⟨hr, rfl⟩
  · rintro ⟨hr, rfl⟩
    exact ⟨r.subject, r.edge, hr⟩

theorem nodup_toList (h : t.Placed) : t.toList.Nodup := by
  refine NameTable.nodup_flatMap_values Rule.main ?_ ?_
  · intro main links hm r hr
    obtain ⟨subject, edge, hr⟩ := LinkTable.mem_toList_iff.mp hr
    exact (h (get?_eq_some_iff.mpr ⟨links, hm, hr⟩)).1
  intro links hlinks
  obtain ⟨main, hm⟩ := NameTable.mem_values_iff.mp hlinks
  refine NameTable.nodup_flatMap_values Rule.subject ?_ ?_
  · intro subject edges hs r hr
    obtain ⟨edge, he⟩ := NameTable.mem_values_iff.mp hr
    have hr := LinkTable.get?_eq_some_iff.mpr ⟨edges, hs, he⟩
    exact (h (get?_eq_some_iff.mpr ⟨links, hm, hr⟩)).2.1
  intro edges hedges
  obtain ⟨subject, hs⟩ := NameTable.mem_values_iff.mp hedges
  refine NameTable.nodup_values Rule.edge fun edge r he => ?_
  have hr := LinkTable.get?_eq_some_iff.mpr ⟨edges, hs, he⟩
  exact (h (get?_eq_some_iff.mpr ⟨links, hm, hr⟩)).2.2

end Placed

end RuleTable

end GraphTemplate
