import GraphTemplate.Build
import GraphTemplate.Proofs.NameTable

/-! The connections that nodes have from their labels. A table that is filled never changes what it
holds already, so of all links that compete for one place the first stays. -/
namespace GraphTemplate

namespace LinkTable

variable {α β : Type} {t : LinkTable α} {subject edge : String}

theorem get?_foldl {f : LinkTable α → β → LinkTable α} {o : β → Option α}
    (h : ∀ t b, (f t b).get? subject edge = (t.get? subject edge).or (o b)) (t : LinkTable α)
    (bs : List β) :
    (bs.foldl f t).get? subject edge = (t.get? subject edge).or (bs.findSome? o) := by
  induction bs generalizing t with
  | nil => exact Option.or_none.symm
  | cons b bs ih =>
    rw [List.foldl_cons, ih, h, Option.or_assoc, List.findSome?_cons]
    cases o b <;> rfl

theorem get?_insertMissing_or (t : LinkTable α) (subject edge subject' edge' : String) (a : α) :
    (t.insertMissing subject edge a).get? subject' edge' =
      (t.get? subject' edge').or (if subject' = subject ∧ edge' = edge then some a else none) := by
  rw [get?_insertMissing]
  by_cases hk : subject' = subject ∧ edge' = edge
  · obtain ⟨rfl, rfl⟩ := hk
    rw [if_pos ⟨rfl, rfl⟩, if_pos ⟨rfl, rfl⟩]
    cases t.get? subject' edge' <;> rfl
  · rw [if_neg hk, if_neg hk, Option.or_none]

end LinkTable

namespace Build.Scope

variable {s : Scope} {main subject edge label : String}

def ruleTo? (s : Scope) (main subject edge label target : String) (b : Bounds) : Option Rule :=
  if subject ∈ s.wearers target then some ⟨main, subject, edge, b.min, b.max, some label⟩ else none

def linked? (s : Scope) (main subject edge label : String) : Option Rule :=
  (s.labelLinks.get? label).bind fun links => links.entries.findSome? fun link =>
    (link.2.get? edge).bind (s.ruleTo? main subject edge label link.1)

theorem findSome?_wearers (wearers : List String) (rule : String → Rule) (e : String) :
    (wearers.findSome? fun wearer =>
      if subject = wearer ∧ edge = e then some (rule wearer) else none) =
      if edge = e then (if subject ∈ wearers then some (rule subject) else none) else none := by
  induction wearers with
  | nil => simp
  | cons wearer wearers ih =>
    rw [List.findSome?_cons, ih]
    by_cases he : edge = e
    · by_cases hs : subject = wearer
      · simp [he, hs]
      · simp [he, hs]
    · simp [he]

theorem get?_expandLabel (t : LinkTable Rule) :
    (s.expandLabel main t label).get? subject edge =
      (t.get? subject edge).or (s.linked? main subject edge label) := by
  unfold expandLabel linked?
  cases s.labelLinks.get? label with
  | none => exact Option.or_none.symm
  | some links =>
    refine LinkTable.get?_foldl (fun t link => ?_) t links.entries
    rw [← NameTable.findSome?_entries]
    refine LinkTable.get?_foldl (fun t e => ?_) t link.2.entries
    unfold ruleTo?
    rw [← findSome?_wearers (s.wearers link.1)
      fun wearer => ⟨main, wearer, edge, e.2.min, e.2.max, some label⟩]
    refine LinkTable.get?_foldl (fun t wearer => ?_) t (s.wearers link.1)
    rw [LinkTable.get?_insertMissing_or]
    by_cases hk : subject = wearer ∧ edge = e.1
    · rw [if_pos hk, if_pos hk, hk.2]
    · rw [if_neg hk, if_neg hk]

/-- Of the labels of a node the first that has a link for the place counts. -/
theorem get?_expand (s : Scope) (main subject edge : String) (labels : List String) :
    (s.expand main labels).get? subject edge = labels.findSome? (s.linked? main subject edge) := by
  unfold expand
  rw [LinkTable.get?_foldl (f := s.expandLabel main) (o := s.linked? main subject edge)
    (fun t label => get?_expandLabel t)]
  rfl

theorem label_of_linked? {r : Rule} (h : s.linked? main subject edge label = some r) :
    r.label = some label := by
  obtain ⟨links, -, hlinks⟩ := Option.bind_eq_some_iff.mp h
  obtain ⟨link, -, hlink⟩ := List.exists_of_findSome?_eq_some hlinks
  obtain ⟨b, -, hb⟩ := Option.bind_eq_some_iff.mp hlink
  unfold ruleTo? at hb
  split at hb
  · obtain rfl := Option.some.inj hb
    rfl
  · exact nomatch hb

theorem isSome_label_of_expand {labels : List String} {r : Rule}
    (h : (s.expand main labels).get? subject edge = some r) : r.label.isSome = true := by
  rw [get?_expand] at h
  obtain ⟨label, -, hl⟩ := List.exists_of_findSome?_eq_some h
  rw [label_of_linked? hl]
  rfl

end Build.Scope

end GraphTemplate
