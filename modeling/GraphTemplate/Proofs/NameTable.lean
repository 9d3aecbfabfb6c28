import GraphTemplate.NameTable

/-! Tables of names read back: entries of distinct names are kept as they are, and a name stands for
what its entry says. -/
namespace GraphTemplate.NameTable

variable {α β : Type} {t : NameTable α}

theorem put_of_not_mem {name : String} {a : α} {es : List (String × α)}
    (h : name ∉ es.map Prod.fst) : Entries.put name a es = es ++ [(name, a)] := by
  induction es with
  | nil => rfl
  | cons e es ih =>
    rw [List.map_cons, List.mem_cons, not_or] at h
    rw [Entries.put, if_neg (Ne.symm h.1), ih h.2, List.cons_append]

theorem entries_foldl_insert {es : List (String × α)}
    (h : (t.entries.map Prod.fst ++ es.map Prod.fst).Nodup) :
    (es.foldl (fun t e => t.insert e.1 e.2) t).entries = t.entries ++ es := by
  induction es generalizing t with
  | nil => exact (List.append_nil _).symm
  | cons e es ih =>
    have hd := List.nodup_append.mp h
    have hn : e.1 ∉ t.entries.map Prod.fst :=
      fun hm => hd.2.2 e.1 hm e.1 List.mem_cons_self rfl
    have hput : (t.insert e.1 e.2).entries = t.entries ++ [e] := put_of_not_mem hn
    rw [List.foldl_cons, ih, hput, List.append_assoc]
    · rfl
    · rw [hput, List.map_append, List.append_assoc]
      exact h

theorem entries_ofList {es : List (String × α)} (h : (es.map Prod.fst).Nodup) :
    (ofList es).entries = es :=
  entries_foldl_insert (t := empty) h

/-- Entries under the names of a table. -/
theorem entries_ofList_map (t : NameTable α) (f : String × α → β) :
    (ofList (t.entries.map fun e => (e.1, f e))).entries = t.entries.map fun e => (e.1, f e) := by
  refine entries_ofList ?_
  rw [List.map_map]
  exact t.distinct

theorem lookup_of_mem {es : List (String × α)} (h : (es.map Prod.fst).Nodup) {e : String × α}
    (he : e ∈ es) : es.lookup e.1 = some e.2 := by
  induction es with
  | nil => exact absurd he List.not_mem_nil
  | cons b es ih =>
    rw [List.map_cons, List.nodup_cons] at h
    rw [List.lookup_cons]
    rcases List.mem_cons.mp he with rfl | he
    · rw [beq_self_eq_true]
    · have hne : (e.1 == b.1) = false := by
        rw [beq_eq_false_iff_ne]
        intro hb
        exact h.1 (hb ▸ List.mem_map_of_mem he)
      rw [hne]
      exact ih h.2 he

theorem mem_of_lookup {es : List (String × α)} {name : String} {a : α}
    (h : es.lookup name = some a) : (name, a) ∈ es := by
  induction es with
  | nil => exact nomatch h
  | cons b es ih =>
    rw [List.lookup_cons] at h
    by_cases hb : name = b.1
    · subst hb
      rw [beq_self_eq_true] at h
      obtain rfl := Option.some.inj h
      exact List.mem_cons_self
    · rw [beq_eq_false_iff_ne.mpr hb] at h
      exact List.mem_cons_of_mem _ (ih h)

theorem get?_eq_some_iff {name : String} {a : α} :
    t.get? name = some a ↔ (name, a) ∈ t.entries :=
  ⟨mem_of_lookup, fun h => lookup_of_mem t.distinct h⟩

theorem mem_names_iff {name : String} : name ∈ t.names ↔ ∃ a, t.get? name = some a := by
  simp only [get?_eq_some_iff]
  constructor
  · intro h
    obtain ⟨e, he, rfl⟩ := List.mem_map.mp h
    exact ⟨e.2, he⟩
  · rintro ⟨a, ha⟩
    exact List.mem_map_of_mem ha

theorem names_ofList_map (t : NameTable α) (f : String × α → β) :
    (ofList (t.entries.map fun e => (e.1, f e))).names = t.names := by
  unfold names
  rw [entries_ofList_map, List.map_map]
  rfl

theorem get?_ofList_map (t : NameTable α) (f : String × α → β) (name : String) :
    (ofList (t.entries.map fun e => (e.1, f e))).get? name =
      (t.get? name).map fun a => f (name, a) := by
  cases h : t.get? name with
  | some a =>
    show _ = some (f (name, a))
    rw [get?_eq_some_iff, entries_ofList_map]
    exact List.mem_map_of_mem (get?_eq_some_iff.mp h)
  | none =>
    show _ = none
    rw [Option.eq_none_iff_forall_ne_some]
    intro b hb
    rw [get?_eq_some_iff, entries_ofList_map] at hb
    obtain ⟨e, he, heq⟩ := List.mem_map.mp hb
    obtain ⟨rfl, -⟩ := Prod.mk.inj heq
    rw [get?_eq_some_iff.mpr he] at h
    exact nomatch h

/-- A first hit that only the entry of one name can be. -/
theorem findSome?_entries (t : NameTable α) (name : String) (f : α → Option β) :
    (t.entries.findSome? fun e => if name = e.1 then f e.2 else none) = (t.get? name).bind f := by
  unfold get?
  obtain ⟨es, hd⟩ := t
  dsimp only
  induction es with
  | nil => rfl
  | cons e es ih =>
    rw [List.map_cons, List.nodup_cons] at hd
    rw [List.findSome?_cons, List.lookup_cons]
    by_cases hn : name = e.1
    · subst hn
      rw [if_pos rfl, beq_self_eq_true]
      have hrest : (es.findSome? fun e' => if e.1 = e'.1 then f e'.2 else none) = none := by
        rw [List.findSome?_eq_none_iff]
        intro e' he'
        exact if_neg fun he : e.1 = e'.1 => hd.1 (he ▸ List.mem_map_of_mem he')
      cases hf : f e.2 with
      | none => exact hrest.trans hf.symm
      | some b => exact hf.symm
    · rw [if_neg hn, beq_eq_false_iff_ne.mpr hn]
      exact ih hd.2

theorem findSome?_congr {l : List α} {f g : α → Option β} (h : ∀ x ∈ l, f x = g x) :
    l.findSome? f = l.findSome? g := by
  induction l with
  | nil => rfl
  | cons x l ih =>
    rw [List.findSome?_cons, List.findSome?_cons, h x List.mem_cons_self,
      ih fun y hy => h y (List.mem_cons_of_mem x hy)]

/-- A first hit among entries, looked up under their names. -/
theorem findSome?_names (t : NameTable α) (f : String → α → Option β) :
    (t.entries.findSome? fun e => f e.1 e.2) =
      t.names.findSome? fun n => (t.get? n).bind (f n) := by
  unfold names
  rw [List.findSome?_map]
  refine findSome?_congr fun e he => ?_
  rw [Function.comp_apply, get?_eq_some_iff.mpr he]
  rfl

end GraphTemplate.NameTable
