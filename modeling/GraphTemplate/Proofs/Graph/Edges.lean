import GraphTemplate.Proofs.Graph.Rows
import Mathlib.Data.List.Nodup

/-! Edges of a row under the rows of their subjects: what is read under a subject after an edge is
appended or dropped or the subject removed, and the triplets of a graph as the edges between its
rows. -/
namespace GraphTemplate.Graph

variable {g : Graph} {cs : List (Nat × List EdgeId)}

def edgesUnder (s : Nat) (cs : List (Nat × List EdgeId)) : List EdgeId := (cs.lookup s).getD []

theorem edgesUnder_cons (s : Nat) (c : Nat × List EdgeId) (cs : List (Nat × List EdgeId)) :
    edgesUnder s (c :: cs) = if s = c.1 then c.2 else edgesUnder s cs := by
  unfold edgesUnder
  rw [List.lookup_cons]
  by_cases h : s = c.1
  · rw [if_pos h, beq_iff_eq.mpr h]
    rfl
  · rw [if_neg h, beq_eq_false_iff_ne.mpr h]

theorem edgesUnder_eq_nil {s : Nat} (h : s ∉ cs.map Prod.fst) : edgesUnder s cs = [] := by
  induction cs with
  | nil => rfl
  | cons c cs ih =>
    rw [List.map_cons, List.mem_cons, not_or] at h
    rw [edgesUnder_cons, if_neg h.1]
    exact ih h.2

theorem edgesUnder_of_mem (hd : (cs.map Prod.fst).Nodup) {c : Nat × List EdgeId} (hc : c ∈ cs) :
    edgesUnder c.1 cs = c.2 := by
  induction cs with
  | nil => exact absurd hc List.not_mem_nil
  | cons b cs ih =>
    rw [List.map_cons, List.nodup_cons] at hd
    rw [edgesUnder_cons]
    rcases List.mem_cons.mp hc with rfl | hc
    · exact if_pos rfl
    · have hne : c.1 ≠ b.1 := fun he => hd.1 (he ▸ List.mem_map_of_mem hc)
      rw [if_neg hne]
      exact ih hd.2 hc

theorem exists_mem_of_mem_edgesUnder {s : Nat} {i : EdgeId} (h : i ∈ edgesUnder s cs) :
    ∃ c ∈ cs, c.1 = s ∧ i ∈ c.2 := by
  induction cs with
  | nil => exact absurd h List.not_mem_nil
  | cons c cs ih =>
    rw [edgesUnder_cons] at h
    by_cases hs : s = c.1
    · rw [if_pos hs] at h
      exact ⟨c, List.mem_cons_self, hs.symm, h⟩
    · rw [if_neg hs] at h
      obtain ⟨d, hd, he, hi⟩ := ih h
      exact ⟨d, List.mem_cons_of_mem _ hd, he, hi⟩

theorem edgesUnder_appendEdge (s s' : Nat) (i : EdgeId) (cs : List (Nat × List EdgeId)) :
    edgesUnder s' (appendEdge s i cs) =
      if s' = s then edgesUnder s cs ++ [i] else edgesUnder s' cs := by
  induction cs with
  | nil =>
    rw [appendEdge, edgesUnder_cons]
    rfl
  | cons c cs ih =>
    rw [appendEdge]
    by_cases hc : c.1 = s
    · rw [if_pos hc, edgesUnder_cons, edgesUnder_cons, edgesUnder_cons, hc, if_pos rfl]
      by_cases hs : s' = s
      · rw [if_pos hs, if_pos hs]
      · rw [if_neg hs, if_neg hs, if_neg hs]
    · rw [if_neg hc, edgesUnder_cons, edgesUnder_cons, edgesUnder_cons, ih, if_neg (Ne.symm hc)]
      by_cases hs : s' = s
      · subst hs
        rw [if_pos rfl, if_neg (Ne.symm hc), if_pos rfl]
      · rw [if_neg hs, if_neg hs]

theorem keys_appendEdge (s : Nat) (i : EdgeId) (cs : List (Nat × List EdgeId)) :
    (appendEdge s i cs).map Prod.fst =
      if s ∈ cs.map Prod.fst then cs.map Prod.fst else cs.map Prod.fst ++ [s] := by
  induction cs with
  | nil => rfl
  | cons c cs ih =>
    rw [appendEdge]
    by_cases hc : c.1 = s
    · subst hc
      simp
    · rw [if_neg hc, List.map_cons, ih, List.map_cons]
      by_cases hs : s ∈ cs.map Prod.fst
      · rw [if_pos hs, if_pos (List.mem_cons_of_mem _ hs)]
      · have hn : s ∉ c.1 :: cs.map Prod.fst := by
          rw [List.mem_cons, not_or]
          exact ⟨Ne.symm hc, hs⟩
        rw [if_neg hs, if_neg hn, List.cons_append]

theorem nodup_keys_appendEdge {s : Nat} {i : EdgeId} (hd : (cs.map Prod.fst).Nodup) :
    ((appendEdge s i cs).map Prod.fst).Nodup := by
  rw [keys_appendEdge]
  by_cases hs : s ∈ cs.map Prod.fst
  · rwa [if_pos hs]
  · rw [if_neg hs]
    refine List.nodup_append.mpr ⟨hd, List.nodup_singleton s, ?_⟩
    intro a ha b hb hab
    rw [List.mem_singleton] at hb
    exact hs (hb ▸ hab ▸ ha)

theorem keys_dropEdge_sublist (s p : Nat) (cs : List (Nat × List EdgeId)) :
    ((dropEdge s p cs).map Prod.fst).Sublist (cs.map Prod.fst) := by
  induction cs with
  | nil => exact List.Sublist.refl _
  | cons c cs ih =>
    rw [dropEdge]
    by_cases hc : c.1 = s
    · subst hc
      rw [if_pos rfl]
      by_cases he : (c.2.eraseIdx p).isEmpty = true
      · simp only [he, if_true]
        exact List.sublist_cons_self _ _
      · simp only [he]
        exact List.Sublist.refl _
    · rw [if_neg hc]
      exact ih.cons_cons _

theorem edgesUnder_dropEdge (hd : (cs.map Prod.fst).Nodup) (s s' p : Nat) :
    edgesUnder s' (dropEdge s p cs) =
      if s' = s then (edgesUnder s cs).eraseIdx p else edgesUnder s' cs := by
  induction cs with
  | nil => by_cases hs : s' = s <;> simp [dropEdge, edgesUnder, hs]
  | cons c cs ih =>
    rw [List.map_cons, List.nodup_cons] at hd
    rw [dropEdge]
    by_cases hc : c.1 = s
    · subst hc
      have hn : edgesUnder c.1 cs = [] := edgesUnder_eq_nil hd.1
      rw [if_pos rfl, edgesUnder_cons c.1, if_pos rfl, edgesUnder_cons s' c]
      by_cases he : (c.2.eraseIdx p).isEmpty = true
      · simp only [he, if_true]
        rw [List.isEmpty_iff] at he
        by_cases hs : s' = c.1
        · rw [if_pos hs, he, hs, hn]
        · rw [if_neg hs, if_neg hs]
      · rw [if_neg he, edgesUnder_cons]
        by_cases hs : s' = c.1
        · rw [if_pos hs, if_pos hs]
        · rw [if_neg hs, if_neg hs, if_neg hs]
    · rw [if_neg hc, edgesUnder_cons, edgesUnder_cons, edgesUnder_cons, ih hd.2,
        if_neg (Ne.symm hc)]
      by_cases hs : s' = s
      · subst hs
        rw [if_neg (Ne.symm hc), if_pos rfl, if_pos rfl]
      · rw [if_neg hs, if_neg hs]

theorem edgesUnder_remove (r s : Nat) (cs : List (Nat × List EdgeId)) :
    edgesUnder s (Entries.remove r cs) = if s = r then [] else edgesUnder s cs := by
  rw [edgesUnder, Entries.lookup_remove]
  by_cases hs : s = r
  · rw [if_pos hs, if_pos hs]
    rfl
  · rw [if_neg hs, if_neg hs]
    rfl

theorem edgesBetween_eq {r : Nat} {row : Row} (h : g.row? r = some row) (s : Nat) :
    g.edgesBetween r s = edgesUnder s row.children := by
  rw [edgesBetween, h]
  rfl

theorem edgesBetween_eq_nil {r : Nat} (h : g.row? r = none) (s : Nat) :
    g.edgesBetween r s = [] := by
  rw [edgesBetween, h]

theorem exists_row_of_mem_edgesBetween {r s : Nat} {i : EdgeId} (h : i ∈ g.edgesBetween r s) :
    ∃ row, g.row? r = some row := by
  cases hr : g.row? r with
  | none =>
    rw [edgesBetween_eq_nil hr] at h
    exact absurd h List.not_mem_nil
  | some row => exact ⟨row, rfl⟩

def Keyed (g : Graph) : Prop :=
  ∀ ⦃r row⦄, g.row? r = some row → (row.children.map Prod.fst).Nodup

theorem mem_tripletsOfRow {row : Row} (hd : (row.children.map Prod.fst).Nodup)
    {t : Triplet NodeId EdgeId} :
    t ∈ g.tripletsOfRow row ↔ t.main = row.node ∧ ∃ s subject, g.row? s = some subject ∧
      subject.node = t.subject ∧ t.edge ∈ edgesUnder s row.children := by
  rw [mem_tripletsOfRow_iff]
  refine and_congr_right fun _ => ?_
  constructor
  · rintro ⟨c, hc, subject, hs, hn, hi⟩
    exact ⟨c.1, subject, hs, hn, by rwa [edgesUnder_of_mem hd hc]⟩
  · rintro ⟨s, subject, hs, hn, hi⟩
    obtain ⟨c, hc, rfl, hi'⟩ := exists_mem_of_mem_edgesUnder hi
    exact ⟨c, hc, subject, hs, hn, hi'⟩

theorem mem_triplets (hk : g.Keyed) {t : Triplet NodeId EdgeId} :
    t ∈ g.triplets ↔ ∃ r row s subject, g.row? r = some row ∧ g.row? s = some subject ∧
      row.node = t.main ∧ subject.node = t.subject ∧ t.edge ∈ g.edgesBetween r s := by
  unfold triplets
  rw [List.mem_flatMap]
  constructor
  · rintro ⟨row, hr, ht⟩
    obtain ⟨r, hr⟩ := mem_liveRows.mp hr
    obtain ⟨hm, s, subject, hs, hn, hi⟩ := (mem_tripletsOfRow (hk hr)).mp ht
    exact ⟨r, row, s, subject, hr, hs, hm.symm, hn, by rwa [edgesBetween_eq hr]⟩
  · rintro ⟨r, row, s, subject, hr, hs, hm, hn, hi⟩
    rw [edgesBetween_eq hr] at hi
    exact ⟨row, mem_liveRows.mpr ⟨r, hr⟩,
      (mem_tripletsOfRow (hk hr)).mpr ⟨hm.symm, s, subject, hs, hn, hi⟩⟩

end GraphTemplate.Graph
