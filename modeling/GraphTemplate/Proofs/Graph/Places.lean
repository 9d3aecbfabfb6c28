import GraphTemplate.Proofs.Graph.Atomicity
import GraphTemplate.Proofs.Graph.Listings
import GraphTemplate.Proofs.Graph.Settled

/-! Nodes that are looked up more than once. A node that has been found is found in the same row
once more, whatever is inserted in between, unless the lookup of another node meets a row that has
been edited to the same content: the index keeps one row for a content. -/
namespace GraphTemplate.Graph

variable {w : Contents} {g g' : Graph} {n k : NodeId} {r s : Nat} {row : Row}

structure Seen (w : Contents) (g : Graph) (r : Nat) (row : Row) : Prop where
  hashable : (w.node row.node).isHashable = true
  fresh : ∃ c, g.key? r = some c ∧ (w.node row.node).alike c = true

/-- A lookup of the node comes to the row and leaves the graph as it is. -/
structure Found (w : Contents) (g : Graph) (n : NodeId) (r : Nat) : Prop where
  hashable : (w.node n).isHashable = true
  row : ∃ row, g.row? r = some row ∧ Seen w g r row ∧ (row.node = n ∨
    n ∉ g.nodes ∧ g.indexed? (w.node n) = some r ∧ (w.node row.node).alike (w.node n) = true)

structure Missing (w : Contents) (g : Graph) (n : NodeId) : Prop where
  hashable : (w.node n).isHashable = true
  outside : n ∉ g.nodes
  unindexed : g.indexed? (w.node n) = none

theorem rowOf?_of_row? (hg : g.Linked) (hr : g.row? r = some row) :
    g.rowOf? row.node = some r := by
  cases hs : g.rowOf? row.node with
  | none => exact absurd (mem_nodes.mpr ⟨r, row, hr, rfl⟩) (rowOf?_eq_none_iff.mp hs)
  | some s =>
    obtain ⟨row', hrow', he⟩ := row_of_rowOf? hs
    rw [hg.distinct hrow' hr he]

theorem Seen.outcome_refresh (h : Seen w g r row) (hr : g.row? r = some row) :
    outcome (refresh w r) g = (.ok (w.node row.node), g) := by
  obtain ⟨c, hk, ha⟩ := h.fresh
  rw [Graph.outcome_refresh hr hk, Entity.hashed_of_isHashable h.hashable]
  simp only [ha, if_true]

theorem Found.outcome_find (h : Found w g n r) (hg : g.Sound) :
    outcome (find w n) g = (.ok (some r), g) := by
  obtain ⟨row, hr, hseen, hrow⟩ := h.row
  have hrefresh := hseen.outcome_refresh hr
  rcases hrow with rfl | ⟨hn, hd, ha⟩
  · rw [outcome_find_stored hg.indexed (rowOf?_of_row? hg.linked hr), outcome_bind_ok hrefresh,
      outcome_pure]
  · rw [outcome_find_indexed hg.indexed (rowOf?_eq_none_iff.mpr hn) h.hashable hd,
      outcome_bind_ok hrefresh, outcome_pure, if_pos ha]

theorem Missing.outcome_find (h : Missing w g n) (hi : g.Indexed) :
    outcome (find w n) g = (.ok none, g) :=
  outcome_find_unindexed hi (rowOf?_eq_none_iff.mpr h.outside) h.hashable h.unindexed

theorem missing_of_find (hg : g.Indexed) (h : outcome (find w n) g = (.ok none, g')) :
    Missing w g' n := by
  obtain ⟨-, hf, ⟨f, he, -⟩ | ⟨r, row, he, -⟩ | ⟨-, hn, hd⟩⟩ := find_cases hg h
  · exact nomatch he
  · exact nomatch Except.ok.inj he
  · exact ⟨isHashable_of_missing hg h, by rwa [nodes_of_rows hf], hd⟩

theorem seen_of_refresh {c : Entity} (hi : g.Indexed) (hr : g.row? r = some row)
    (h : outcome (refresh w r) g = (.ok c, g')) :
    c = w.node row.node ∧ g'.row? r = some row ∧ Seen w g' r row ∧
      ∀ d, c.alike d = true → g.indexed? d = some r → g'.indexed? d = some r := by
  obtain ⟨old, hk, hx, hcases⟩ := refresh_inv hi hr h
  obtain ⟨hh, hc⟩ := Entity.hashed_eq_ok_iff.mp hx.symm
  subst hc
  refine ⟨rfl, ?_⟩
  rcases hcases with ⟨⟨f, hf⟩, -⟩ | ⟨-, ha, rfl⟩ | ⟨-, -, rfl⟩
  · exact nomatch hf
  · exact ⟨hr, ⟨hh, old, hk, ha⟩, fun _ _ hd => hd⟩
  · have hkey := (key?_rekeyed g r old (w.node row.node) r).trans (if_pos rfl)
    refine ⟨hr, ⟨hh, _, hkey, Entity.alike_refl _⟩, ?_⟩
    intro d hd _
    rw [indexed?_rekeyed, if_pos hd]

theorem found_of_find (hg : g.Indexed) (h : outcome (find w n) g = (.ok (some r), g')) :
    Found w g' n r := by
  obtain ⟨-, hf, -⟩ := find_cases hg h
  cases hs : g.rowOf? n with
  | some s =>
    rw [outcome_find_stored hg hs] at h
    obtain ⟨row, hrow, rfl⟩ := row_of_rowOf? hs
    obtain ⟨c, g₁, hc, h⟩ := exists_of_outcome_bind h
    obtain ⟨he, rfl⟩ := Prod.mk.inj ((outcome_pure _ _).symm.trans h)
    obtain rfl := Option.some.inj (Except.ok.inj he)
    obtain ⟨-, hr', hseen, -⟩ := seen_of_refresh hg hrow hc
    exact ⟨hseen.hashable, row, hr', hseen, Or.inl rfl⟩
  | none =>
    have hh := isHashable_of_unstored hg hs h
    cases hd : g.indexed? (w.node n) with
    | none =>
      rw [outcome_find_unindexed hg hs hh hd] at h
      exact nomatch Except.ok.inj (Prod.mk.inj h).1
    | some s =>
      rw [outcome_find_indexed hg hs hh hd] at h
      obtain ⟨row, -, hrow, -⟩ := hg.row_of_indexed? hd
      obtain ⟨c, g₂, hc, h⟩ := exists_of_outcome_bind h
      obtain ⟨he, rfl⟩ := Prod.mk.inj ((outcome_pure _ _).symm.trans h)
      obtain ⟨rfl, hr', hseen, hkeep⟩ := seen_of_refresh hg hrow hc
      by_cases ha : (w.node row.node).alike (w.node n) = true
      · rw [if_pos ha] at he
        obtain rfl := Option.some.inj (Except.ok.inj he)
        refine ⟨hh, row, hr', hseen, Or.inr ⟨?_, hkeep _ ha hd, ha⟩⟩
        rw [nodes_of_rows hf]
        exact rowOf?_eq_none_iff.mp hs
      · rw [if_neg ha] at he
        exact nomatch Except.ok.inj he

def Rekeyed (w : Contents) (g g' : Graph) : Prop :=
  g' = g ∨ ∃ r row old, g.row? r = some row ∧ g.key? r = some old ∧
    ¬(w.node row.node).alike old = true ∧ g' = g.rekeyed r old (w.node row.node)

theorem refresh_changes {x : Except Fault Entity} (hi : g.Indexed) (hr : g.row? r = some row)
    (h : outcome (refresh w r) g = (x, g')) : Rekeyed w g g' := by
  obtain ⟨old, hk, -, ⟨-, rfl⟩ | ⟨-, -, rfl⟩ | ⟨-, ha, rfl⟩⟩ := refresh_inv hi hr h
  · exact Or.inl rfl
  · exact Or.inl rfl
  · exact Or.inr ⟨r, row, old, hr, hk, ha, rfl⟩

/-- A lookup changes at most what one row was last seen with. -/
theorem find_changes {x : Except Fault (Option Nat)} (hi : g.Indexed)
    (h : outcome (find w n) g = (x, g')) : Rekeyed w g g' := by
  have hrefresh {r : Nat} {row : Row} {y : Entity → Option Nat} (hr : g.row? r = some row)
      (h : outcome (do return y (← refresh w r)) g = (x, g')) : Rekeyed w g g' := by
    rcases outcome_bind_cases h with ⟨f, hf, -⟩ | ⟨c, g₁, hc, h⟩
    · exact refresh_changes hi hr hf
    · obtain ⟨-, rfl⟩ := Prod.mk.inj h
      exact refresh_changes hi hr hc
  cases hs : g.rowOf? n with
  | some s =>
    obtain ⟨row, hrow, -⟩ := row_of_rowOf? hs
    rw [outcome_find_stored hi hs] at h
    exact hrefresh hrow h
  | none =>
    cases hc : (w.node n).hashed with
    | error f =>
      rw [outcome_find_unhashable hi hs hc] at h
      exact Or.inl (Prod.mk.inj h).2.symm
    | ok c =>
      obtain ⟨hh, rfl⟩ := Entity.hashed_eq_ok_iff.mp hc
      cases hd : g.indexed? (w.node n) with
      | none =>
        rw [outcome_find_unindexed hi hs hh hd] at h
        exact Or.inl (Prod.mk.inj h).2.symm
      | some s =>
        obtain ⟨row, -, hrow, -⟩ := hi.row_of_indexed? hd
        rw [outcome_find_indexed hi hs hh hd] at h
        exact hrefresh hrow h

def Sole (w : Contents) (g : Graph) (n : NodeId) : Prop :=
  n ∈ g.nodes ∨ ∀ a ∈ g.nodes, ∀ b ∈ g.nodes, (w.node a).alike (w.node n) = true →
    (w.node b).alike (w.node n) = true → a = b

theorem Sole.of_rows (h : Sole w g n) (hf : g'.rows = g.rows) : Sole w g' n := by
  rw [Sole, nodes_of_rows hf]
  exact h

/-- The index would have another row for the content of a node only if that row held it too. -/
theorem Found.find {x : Except Fault (Option Nat)} (h : Found w g n r) (hg : g.Sound)
    (hs : Sole w g n) (hf : outcome (find w k) g = (x, g')) : Found w g' n r := by
  rcases find_changes hg.indexed hf with rfl | ⟨s, other, old, hother, hold, hstale, rfl⟩
  · exact h
  obtain ⟨row, hr, hseen, hrow⟩ := h.row
  obtain ⟨c, hc, ha⟩ := hseen.fresh
  have hne : r ≠ s := by
    rintro rfl
    obtain rfl := Option.some.inj (hr.symm.trans hother)
    obtain rfl := Option.some.inj (hc.symm.trans hold)
    exact hstale ha
  have hseen' : Seen w (g.rekeyed s old (w.node other.node)) r row :=
    ⟨hseen.hashable, c, by rw [key?_rekeyed, if_neg hne, hc], ha⟩
  refine ⟨h.hashable, row, hr, hseen', hrow.imp_right ?_⟩
  rintro ⟨hn, hd, ha⟩
  refine ⟨hn, ?_, ha⟩
  have hapart : ¬(w.node other.node).alike (w.node n) = true := by
    intro hoa
    rcases hs with hs | hs
    · exact hn hs
    · refine hne (hg.linked.distinct hr hother (hs _ ?_ _ ?_ ha hoa))
      · exact mem_nodes.mpr ⟨r, row, hr, rfl⟩
      · exact mem_nodes.mpr ⟨s, other, hother, rfl⟩
  have hkept : ¬(old.alike (w.node n) = true ∧ g.indexed? old = some s) := by
    rintro ⟨hoc, hos⟩
    rw [indexed?_congr hoc, hd] at hos
    exact hne (Option.some.inj hos)
  rw [indexed?_rekeyed, if_neg hapart, if_neg hkept, hd]

theorem Found.inserted (h : Found w g n r) (hi : g.Indexed)
    (hk : n ∉ g.nodes → ¬(w.node k).alike (w.node n) = true) :
    Found w (g.inserted k (w.node k)) n r := by
  obtain ⟨row, hr, hseen, hrow⟩ := h.row
  obtain ⟨c, hc, ha⟩ := hseen.fresh
  refine ⟨h.hashable, row, row?_inserted_of_row? hr,
    ⟨hseen.hashable, c, key?_inserted_of_key? hi hc, ha⟩, hrow.imp_right ?_⟩
  rintro ⟨hn, hd, ha⟩
  refine ⟨?_, ?_, ha⟩
  · rw [nodes_inserted, List.mem_append, List.mem_singleton, not_or]
    refine ⟨hn, ?_⟩
    rintro rfl
    exact hk hn (Entity.alike_refl _)
  · rw [indexed?_inserted, if_neg (hk hn)]
    exact hd

theorem Found.changeChildren {change : List (Nat × List EdgeId) → List (Nat × List EdgeId)}
    (h : Found w g n r) (hs : g.row? s = some row) : Found w (g.changeChildren s change) n r := by
  obtain ⟨old, hr, hseen, hrow⟩ := h.row
  obtain ⟨new, hnew, hn⟩ := exists_row?_changeChildren change hs hr
  refine ⟨h.hashable, new, hnew, ⟨hn ▸ hseen.hashable, ?_⟩, ?_⟩
  · rw [key?_changeChildren, hn]
    exact hseen.fresh
  · rwa [hn, nodes_changeChildren hs, indexed?_changeChildren hs]

theorem seen_inserted (hh : (w.node n).isHashable = true) :
    Seen w (g.inserted n (w.node n)) g.rows.length ⟨n, []⟩ :=
  ⟨hh, w.node n, by rw [key?_inserted, if_pos rfl], Entity.alike_refl _⟩

theorem found_inserted (hh : (w.node n).isHashable = true) :
    Found w (g.inserted n (w.node n)) n g.rows.length :=
  ⟨hh, _, row?_inserted_self g n _, seen_inserted hh, Or.inl rfl⟩

/-- A node with the content of one that has just been inserted is found in its row. -/
theorem Missing.found_inserted (h : Missing w g n) (hk : (w.node k).isHashable = true)
    (ha : (w.node k).alike (w.node n) = true) :
    Found w (g.inserted k (w.node k)) n g.rows.length := by
  refine ⟨h.hashable, _, row?_inserted_self g k _, seen_inserted hk, ?_⟩
  by_cases hkn : k = n
  · exact Or.inl hkn
  · refine Or.inr ⟨?_, ?_, ha⟩
    · rw [nodes_inserted, List.mem_append, List.mem_singleton, not_or]
      exact ⟨h.outside, Ne.symm hkn⟩
    · rw [indexed?_inserted, if_pos ha]

theorem Missing.inserted (h : Missing w g n) (ha : ¬(w.node k).alike (w.node n) = true) :
    Missing w (g.inserted k (w.node k)) n := by
  refine ⟨h.hashable, ?_, ?_⟩
  · rw [nodes_inserted, List.mem_append, List.mem_singleton, not_or]
    refine ⟨h.outside, ?_⟩
    rintro rfl
    exact ha (Entity.alike_refl _)
  · rw [indexed?_inserted, if_neg ha]
    exact h.unindexed

/-- What is found differs in content from what is missing, unless it is stored itself. -/
theorem Missing.apart_of_find (h : Missing w g n) (hg : g.Indexed) (hk : k ∉ g.nodes)
    (hf : outcome (find w k) g = (.ok (some r), g')) : ¬(w.node n).alike (w.node k) = true := by
  intro ha
  obtain ⟨-, -, ⟨f, he, -⟩ | ⟨s, row, -, hr, rfl | ⟨-, hd, -⟩⟩ | ⟨he, -⟩⟩ := find_cases hg hf
  · exact nomatch he
  · exact hk (mem_nodes.mpr ⟨s, row, hr, rfl⟩)
  · rw [← indexed?_congr ha, h.unindexed] at hd
    exact nomatch hd
  · exact nomatch Except.ok.inj he

theorem outcome_ensureSubject_missing (h : Missing w g n) (hi : g.Indexed) :
    outcome (ensureSubject w none (some n)) g =
      (.ok (some g.rows.length), g.inserted n (w.node n)) := by
  unfold ensureSubject
  rw [outcome_bind_ok (h.outcome_find hi)]
  dsimp only
  rw [outcome_bind_ok (insertRow_ok h.hashable), outcome_pure]

theorem outcome_ensureSubject_found (h : Found w g n s) (hg : g.Sound) :
    outcome (ensureSubject w none (some n)) g = (.ok (some s), g) := by
  unfold ensureSubject
  rw [outcome_bind_ok (h.outcome_find hg), outcome_pure]

end GraphTemplate.Graph
