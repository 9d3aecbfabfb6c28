import GraphTemplate.Proofs.Graph.Soundness

/-! Graphs whose nodes and edges have not been edited since they were stored. Looking a node up in a
settled graph is reading the index, it changes nothing, and every change of such a graph comes to a
result that can be told from the index. -/
namespace GraphTemplate.Graph

variable {w : Contents} {g g' : Graph}

/-- A graph that has seen what its nodes hold, none of which nor of its parallel edges are alike. -/
structure Settled (w : Contents) (g : Graph) : Prop where
  sound : g.Sound
  fresh : ∀ ⦃r row⦄, g.row? r = some row → g.key? r = some (w.node row.node)
  hashable : ∀ ⦃r row⦄, g.row? r = some row → (w.node row.node).isHashable = true
  entered : ∀ ⦃r row⦄, g.row? r = some row → g.indexed? (w.node row.node) = some r
  edges : ∀ ⦃r s i⦄, i ∈ g.edgesBetween r s → (w.edge i).isHashable = true
  separate : ∀ ⦃r s i j⦄, i ∈ g.edgesBetween r s → j ∈ g.edgesBetween r s →
    (w.edge i).alike (w.edge j) = true → i = j

theorem settled_empty (w : Contents) : Settled w empty where
  sound := sound_empty
  fresh _ _ h := nomatch h
  hashable _ _ h := nomatch h
  entered _ _ h := nomatch h
  edges _ _ _ h := nomatch h
  separate _ _ _ _ h := nomatch h

theorem Settled.indexed?_iff (h : Settled w g) {c : Entity} {r : Nat} :
    g.indexed? c = some r ↔
      ∃ row, g.row? r = some row ∧ (w.node row.node).alike c = true := by
  constructor
  · intro hc
    obtain ⟨row, k, hr, hk, ha⟩ := h.sound.indexed.row_of_indexed? hc
    obtain rfl := Option.some.inj ((h.fresh hr).symm.trans hk)
    exact ⟨row, hr, ha⟩
  · rintro ⟨row, hr, ha⟩
    rw [← indexed?_congr ha]
    exact h.entered hr

theorem Settled.outcome_refresh (h : Settled w g) {r : Nat} {row : Row} (hr : g.row? r = some row) :
    outcome (refresh w r) g = (.ok (w.node row.node), g) := by
  rw [Graph.outcome_refresh hr (h.fresh hr), Entity.hashed_of_isHashable (h.hashable hr)]
  simp only [Entity.alike_refl, if_true]

theorem Settled.outcome_find (h : Settled w g) {n : NodeId} (hn : (w.node n).isHashable = true) :
    outcome (find w n) g = (.ok (g.indexed? (w.node n)), g) := by
  cases hrow : g.rowOf? n with
  | some r =>
    obtain ⟨row, hr, rfl⟩ := row_of_rowOf? hrow
    rw [outcome_find_stored h.sound.indexed hrow, outcome_bind_ok (h.outcome_refresh hr),
      outcome_pure,
      h.entered hr]
  | none =>
    cases hd : g.indexed? (w.node n) with
    | none => exact outcome_find_unindexed h.sound.indexed hrow hn hd
    | some r =>
      obtain ⟨row, hr, ha⟩ := h.indexed?_iff.mp hd
      rw [outcome_find_indexed h.sound.indexed hrow hn hd, outcome_bind_ok (h.outcome_refresh hr),
        outcome_pure,
        if_pos ha]

def partRow (w : Contents) (g : Graph) (p : Option NodeId) : Option Nat :=
  p.bind fun n => g.indexed? (w.node n)

theorem Settled.outcome_findPart (h : Settled w g) {p : Option NodeId}
    (hp : ∀ n ∈ p, (w.node n).isHashable = true) :
    outcome (findPart w p) g = (.ok (g.partRow w p), g) := by
  cases p with
  | none => rfl
  | some n => exact h.outcome_find (hp n rfl)

theorem positionOf_of_isHashable {c : Entity} {is : List EdgeId}
    (h : ∀ i ∈ is, (w.edge i).isHashable = true) :
    positionOf w c is = .ok (is.findIdx? fun i => (w.edge i).alike c) := by
  cases hp : positionOf w c is with
  | ok o => rw [positionOf_ok hp]
  | error f =>
    obtain ⟨i, hi, hf⟩ := positionOf_error hp
    rw [Entity.hashed_of_isHashable (h i hi)] at hf
    exact nomatch hf

theorem Settled.outcome_edgePosition (h : Settled w g) {i : EdgeId}
    (hi : (w.edge i).isHashable = true) {r : Nat} {row : Row} (hr : g.row? r = some row) (s : Nat) :
    outcome (edgePosition w r s i) g =
      (.ok ((g.edgesBetween r s).findIdx? fun j => (w.edge j).alike (w.edge i)), g) := by
  rw [Graph.outcome_edgePosition hr, Entity.hashed_of_isHashable hi]
  dsimp only
  rw [positionOf_of_isHashable fun j hj => h.edges hj]

theorem Settled.inserted (h : Settled w g) {n : NodeId} (hn : (w.node n).isHashable = true)
    (hd : g.indexed? (w.node n) = none) : Settled w (g.inserted n (w.node n)) := by
  have hout : n ∉ g.nodes := by
    intro hmem
    obtain ⟨r, row, hr, rfl⟩ := mem_nodes.mp hmem
    exact nomatch (h.entered hr).symm.trans hd
  refine ⟨h.sound.inserted hout _, ?_, ?_, ?_, ?_, ?_⟩
  · intro r row hr
    rcases row?_inserted_cases hr with ⟨rfl, rfl⟩ | hr
    · rw [key?_inserted, if_pos rfl]
    · exact key?_inserted_of_key? h.sound.indexed (h.fresh hr)
  · intro r row hr
    rcases row?_inserted_cases hr with ⟨-, rfl⟩ | hr
    · exact hn
    · exact h.hashable hr
  · intro r row hr
    rcases row?_inserted_cases hr with ⟨rfl, rfl⟩ | hr
    · exact indexed?_inserted_self g n _
    · have hne : ¬(w.node n).alike (w.node row.node) = true := by
        intro ha
        rw [indexed?_congr ha, h.entered hr] at hd
        exact nomatch hd
      rw [indexed?_inserted, if_neg hne]
      exact h.entered hr
  · intro r s i hi
    rw [edgesBetween_inserted] at hi
    exact h.edges hi
  · intro r s i j hi hj
    rw [edgesBetween_inserted] at hi hj
    exact h.separate hi hj

theorem Settled.dropRow (h : Settled w g) {r : Nat} {row : Row} (hr : g.row? r = some row) :
    Settled w (g.dropRow r) := by
  refine ⟨h.sound.dropRow hr, ?_, ?_, ?_, ?_, ?_⟩
  · intro s row' hs
    obtain ⟨hne, old, hold, rfl⟩ := row?_of_row?_dropRow hr hs
    have hkey := h.fresh hold
    rw [key?_dropRow, if_neg hne]
    exact hkey
  · intro s row' hs
    obtain ⟨-, old, hold, rfl⟩ := row?_of_row?_dropRow hr hs
    have hh := h.hashable hold
    exact hh
  · intro s row' hs
    obtain ⟨hne, old, hold, rfl⟩ := row?_of_row?_dropRow hr hs
    have he := h.entered hold
    rw [indexed?_dropRow (h.fresh hr), if_neg]
    · exact he
    · rintro ⟨ha, hd⟩
      rw [indexed?_congr ha] at hd
      exact hne (Option.some.inj (he.symm.trans hd))
  · intro a b i hi
    rw [edgesBetween_dropRow hr] at hi
    by_cases hab : a = r ∨ b = r
    · rw [if_pos hab] at hi
      exact absurd hi List.not_mem_nil
    · rw [if_neg hab] at hi
      exact h.edges hi
  · intro a b i j hi hj
    rw [edgesBetween_dropRow hr] at hi hj
    by_cases hab : a = r ∨ b = r
    · rw [if_pos hab] at hi
      exact absurd hi List.not_mem_nil
    · rw [if_neg hab] at hi hj
      exact h.separate hi hj

section
variable {r : Nat} {row : Row} {change : List (Nat × List EdgeId) → List (Nat × List EdgeId)}

theorem Settled.changeChildren (h : Settled w g) (hr : g.row? r = some row)
    (hs : (g.changeChildren r change).Sound)
    (he : ∀ ⦃s i⦄, i ∈ edgesUnder s (change row.children) → (w.edge i).isHashable = true)
    (hsep : ∀ ⦃s i j⦄, i ∈ edgesUnder s (change row.children) →
      j ∈ edgesUnder s (change row.children) → (w.edge i).alike (w.edge j) = true → i = j) :
    Settled w (g.changeChildren r change) := by
  refine ⟨hs, ?_, ?_, ?_, ?_, ?_⟩
  · intro s row' hs
    obtain ⟨old, hold, hn, -⟩ := row?_of_row?_changeChildren hr hs
    rw [key?_changeChildren, hn]
    exact h.fresh hold
  · intro s row' hs
    obtain ⟨old, hold, hn, -⟩ := row?_of_row?_changeChildren hr hs
    rw [hn]
    exact h.hashable hold
  · intro s row' hs
    obtain ⟨old, hold, hn, -⟩ := row?_of_row?_changeChildren hr hs
    rw [hn, indexed?_changeChildren hr]
    exact h.entered hold
  · intro a b i hi
    rw [edgesBetween_changeChildren hr] at hi
    by_cases ha : a = r
    · rw [if_pos ha] at hi
      exact he hi
    · rw [if_neg ha] at hi
      exact h.edges hi
  · intro a b i j hi hj
    rw [edgesBetween_changeChildren hr] at hi hj
    by_cases ha : a = r
    · rw [if_pos ha] at hi hj
      exact hsep hi hj
    · rw [if_neg ha] at hi hj
      exact h.separate hi hj

end

theorem Settled.appended (h : Settled w g) {r s : Nat} {row row' : Row} {i : EdgeId}
    (hr : g.row? r = some row) (hs : g.row? s = some row') (hi : (w.edge i).isHashable = true)
    (hn : ∀ j ∈ g.edgesBetween r s, ¬(w.edge j).alike (w.edge i) = true) :
    Settled w (g.changeChildren r (appendEdge s i)) := by
  have hu (t : Nat) {j : EdgeId} (hj : j ∈ edgesUnder t (appendEdge s i row.children)) :
      j ∈ g.edgesBetween r t ∨ t = s ∧ j = i := by
    rw [edgesUnder_appendEdge] at hj
    rw [edgesBetween_eq hr]
    by_cases ht : t = s
    · rw [if_pos ht, List.mem_append, List.mem_singleton] at hj
      rcases hj with hj | rfl
      · exact Or.inl (ht ▸ hj)
      · exact Or.inr ⟨ht, rfl⟩
    · rw [if_neg ht] at hj
      exact Or.inl hj
  have hout : i ∉ g.edgesBetween r s := fun hmem => hn i hmem (Entity.alike_refl _)
  refine h.changeChildren hr (h.sound.appended hr hs hout) ?_ ?_
  · intro t j hj
    rcases hu t hj with hj | ⟨-, rfl⟩
    · exact h.edges hj
    · exact hi
  · intro t j k hj hk ha
    rcases hu t hj with hj' | ⟨ht, rfl⟩ <;> rcases hu t hk with hk' | ⟨ht', rfl⟩
    · exact h.separate hj' hk' ha
    · exact absurd ha (hn j (ht' ▸ hj'))
    · exact absurd (Entity.alike_symm ha) (hn k (ht ▸ hk'))
    · rfl

theorem Settled.dropped (h : Settled w g) {r : Nat} {row : Row} (hr : g.row? r = some row)
    (s p : Nat) : Settled w (g.changeChildren r (dropEdge s p)) := by
  have hu (t : Nat) {j : EdgeId} (hj : j ∈ edgesUnder t (dropEdge s p row.children)) :
      j ∈ g.edgesBetween r t := by
    rw [edgesUnder_dropEdge (h.sound.linked.keyed hr)] at hj
    rw [edgesBetween_eq hr]
    by_cases ht : t = s
    · rw [if_pos ht] at hj
      rw [ht]
      exact List.mem_of_mem_eraseIdx hj
    · rw [if_neg ht] at hj
      exact hj
  refine h.changeChildren hr (h.sound.dropped hr s p) ?_ ?_
  · exact fun t j hj => h.edges (hu t hj)
  · exact fun t j k hj hk => h.separate (hu t hj) (hu t hk)

end GraphTemplate.Graph
