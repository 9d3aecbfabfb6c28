import GraphTemplate.Graph
import GraphTemplate.Fault
import GraphTemplate.Proofs.Value.Equivalence
import Mathlib.Data.List.Basic

/-! Rows of a graph, read and written. What the nodes and triplets of a graph are depends on its
rows alone, not on the index nor on the contents that the rows were last seen with. -/
namespace GraphTemplate.Graph

variable {g g' : Graph} {α β : Type}

/-- What an action comes to from a graph, and the graph it leaves. -/
def outcome (m : Action α) (g : Graph) : Except Fault α × Graph := m.run.run g

theorem outcome_pure (a : α) (g : Graph) : outcome (pure a) g = (.ok a, g) := rfl
theorem outcome_get (g : Graph) : outcome get g = (.ok g, g) := rfl
theorem outcome_modify (f : Graph → Graph) (g : Graph) : outcome (modify f) g = (.ok (), f g) := rfl
theorem outcome_hashed (e : Entity) (g : Graph) : outcome (hashed e) g = (e.hashed, g) := rfl
theorem outcome_bind (m : Action α) (k : α → Action β) (g : Graph) :
    outcome (m >>= k) g = match outcome m g with
      | (.ok a, g') => outcome (k a) g'
      | (.error f, g') => (.error f, g') := by
  unfold outcome
  rw [run_bind]
  rcases m.run.run g with ⟨f | a, g'⟩ <;> rfl

theorem outcome_bind_ok {m : Action α} {k : α → Action β} {a : α}
    (h : outcome m g = (.ok a, g')) : outcome (m >>= k) g = outcome (k a) g' := by
  rw [outcome_bind, h]

theorem outcome_bind_error {m : Action α} {k : α → Action β} {f : Fault}
    (h : outcome m g = (.error f, g')) : outcome (m >>= k) g = (.error f, g') := by
  rw [outcome_bind, h]

theorem outcome_bind_cases {m : Action α} {k : α → Action β} {x : Except Fault β}
    (h : outcome (m >>= k) g = (x, g')) :
    (∃ f, outcome m g = (.error f, g') ∧ x = .error f) ∨
      ∃ a g₁, outcome m g = (.ok a, g₁) ∧ outcome (k a) g₁ = (x, g') := by
  rcases hm : outcome m g with ⟨f | a, g₁⟩
  · rw [outcome_bind_error hm] at h
    obtain ⟨rfl, rfl⟩ := Prod.mk.inj h
    exact Or.inl ⟨f, rfl, rfl⟩
  · rw [outcome_bind_ok hm] at h
    exact Or.inr ⟨a, g₁, rfl, h⟩

theorem exists_of_outcome_bind {m : Action α} {k : α → Action β} {b : β}
    (h : outcome (m >>= k) g = (.ok b, g')) :
    ∃ a g₁, outcome m g = (.ok a, g₁) ∧ outcome (k a) g₁ = (.ok b, g') := by
  rcases outcome_bind_cases h with ⟨f, -, hf⟩ | ha
  · exact nomatch hf
  · exact ha

theorem outcome_bind_snd (m : Action α) (k : α → β) (g : Graph) :
    (outcome (do return k (← m)) g).2 = (outcome m g).2 := by
  rcases hm : outcome m g with ⟨f | a, g'⟩
  · rw [outcome_bind_error hm]
  · rw [outcome_bind_ok hm, outcome_pure]

theorem row?_eq_some_iff {r : Nat} {row : Row} :
    g.row? r = some row ↔ g.rows[r]? = some (some row) := by
  simp [row?, Option.join_eq_some_iff]

theorem outcome_rowAt {r : Nat} {row : Row} (h : g.row? r = some row) :
    outcome (rowAt r) g = (.ok row, g) := by
  unfold rowAt
  rw [outcome_bind_ok (outcome_get g), h]
  rfl

theorem outcome_keyAt {r : Nat} {c : Entity} (h : g.key? r = some c) :
    outcome (keyAt r) g = (.ok c, g) := by
  unfold keyAt
  rw [outcome_bind_ok (outcome_get g), h]
  rfl

theorem row?_lt {r : Nat} {row : Row} (h : g.row? r = some row) : r < g.rows.length :=
  (List.getElem?_eq_some_iff.mp (row?_eq_some_iff.mp h)).1

theorem row?_of_rows (h : g'.rows = g.rows) (r : Nat) : g'.row? r = g.row? r := by
  rw [row?, row?, h]

theorem row?_set {rows : List (Option Row)} {r r' : Nat} {x : Option Row} (h : r < rows.length)
    (hg : g.rows = rows) (hg' : g'.rows = rows.set r x) :
    g'.row? r' = if r' = r then x else g.row? r' := by
  rw [row?, row?, hg', hg]
  by_cases he : r' = r
  · subst he
    simp [h]
  · simp [he, List.getElem?_set_ne (Ne.symm he)]

theorem mem_liveRows {row : Row} : row ∈ g.liveRows ↔ ∃ r, g.row? r = some row := by
  simp only [liveRows, List.mem_filterMap, id, exists_eq_right]
  rw [List.mem_iff_getElem?]
  simp only [row?_eq_some_iff]

theorem liveRows_eq (g : Graph) : g.liveRows = (List.range g.rows.length).filterMap g.row? := by
  have hrows : g.rows = (List.range g.rows.length).map g.row? := by
    refine List.ext_getElem (by simp) fun r hr hr' => ?_
    simp [row?, hr]
  rw [liveRows]
  conv_lhs => rw [hrows]
  rw [List.filterMap_map]
  rfl

theorem mem_nodes {n : NodeId} : n ∈ g.nodes ↔ ∃ r row, g.row? r = some row ∧ row.node = n := by
  simp only [nodes, List.mem_map, mem_liveRows]
  constructor
  · rintro ⟨row, ⟨r, hr⟩, hn⟩
    exact ⟨r, row, hr, hn⟩
  · rintro ⟨r, row, hr, hn⟩
    exact ⟨row, ⟨r, hr⟩, hn⟩

def rowOf? (g : Graph) (n : NodeId) : Option Nat :=
  g.rows.findIdx? fun row => row.any (·.node == n)

theorem row_of_rowOf? {n : NodeId} {r : Nat} (h : g.rowOf? n = some r) :
    ∃ row, g.row? r = some row ∧ row.node = n := by
  obtain ⟨hlt, hx, -⟩ := List.findIdx?_eq_some_iff_getElem.mp h
  obtain ⟨row, hrow, hn⟩ := (Option.any_eq_true _ _).mp hx
  refine ⟨row, row?_eq_some_iff.mpr ?_, by simpa using hn⟩
  rw [List.getElem?_eq_getElem hlt, hrow]

theorem rowOf?_eq_none_iff {n : NodeId} : g.rowOf? n = none ↔ n ∉ g.nodes := by
  rw [rowOf?, List.findIdx?_eq_none_iff, mem_nodes]
  constructor
  · rintro h ⟨r, row, hr, hn⟩
    have hx := h (some row) (List.mem_of_getElem? (row?_eq_some_iff.mp hr))
    simp [hn] at hx
  · intro h x hx
    cases x with
    | none => rfl
    | some row =>
      obtain ⟨r, hr⟩ := List.mem_iff_getElem?.mp hx
      have hne : row.node ≠ n := fun he => h ⟨r, row, row?_eq_some_iff.mpr hr, he⟩
      simpa using hne

theorem nodes_of_rows (h : g'.rows = g.rows) : g'.nodes = g.nodes := by
  rw [nodes, nodes, liveRows, liveRows, h]

/-- The triplets of a row whose edges all lead to rows that are there. -/
def tripletsOfRow (g : Graph) (row : Row) : List (Triplet NodeId EdgeId) :=
  row.children.flatMap fun c =>
    match g.row? c.1 with
    | some subject => c.2.map fun i => ⟨row.node, subject.node, i⟩
    | none => []

def triplets (g : Graph) : List (Triplet NodeId EdgeId) := g.liveRows.flatMap g.tripletsOfRow

theorem mem_tripletsOfRow_iff {row : Row} {t : Triplet NodeId EdgeId} :
    t ∈ g.tripletsOfRow row ↔ t.main = row.node ∧ ∃ c ∈ row.children, ∃ subject,
      g.row? c.1 = some subject ∧ subject.node = t.subject ∧ t.edge ∈ c.2 := by
  unfold tripletsOfRow
  rw [List.mem_flatMap]
  constructor
  · rintro ⟨c, hc, ht⟩
    cases hs : g.row? c.1 with
    | none =>
      rw [hs] at ht
      exact absurd ht List.not_mem_nil
    | some subject =>
      rw [hs] at ht
      obtain ⟨i, hi, rfl⟩ := List.mem_map.mp ht
      exact ⟨rfl, c, hc, subject, hs, rfl, hi⟩
  · rintro ⟨hm, c, hc, subject, hs, hn, hi⟩
    refine ⟨c, hc, ?_⟩
    rw [hs]
    refine List.mem_map.mpr ⟨t.edge, hi, ?_⟩
    rw [← hm, hn]

theorem tripletsOfRow_of_rows (h : g'.rows = g.rows) : g'.tripletsOfRow = g.tripletsOfRow := by
  funext row
  unfold tripletsOfRow
  congr
  funext c
  rw [row?_of_rows h]

theorem triplets_of_rows (h : g'.rows = g.rows) : g'.triplets = g.triplets := by
  rw [triplets, triplets, tripletsOfRow_of_rows h, liveRows, liveRows, h]

def edgesBetween (g : Graph) (main subject : Nat) : List EdgeId :=
  match g.row? main with
  | some row => (row.children.lookup subject).getD []
  | none => []

theorem edgesBetween_of_rows (h : g'.rows = g.rows) (r r' : Nat) :
    g'.edgesBetween r r' = g.edgesBetween r r' := by
  unfold edgesBetween
  rw [row?_of_rows h]

end GraphTemplate.Graph
