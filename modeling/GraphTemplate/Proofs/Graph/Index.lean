import GraphTemplate.Proofs.Graph.Edges

/-! The tables of a graph beside its rows. An entry of the index by content always points to a row
that was last seen with that content; looking a node up brings the entry of the row that is met up
to date and changes nothing else, and no row or entry that it asks for is missing. -/
namespace GraphTemplate.Graph

variable {w : Contents} {g g' : Graph}

def Separate (index : List (Entity × Nat)) : Prop :=
  index.Pairwise fun a b => a.1.alike b.1 = false

def rowFor? (index : List (Entity × Nat)) (c : Entity) : Option Nat :=
  (index.find? (·.1.alike c)).map Prod.snd

theorem rowFor?_cons (e : Entity × Nat) (es : List (Entity × Nat)) (c : Entity) :
    rowFor? (e :: es) c = if e.1.alike c then some e.2 else rowFor? es c := by
  unfold rowFor?
  by_cases h : e.1.alike c = true <;> simp [h]

theorem indexed?_congr {c d : Entity} (h : c.alike d = true) : g.indexed? c = g.indexed? d := by
  have hf : (fun e : Entity × Nat => e.1.alike c) = fun e => e.1.alike d := by
    funext e
    rw [Entity.alike_comm e.1 c, Entity.alike_comm e.1 d, Entity.alike_congr h]
  rw [indexed?, indexed?, hf]

theorem rowFor?_enter (index : List (Entity × Nat)) (c d : Entity) (r : Nat) :
    rowFor? (enter c r index) d = if c.alike d then some r else rowFor? index d := by
  induction index with
  | nil => rw [enter, rowFor?_cons]
  | cons e es ih =>
    rw [enter]
    by_cases he : e.1.alike c = true
    · rw [if_pos he, rowFor?_cons, rowFor?_cons, Entity.alike_congr he]
      by_cases hd : c.alike d = true
      · rw [if_pos hd, if_pos hd]
      · rw [if_neg hd, if_neg hd, if_neg hd]
    · rw [if_neg he, rowFor?_cons, ih, rowFor?_cons]
      by_cases hd : c.alike d = true
      · have hn : ¬e.1.alike d = true := fun h => he (Entity.alike_trans h (Entity.alike_symm hd))
        rw [if_neg hn, if_pos hd, if_pos hd]
      · rw [if_neg hd, if_neg hd]

theorem rowFor?_filter (index : List (Entity × Nat)) (c d : Entity) :
    rowFor? (index.filter fun e => !e.1.alike c) d =
      if c.alike d then none else rowFor? index d := by
  induction index with
  | nil => by_cases hd : c.alike d = true <;> simp [rowFor?, hd]
  | cons e es ih =>
    by_cases he : e.1.alike c = true
    · rw [List.filter_cons_of_neg (by simpa using he), ih, rowFor?_cons, Entity.alike_congr he]
      by_cases hd : c.alike d = true
      · rw [if_pos hd, if_pos hd]
      · rw [if_neg hd, if_neg hd, if_neg hd]
    · rw [List.filter_cons_of_pos (by simpa using he), rowFor?_cons, ih, rowFor?_cons]
      by_cases hd : c.alike d = true
      · have hn : ¬e.1.alike d = true := fun h => he (Entity.alike_trans h (Entity.alike_symm hd))
        rw [if_neg hn, if_pos hd, if_pos hd]
      · rw [if_neg hd, if_neg hd]

theorem rowFor?_leave (c d : Entity) (r : Nat) : rowFor? (g.leave c r) d =
    if c.alike d = true ∧ g.indexed? c = some r then none else g.indexed? d := by
  unfold leave
  by_cases hr : g.indexed? c = some r
  · rw [if_pos hr, rowFor?_filter]
    simp only [hr, and_true]
    rfl
  · rw [if_neg hr, if_neg (fun h => hr h.2)]
    rfl

theorem Separate.enter {index : List (Entity × Nat)} (h : Separate index) (c : Entity) (r : Nat) :
    Separate (enter c r index) ∧ ∀ e ∈ Graph.enter c r index,
      e.1.alike c = true ∨ e ∈ index := by
  induction index with
  | nil =>
    refine ⟨List.pairwise_singleton _ _, ?_⟩
    intro e he
    rw [Graph.enter, List.mem_singleton] at he
    exact Or.inl (he ▸ Entity.alike_refl c)
  | cons a es ih =>
    obtain ⟨ha, hes⟩ := List.pairwise_cons.mp h
    rw [Graph.enter]
    by_cases hac : a.1.alike c = true
    · rw [if_pos hac]
      refine ⟨List.pairwise_cons.mpr ⟨ha, hes⟩, ?_⟩
      intro e he
      rcases List.mem_cons.mp he with rfl | he
      · exact Or.inl hac
      · exact Or.inr (List.mem_cons_of_mem _ he)
    · rw [if_neg hac]
      obtain ⟨hs, hm⟩ := ih hes
      refine ⟨List.pairwise_cons.mpr ⟨?_, hs⟩, ?_⟩
      · intro e he
        rcases hm e he with hec | he
        · rw [Entity.alike_comm, Entity.alike_congr hec, Entity.alike_comm]
          simpa using hac
        · exact ha e he
      · intro e he
        rcases List.mem_cons.mp he with rfl | he
        · exact Or.inr List.mem_cons_self
        · exact (hm e he).imp_right (List.mem_cons_of_mem _)

theorem Separate.leave (h : Separate g.index) (c : Entity) (r : Nat) :
    Separate (g.leave c r) := by
  unfold Graph.leave
  by_cases hr : g.indexed? c = some r
  · rw [if_pos hr]
    exact h.sublist List.filter_sublist
  · rwa [if_neg hr]

/-- What the tables of a graph say about its rows: the index points to rows that were last seen with
the content, just the rows that are there have been seen with one, and they belong to the nodes in
them. -/
structure Indexed (g : Graph) : Prop where
  separate : Separate g.index
  pointing : ∀ ⦃c r⦄, g.indexed? c = some r → ∃ k, g.key? r = some k ∧ k.alike c = true
  once : (g.keys.map Prod.fst).Nodup
  recorded : ∀ r, (g.key? r).isSome = (g.row? r).isSome
  owned : ∀ n r, g.owners.lookup n = some r ↔ ∃ row, g.row? r = some row ∧ row.node = n

theorem indexed_empty : Indexed empty where
  separate := List.Pairwise.nil
  pointing _ _ h := absurd h (by simp [indexed?, empty])
  once := List.nodup_nil
  recorded _ := rfl
  owned n r := ⟨nofun, fun ⟨_, hr, _⟩ => nomatch hr⟩

namespace Indexed

variable {r : Nat} {row : Row} {k c : Entity} (hi : Indexed g)
include hi

theorem exists_key (hr : g.row? r = some row) : ∃ k, g.key? r = some k := by
  rw [← Option.isSome_iff_exists, hi.recorded, hr]
  rfl

theorem exists_row (hk : g.key? r = some k) : ∃ row, g.row? r = some row := by
  rw [← Option.isSome_iff_exists, ← hi.recorded, hk]
  rfl

theorem row_of_indexed? (h : g.indexed? c = some r) :
    ∃ row k, g.row? r = some row ∧ g.key? r = some k ∧ k.alike c = true := by
  obtain ⟨k, hk, hc⟩ := hi.pointing h
  obtain ⟨row, hr⟩ := hi.exists_row hk
  exact ⟨row, k, hr, hk, hc⟩

theorem outcome_ownRow (n : NodeId) : outcome (ownRow n) g = (.ok (g.rowOf? n), g) := by
  unfold ownRow
  rw [outcome_bind_ok (outcome_get g)]
  cases ho : g.owners.lookup n with
  | none =>
    cases hr : g.rowOf? n with
    | none => rfl
    | some s => exact nomatch ho.symm.trans ((hi.owned n s).mpr (row_of_rowOf? hr))
  | some r =>
    obtain ⟨row, hr, rfl⟩ := (hi.owned n r).mp ho
    have hown : g.rowOf? row.node = some r := by
      cases hs : g.rowOf? row.node with
      | none => exact absurd (mem_nodes.mpr ⟨r, row, hr, rfl⟩) (rowOf?_eq_none_iff.mp hs)
      | some s =>
        have hos := (hi.owned row.node s).mpr (row_of_rowOf? hs)
        exact hos.symm.trans ho
    dsimp only
    rw [row?_eq_some_iff.mp hr, hown]
    simp only [Option.any_some, beq_self_eq_true, if_true]
    rfl

/-- A content is kept for each row that is there, so their number is that of the nodes. -/
theorem size_eq : g.size = g.nodes.length := by
  have hkey (r : Nat) : r ∈ g.keys.map Prod.fst ↔ (g.row? r).isSome = true := by
    rw [← hi.recorded, key?, List.lookup_isSome_iff, List.mem_map]
    simp only [beq_iff_eq, @eq_comm _ r]
  have hperm : (g.keys.map Prod.fst).Perm
      ((List.range g.rows.length).filter fun r => (g.row? r).isSome) := by
    rw [List.perm_ext_iff_of_nodup hi.once (List.nodup_range.filter _)]
    intro r
    rw [hkey, List.mem_filter, List.mem_range]
    constructor
    · intro h
      obtain ⟨row, hr⟩ := Option.isSome_iff_exists.mp h
      exact ⟨row?_lt hr, h⟩
    · exact And.right
  rw [size, ← List.length_map Prod.fst, hperm.length_eq, ← List.countP_eq_length_filter,
    ← List.length_filterMap_eq_countP, ← liveRows_eq, nodes, List.length_map]

end Indexed

def rekeyed (g : Graph) (r : Nat) (old c : Entity) : Graph :=
  { g with index := enter c r (g.leave old r), keys := Entries.put r c g.keys }

section
variable {r : Nat} {row : Row} {old : Entity}

theorem indexed?_rekeyed (g : Graph) (r : Nat) (old c d : Entity) :
    (g.rekeyed r old c).indexed? d = if c.alike d then some r
      else if old.alike d = true ∧ g.indexed? old = some r then none
      else g.indexed? d := by
  rw [← rowFor?_leave, ← rowFor?_enter]
  rfl

theorem key?_rekeyed (g : Graph) (r : Nat) (old c : Entity) (s : Nat) :
    (g.rekeyed r old c).key? s = if s = r then some c else g.key? s :=
  Entries.lookup_put r s c g.keys

theorem outcome_refresh (hr : g.row? r = some row) (hk : g.key? r = some old) :
    outcome (refresh w r) g = match (w.node row.node).hashed with
      | .error f => (.error f, g)
      | .ok c => (.ok c, if c.alike old = true then g else g.rekeyed r old c) := by
  unfold refresh
  rw [outcome_bind_ok (outcome_rowAt hr), outcome_bind, outcome_hashed]
  cases (w.node row.node).hashed with
  | error f => rfl
  | ok c =>
    dsimp only
    rw [outcome_bind_ok (outcome_keyAt hk)]
    by_cases hc : c.alike old = true
    · simp only [hc, if_true]
      rfl
    · simp only [hc]
      rfl

theorem Indexed.rekeyed (h : Indexed g) (hk : g.key? r = some old) (c : Entity) :
    Indexed (g.rekeyed r old c) where
  separate := ((h.separate.leave old r).enter c r).1
  pointing := by
    intro d s hs
    rw [indexed?_rekeyed] at hs
    rw [key?_rekeyed]
    by_cases hd : c.alike d = true
    · rw [if_pos hd] at hs
      obtain rfl := Option.some.inj hs
      exact ⟨c, if_pos rfl, hd⟩
    · rw [if_neg hd] at hs
      by_cases hl : old.alike d = true ∧ g.indexed? old = some r
      · rw [if_pos hl] at hs
        exact absurd hs (by simp)
      · rw [if_neg hl] at hs
        obtain ⟨k, hks, hkd⟩ := h.pointing hs
        have hne : s ≠ r := by
          rintro rfl
          obtain rfl := Option.some.inj (hk.symm.trans hks)
          exact hl ⟨hkd, (indexed?_congr hkd).trans hs⟩
        exact ⟨k, (if_neg hne).trans hks, hkd⟩
  once := Entries.nodup_put r c h.once
  recorded := by
    intro s
    rw [key?_rekeyed]
    by_cases hs : s = r
    · subst hs
      have hrow := h.recorded s
      rw [hk] at hrow
      rw [if_pos rfl]
      exact hrow
    · rw [if_neg hs]
      exact h.recorded s
  owned := h.owned

end

/-- A row that is met comes to have the present content of its node, unless that cannot be looked
up by. -/
theorem refresh_inv {r : Nat} {row : Row} {x : Except Fault Entity} (hi : Indexed g)
    (hr : g.row? r = some row) (h : outcome (refresh w r) g = (x, g')) :
    ∃ old, g.key? r = some old ∧ x = (w.node row.node).hashed ∧
      ((∃ f, x = .error f) ∧ g' = g ∨
        x = .ok (w.node row.node) ∧ (w.node row.node).alike old = true ∧ g' = g ∨
        x = .ok (w.node row.node) ∧ ¬(w.node row.node).alike old = true ∧
          g' = g.rekeyed r old (w.node row.node)) := by
  obtain ⟨old, hk⟩ := hi.exists_key hr
  rw [outcome_refresh hr hk] at h
  refine ⟨old, hk, ?_⟩
  cases hc : (w.node row.node).hashed with
  | error f =>
    rw [hc] at h
    obtain ⟨rfl, rfl⟩ := Prod.mk.inj h
    exact ⟨rfl, Or.inl ⟨⟨f, rfl⟩, rfl⟩⟩
  | ok c =>
    obtain ⟨-, rfl⟩ := Entity.hashed_eq_ok_iff.mp hc
    rw [hc] at h
    obtain ⟨rfl, rfl⟩ := Prod.mk.inj h
    by_cases ha : (w.node row.node).alike old = true
    · exact ⟨rfl, Or.inr (Or.inl ⟨rfl, ha, if_pos ha⟩)⟩
    · exact ⟨rfl, Or.inr (Or.inr ⟨rfl, ha, if_neg ha⟩)⟩

theorem refresh_cases {r : Nat} {row : Row} {x : Except Fault Entity} (hi : Indexed g)
    (hr : g.row? r = some row) (h : outcome (refresh w r) g = (x, g')) :
    Indexed g' ∧ g'.rows = g.rows ∧ x = (w.node row.node).hashed := by
  obtain ⟨old, hk, hx, ⟨-, rfl⟩ | ⟨-, -, rfl⟩ | ⟨-, -, rfl⟩⟩ := refresh_inv hi hr h
  · exact ⟨hi, rfl, hx⟩
  · exact ⟨hi, rfl, hx⟩
  · exact ⟨hi.rekeyed hk _, rfl, hx⟩

theorem refresh_ok {r : Nat} {row : Row} (hi : g.Indexed) (hr : g.row? r = some row)
    (h : (w.node row.node).isHashable = true) :
    ∃ g', outcome (refresh w r) g = (.ok (w.node row.node), g') := by
  obtain ⟨c, hk⟩ := hi.exists_key hr
  rw [outcome_refresh hr hk, Entity.hashed_of_isHashable h]
  exact ⟨_, rfl⟩

/-- A row that is met with another content gives up its entry for the one it was seen with. -/
theorem indexed?_refresh {r : Nat} {c d : Entity} (hi : Indexed g) (hd : g.indexed? d = some r)
    (h : outcome (refresh w r) g = (.ok c, g')) (hn : ¬c.alike d = true) :
    g'.indexed? d = none := by
  obtain ⟨row, old, hr, hk, hold⟩ := hi.row_of_indexed? hd
  obtain ⟨_, hk', -, hcases⟩ := refresh_inv hi hr h
  obtain rfl := Option.some.inj (hk.symm.trans hk')
  rcases hcases with ⟨⟨f, hf⟩, -⟩ | ⟨hc, ha, -⟩ | ⟨hc, -, rfl⟩
  · exact nomatch hf
  · obtain rfl := Except.ok.inj hc
    exact absurd (Entity.alike_trans ha hold) hn
  · obtain rfl := Except.ok.inj hc
    rw [indexed?_rekeyed, if_neg hn]
    exact if_pos ⟨hold, (indexed?_congr hold).trans hd⟩

def Unhashable (w : Contents) (f : Fault) : Prop :=
  (∃ n, (w.node n).hashed = .error f) ∨ ∃ i, (w.edge i).hashed = .error f

/-- A node that is stored itself is found in its own row. -/
theorem outcome_find_stored {n : NodeId} {r : Nat} (hi : Indexed g) (h : g.rowOf? n = some r) :
    outcome (find w n) g = outcome (do let _ ← refresh w r; return some r) g := by
  unfold find
  rw [outcome_bind_ok (hi.outcome_ownRow n), h]

theorem outcome_find_unhashable {n : NodeId} {f : Fault} (hi : Indexed g) (h : g.rowOf? n = none)
    (hf : (w.node n).hashed = .error f) : outcome (find w n) g = (.error f, g) := by
  unfold find
  rw [outcome_bind_ok (hi.outcome_ownRow n), h]
  exact outcome_bind_error (by rw [outcome_hashed, hf])

section
variable {n : NodeId} (hi : Indexed g) (h : g.rowOf? n = none)
  (hn : (w.node n).isHashable = true)
include hi h hn

theorem outcome_find_unstored : outcome (find w n) g =
    outcome (do
      match (← get).indexed? (w.node n) with
      | none => return none
      | some r => do
        let now ← refresh w r
        return if now.alike (w.node n) then some r else none) g := by
  have hhashed : outcome (hashed (w.node n)) g = (.ok (w.node n), g) := by
    rw [outcome_hashed, Entity.hashed_of_isHashable hn]
  unfold find
  rw [outcome_bind_ok (hi.outcome_ownRow n), h]
  exact outcome_bind_ok hhashed

theorem outcome_find_unindexed (hd : g.indexed? (w.node n) = none) :
    outcome (find w n) g = (.ok none, g) := by
  rw [outcome_find_unstored hi h hn, outcome_bind_ok (outcome_get g), hd]
  rfl

/-- Any other node is found in the row that the index has for its content, if that row has it. -/
theorem outcome_find_indexed {r : Nat} (hd : g.indexed? (w.node n) = some r) :
    outcome (find w n) g = outcome (do
      let now ← refresh w r
      return if now.alike (w.node n) then some r else none) g := by
  rw [outcome_find_unstored hi h hn, outcome_bind_ok (outcome_get g), hd]

end

/-- The content of a node that is looked up without being stored is hashed. -/
theorem isHashable_of_unstored {n : NodeId} {o : Option Nat} (hi : Indexed g)
    (hn : g.rowOf? n = none)
    (h : outcome (find w n) g = (.ok o, g')) : (w.node n).isHashable = true := by
  cases hc : (w.node n).hashed with
  | error f =>
    rw [outcome_find_unhashable hi hn hc] at h
    exact nomatch (Prod.mk.inj h).1
  | ok c => exact (Entity.hashed_eq_ok_iff.mp hc).1

theorem find_cases {n : NodeId} {x : Except Fault (Option Nat)} (hi : Indexed g)
    (h : outcome (find w n) g = (x, g')) :
    Indexed g' ∧ g'.rows = g.rows ∧
      ((∃ f, x = .error f ∧ Unhashable w f) ∨
        (∃ r row, x = .ok (some r) ∧ g.row? r = some row ∧
          (row.node = n ∨ n ∉ g.nodes ∧ g.indexed? (w.node n) = some r ∧
            (w.node row.node).alike (w.node n) = true)) ∨
        (x = .ok none ∧ n ∉ g.nodes ∧ g'.indexed? (w.node n) = none)) := by
  cases hn : g.rowOf? n with
  | some r =>
    rw [outcome_find_stored hi hn] at h
    obtain ⟨row, hr, hrow⟩ := row_of_rowOf? hn
    rcases outcome_bind_cases h with ⟨f, hf, rfl⟩ | ⟨c, g₁, hc, hk⟩
    · obtain ⟨hi', hfr, hx⟩ := refresh_cases hi hr hf
      exact ⟨hi', hfr, Or.inl ⟨f, rfl, Or.inl ⟨row.node, hx.symm⟩⟩⟩
    · obtain ⟨hi', hfr, -⟩ := refresh_cases hi hr hc
      obtain ⟨rfl, rfl⟩ := Prod.mk.inj ((outcome_pure _ _).symm.trans hk)
      exact ⟨hi', hfr, Or.inr (Or.inl ⟨r, row, rfl, hr, Or.inl hrow⟩)⟩
  | none =>
    have hout : n ∉ g.nodes := rowOf?_eq_none_iff.mp hn
    cases hc : (w.node n).hashed with
    | error f =>
      rw [outcome_find_unhashable hi hn hc] at h
      obtain ⟨rfl, rfl⟩ := Prod.mk.inj h
      exact ⟨hi, rfl, Or.inl ⟨f, rfl, Or.inl ⟨n, hc⟩⟩⟩
    | ok c =>
      obtain ⟨hh, rfl⟩ := Entity.hashed_eq_ok_iff.mp hc
      cases hd : g.indexed? (w.node n) with
      | none =>
        rw [outcome_find_unindexed hi hn hh hd] at h
        obtain ⟨rfl, rfl⟩ := Prod.mk.inj h
        exact ⟨hi, rfl, Or.inr (Or.inr ⟨rfl, hout, hd⟩)⟩
      | some r =>
        rw [outcome_find_indexed hi hn hh hd] at h
        obtain ⟨row, -, hr, -⟩ := hi.row_of_indexed? hd
        rcases outcome_bind_cases h with ⟨f, hf, rfl⟩ | ⟨d, g₂, hd', hk⟩
        · obtain ⟨hi', hfr, hx⟩ := refresh_cases hi hr hf
          exact ⟨hi', hfr, Or.inl ⟨f, rfl, Or.inl ⟨row.node, hx.symm⟩⟩⟩
        · obtain ⟨hi', hfr, hx⟩ := refresh_cases hi hr hd'
          obtain ⟨-, rfl⟩ := Entity.hashed_eq_ok_iff.mp hx.symm
          obtain ⟨rfl, rfl⟩ := Prod.mk.inj ((outcome_pure _ _).symm.trans hk)
          refine ⟨hi', hfr, Or.inr ?_⟩
          by_cases ha : (w.node row.node).alike (w.node n) = true
          · rw [if_pos ha]
            exact Or.inl ⟨r, row, rfl, hr, Or.inr ⟨hout, rfl, ha⟩⟩
          · rw [if_neg ha]
            exact Or.inr ⟨rfl, hout, indexed?_refresh hi hd hd' ha⟩

end GraphTemplate.Graph
