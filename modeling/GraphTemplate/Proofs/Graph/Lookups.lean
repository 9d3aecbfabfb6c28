import GraphTemplate.Proofs.Graph.Listings
import GraphTemplate.Proofs.Graph.Soundness

/-! Lookups of nodes that a graph stores. Such a node is found in its own row, however the contents
have been edited, and its triplets are all those of the graph with it as main node. -/
namespace GraphTemplate.Graph

variable {w : Contents} {g g' : Graph} {n : NodeId}

theorem find_stored (hg : g.Sound) (hn : n ∈ g.nodes) (hh : (w.node n).isHashable = true) :
    ∃ r row g', outcome (find w n) g = (.ok (some r), g') ∧ g.row? r = some row ∧
      row.node = n ∧ g'.Sound ∧ g'.rows = g.rows := by
  cases hr : g.rowOf? n with
  | none => exact absurd hn (rowOf?_eq_none_iff.mp hr)
  | some r =>
    obtain ⟨row, hrow, rfl⟩ := row_of_rowOf? hr
    obtain ⟨g', href⟩ := refresh_ok hg.indexed hrow hh
    obtain ⟨hi, hf, -⟩ := refresh_cases hg.indexed hrow href
    refine ⟨r, row, g', ?_, hrow, rfl, hg.of_rows hi hf, hf⟩
    rw [outcome_find_stored hg.indexed hr, outcome_bind_ok href, outcome_pure]

def outgoing (g : Graph) (n : NodeId) : List (Triplet NodeId EdgeId) :=
  g.triplets.filter (·.main = n)

theorem mem_outgoing {t : Triplet NodeId EdgeId} :
    t ∈ g.outgoing n ↔ t ∈ g.triplets ∧ t.main = n := by
  rw [outgoing, List.mem_filter, decide_eq_true_eq]

theorem flatMap_eq_of_mem {α β : Type} {l : List α} {f : α → List β} {a : α} (hd : l.Nodup)
    (ha : a ∈ l) (h : ∀ x ∈ l, x ≠ a → f x = []) : l.flatMap f = f a := by
  induction l with
  | nil => exact absurd ha List.not_mem_nil
  | cons x l ih =>
    obtain ⟨hx, hd⟩ := List.nodup_cons.mp hd
    rw [List.forall_mem_cons] at h
    rw [List.flatMap_cons]
    rcases List.mem_cons.mp ha with rfl | ha
    · have hrest : l.flatMap f = [] := by
        rw [List.flatMap_eq_nil_iff]
        exact fun y hy => h.2 y hy fun he => hx (he ▸ hy)
      rw [hrest, List.append_nil]
    · rw [h.1 fun he => hx (he ▸ ha), List.nil_append, ih hd ha h.2]

/-- The triplets of a row are those with its node as main node, in the order of the whole listing.
-/
theorem tripletsOfRow_eq_outgoing (hg : g.Linked) {r : Nat} {row : Row} (hr : g.row? r = some row) :
    g.tripletsOfRow row = g.outgoing row.node := by
  have hrow : row ∈ g.liveRows := mem_liveRows.mpr ⟨r, hr⟩
  have hd : g.liveRows.Nodup := hg.pairwise_liveRows.imp fun hne he => hne (congrArg Row.node he)
  have hself : (g.tripletsOfRow row).filter (·.main = row.node) = g.tripletsOfRow row := by
    rw [List.filter_eq_self]
    exact fun t ht => decide_eq_true (main_of_mem_tripletsOfRow ht)
  have hother : ∀ x ∈ g.liveRows, x ≠ row →
      (g.tripletsOfRow x).filter (·.main = row.node) = [] := by
    intro x hx hne
    obtain ⟨s, hs⟩ := mem_liveRows.mp hx
    rw [List.filter_eq_nil_iff]
    intro t ht hm
    have hm : t.main = row.node := of_decide_eq_true hm
    rw [main_of_mem_tripletsOfRow ht] at hm
    obtain rfl := hg.distinct hs hr hm
    exact hne (Option.some.inj (hs.symm.trans hr))
  rw [outgoing, triplets, List.filter_flatMap, flatMap_eq_of_mem hd hrow hother, hself]

/-- All triplets are those of the nodes, node by node. -/
theorem triplets_eq_flatMap (hg : g.Linked) : g.triplets = g.nodes.flatMap g.outgoing := by
  rw [triplets, nodes, List.flatMap_map]
  refine List.flatMap_congr fun row hrow => ?_
  obtain ⟨r, hr⟩ := mem_liveRows.mp hrow
  exact tripletsOfRow_eq_outgoing hg hr

theorem outgoing_of_rows (h : g'.rows = g.rows) (n : NodeId) :
    g'.outgoing n = g.outgoing n := by
  rw [outgoing, outgoing, triplets_of_rows h]

def foundTriplets (g : Graph) (o : Option Nat) : List (Triplet NodeId EdgeId) :=
  (o.bind g.row?).elim [] g.tripletsOfRow

theorem foundTriplets_of_row? {r : Nat} {row : Row} (h : g.row? r = some row) :
    g.foundTriplets (some r) = g.tripletsOfRow row := by
  rw [foundTriplets, Option.bind_some, h, Option.elim_some]

theorem listings_of_find (hg : g.Sound) {o : Option Nat}
    (h : outcome (find w n) g = (.ok o, g')) :
    outcome (tripletsOfNode w n) g = (.ok (g.foundTriplets o), g') ∧
      outcome (children w n) g =
        (.ok ((g.foundTriplets o).map fun t => (t.subject, t.edge)), g') := by
  obtain ⟨hs, hf, hlive⟩ := find_safe hg h
  unfold tripletsOfNode children
  cases o with
  | none => exact ⟨outcome_bind_ok h, outcome_bind_ok h⟩
  | some r =>
    obtain ⟨row, hr⟩ := hlive rfl
    have hl := hs.sound.linked
    have hfound : g.foundTriplets (some r) = g'.tripletsOfRow row := by
      rw [foundTriplets_of_row? ((row?_of_rows hf r).symm.trans hr), tripletsOfRow_of_rows hf]
    rw [hfound]
    constructor
    · rw [outcome_bind_ok h, outcome_bind_ok (outcome_rowAt hr), outcome_bind_ok (outcome_get g'),
        hl.rowTriplets_eq hr]
      rfl
    · rw [outcome_bind_ok h, outcome_bind_ok (outcome_rowAt hr), outcome_bind_ok (outcome_get g'),
        hl.rowChildren_eq hr]
      rfl

theorem listings_stored (hg : g.Sound) (hn : n ∈ g.nodes) (hh : (w.node n).isHashable = true) :
    ∃ g', outcome (tripletsOfNode w n) g = (.ok (g.outgoing n), g') ∧
      outcome (children w n) g = (.ok ((g.outgoing n).map fun t => (t.subject, t.edge)), g') ∧
      g'.Sound ∧ g'.rows = g.rows := by
  obtain ⟨r, row, g', hfind, hr, rfl, hs, hf⟩ := find_stored hg hn hh
  obtain ⟨htriplets, hchildren⟩ := listings_of_find hg hfind
  rw [foundTriplets_of_row? hr, tripletsOfRow_eq_outgoing hg.linked hr] at htriplets hchildren
  exact ⟨g', htriplets, hchildren, hs, hf⟩

end GraphTemplate.Graph
