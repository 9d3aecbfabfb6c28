import GraphTemplate.Proofs.Graph.Listings
import GraphTemplate.Proofs.Graph.Settled
import Mathlib.Data.Finset.Basic

/-! What a graph is without its rows and its index: nodes in the order of their insertion and, from
node to node, edges. As long as nothing is edited, a graph behaves as its layout does. -/
namespace GraphTemplate

structure Layout where
  nodes : List NodeId
  arcs : Finset (Triplet NodeId EdgeId)
  deriving DecidableEq

namespace Layout

open GraphTemplate.Graph (PartialTriplet Change)

variable {w : Contents} {m : Layout}

def empty : Layout := ⟨[], ∅⟩

def standing (w : Contents) (m : Layout) (n : NodeId) : Option NodeId :=
  m.nodes.find? fun k => (w.node k).alike (w.node n)

def standingPart (w : Contents) (m : Layout) (p : Option NodeId) : Option NodeId :=
  p.bind (m.standing w)

def matching (w : Contents) (m : Layout) (t : PartialTriplet) : Finset (Triplet NodeId EdgeId) :=
  m.arcs.filter fun u => m.standingPart w t.main = some u.main ∧
    m.standingPart w t.subject = some u.subject ∧
    t.edge.any fun i => (w.edge u.edge).alike (w.edge i)

def addNode (w : Contents) (m : Layout) (n : NodeId) : Layout :=
  if (m.standing w n).isSome then m else { m with nodes := m.nodes ++ [n] }

def removeNode (w : Contents) (m : Layout) (n : NodeId) : Layout :=
  match m.standing w n with
  | some k => ⟨m.nodes.filter (· ≠ k), m.arcs.filter fun u => u.main ≠ k ∧ u.subject ≠ k⟩
  | none => m

def addPart (w : Contents) (m : Layout) : Option NodeId → Layout
  | some n => m.addNode w n
  | none => m

def addArc (m : Layout) : Option NodeId → Option NodeId → Option EdgeId → Layout
  | some a, some b, some i => { m with arcs := insert ⟨a, b, i⟩ m.arcs }
  | _, _, _ => m

def addTriplet (w : Contents) (m : Layout) (t : PartialTriplet) : Layout :=
  if (m.matching w t).Nonempty then m
  else
    let m' := (m.addPart w t.main).addPart w t.subject
    m'.addArc (m'.standingPart w t.main) (m'.standingPart w t.subject) t.edge

def removeEdge (w : Contents) (m : Layout) (t : PartialTriplet) : Layout :=
  { m with arcs := m.arcs \ m.matching w t }

def apply (w : Contents) (m : Layout) : Change → Layout
  | .addNode n => m.addNode w n
  | .removeNode n => m.removeNode w n
  | .addTriplet t => m.addTriplet w t
  | .removeEdge t => m.removeEdge w t

theorem of_standing {n k : NodeId} (h : m.standing w n = some k) :
    k ∈ m.nodes ∧ (w.node k).alike (w.node n) = true :=
  ⟨List.mem_of_find?_eq_some h,
    List.find?_some (p := fun k => (w.node k).alike (w.node n)) h⟩

def answers (w : Contents) (m : Layout) : List Change → List Bool
  | [] => []
  | c :: cs => decide (m.apply w c ≠ m) :: (m.apply w c).answers w cs

def run (w : Contents) (m : Layout) (cs : List Change) : Layout := cs.foldl (apply w) m

end Layout

namespace Graph

variable {w : Contents} {g g' : Graph} {m : Layout}

def Change.Hashable (w : Contents) : Change → Prop
  | .addNode n | .removeNode n => (w.node n).isHashable = true
  | .addTriplet t | .removeEdge t =>
    (∀ n ∈ t.main, (w.node n).isHashable = true) ∧
      (∀ n ∈ t.subject, (w.node n).isHashable = true) ∧
      ∀ i ∈ t.edge, (w.edge i).isHashable = true

structure Mirrors (w : Contents) (g : Graph) (m : Layout) : Prop where
  settled : Settled w g
  nodes : g.nodes = m.nodes
  arcs : ∀ t, t ∈ g.triplets ↔ t ∈ m.arcs

theorem mirrors_empty (w : Contents) : Mirrors w empty Layout.empty where
  settled := settled_empty w
  nodes := rfl
  arcs t := by
    constructor
    · intro h
      exact absurd h List.not_mem_nil
    · intro h
      exact absurd h (Finset.notMem_empty t)

theorem Mirrors.standing_iff (h : Mirrors w g m) {n k : NodeId} :
    m.standing w n = some k ↔
      ∃ r row, g.row? r = some row ∧ row.node = k ∧ g.indexed? (w.node n) = some r := by
  constructor
  · intro hk
    obtain ⟨hmem, ha⟩ := Layout.of_standing hk
    rw [← h.nodes, mem_nodes] at hmem
    obtain ⟨r, row, hr, rfl⟩ := hmem
    exact ⟨r, row, hr, rfl, h.settled.indexed?_iff.mpr ⟨row, hr, ha⟩⟩
  · rintro ⟨r, row, hr, rfl, hd⟩
    obtain ⟨row', hr', ha⟩ := h.settled.indexed?_iff.mp hd
    rw [hr] at hr'
    obtain rfl := Option.some.inj hr'
    have hmem : row.node ∈ m.nodes := h.nodes ▸ mem_nodes.mpr ⟨r, row, hr, rfl⟩
    cases hk : m.standing w n with
    | none =>
      have hno := List.find?_eq_none.mp hk row.node hmem
      exact absurd ha hno
    | some k =>
      obtain ⟨hk', ha'⟩ := Layout.of_standing hk
      rw [← h.nodes, mem_nodes] at hk'
      obtain ⟨s, row', hs, rfl⟩ := hk'
      have hd' := h.settled.indexed?_iff.mpr ⟨row', hs, ha'⟩
      rw [hd] at hd'
      obtain rfl := Option.some.inj hd'
      rw [hr] at hs
      rw [Option.some.inj hs]

theorem Mirrors.standing_of_indexed? (h : Mirrors w g m) {n : NodeId} {r : Nat}
    (hd : g.indexed? (w.node n) = some r) :
    ∃ row, g.row? r = some row ∧ m.standing w n = some row.node := by
  obtain ⟨row, hr, -⟩ := h.settled.indexed?_iff.mp hd
  exact ⟨row, hr, h.standing_iff.mpr ⟨r, row, hr, rfl, hd⟩⟩

theorem Mirrors.standing_eq_none (h : Mirrors w g m) {n : NodeId} :
    m.standing w n = none ↔ g.indexed? (w.node n) = none := by
  constructor
  · intro hn
    cases hd : g.indexed? (w.node n) with
    | none => rfl
    | some r =>
      obtain ⟨row, -, hs⟩ := h.standing_of_indexed? hd
      exact nomatch hn.symm.trans hs
  · intro hd
    cases hn : m.standing w n with
    | none => rfl
    | some k =>
      obtain ⟨r, row, -, -, hd'⟩ := h.standing_iff.mp hn
      exact nomatch hd.symm.trans hd'

theorem Settled.not_mem_nodes (h : Settled w g) {n : NodeId}
    (hd : g.indexed? (w.node n) = none) : n ∉ g.nodes := by
  intro hmem
  obtain ⟨r, row, hr, rfl⟩ := mem_nodes.mp hmem
  exact nomatch (h.entered hr).symm.trans hd

/-- A graph with a node, which is inserted unless one with its content is there. -/
def place (w : Contents) (g : Graph) : Option NodeId → Graph
  | some n => if (g.indexed? (w.node n)).isSome then g else g.inserted n (w.node n)
  | none => g

theorem place_of_indexed {n : NodeId} {r : Nat} (hd : g.indexed? (w.node n) = some r) :
    g.place w (some n) = g := by
  rw [place, hd]
  rfl

theorem place_of_unindexed {n : NodeId} (hd : g.indexed? (w.node n) = none) :
    g.place w (some n) = g.inserted n (w.node n) := by
  rw [place, hd]
  rfl

theorem place_cases (w : Contents) (g : Graph) (p : Option NodeId) : g.place w p = g ∨
    ∃ n, p = some n ∧ g.indexed? (w.node n) = none ∧ g.place w p = g.inserted n (w.node n) := by
  cases p with
  | none => exact Or.inl rfl
  | some n =>
    cases hd : g.indexed? (w.node n) with
    | some r => exact Or.inl (place_of_indexed hd)
    | none => exact Or.inr ⟨n, rfl, hd, place_of_unindexed hd⟩

theorem Mirrors.placed (h : Mirrors w g m) {p : Option NodeId}
    (hp : ∀ n ∈ p, (w.node n).isHashable = true) :
    Mirrors w (g.place w p) (m.addPart w p) := by
  cases p with
  | none => exact h
  | some n =>
    unfold Layout.addPart Layout.addNode
    dsimp only
    cases hd : g.indexed? (w.node n) with
    | some r =>
      obtain ⟨row, -, hs⟩ := h.standing_of_indexed? hd
      rw [place_of_indexed hd, hs]
      exact h
    | none =>
      rw [place_of_unindexed hd, h.standing_eq_none.mpr hd]
      simp only [Option.isSome_none, Bool.false_eq_true, if_false]
      have hout := h.settled.not_mem_nodes hd
      refine ⟨h.settled.inserted (hp n rfl) hd, ?_, ?_⟩
      · rw [nodes_inserted, h.nodes]
      · intro t
        exact (mem_triplets_inserted h.settled.sound.linked hout _).trans (h.arcs t)

theorem Mirrors.addNode (h : Mirrors w g m) {n : NodeId} (hn : (w.node n).isHashable = true) :
    outcome (addNode w n) g = (.ok (!(m.standing w n).isSome), g.place w (some n)) := by
  unfold Graph.addNode
  rw [outcome_bind_ok (h.settled.outcome_find hn)]
  cases hd : g.indexed? (w.node n) with
  | some r =>
    obtain ⟨row, -, hs⟩ := h.standing_of_indexed? hd
    rw [hs, place_of_indexed hd]
    rfl
  | none =>
    rw [h.standing_eq_none.mpr hd, place_of_unindexed hd]
    simp only [Option.isSome_none, Bool.false_eq_true, if_false]
    rw [outcome_bind_ok (insertRow_ok hn), outcome_pure, Bool.not_false]

theorem Mirrors.removeNode (h : Mirrors w g m) {n : NodeId} (hn : (w.node n).isHashable = true) :
    ∃ g', outcome (removeNode w n) g = (.ok (m.standing w n).isSome, g') ∧
      Mirrors w g' (m.removeNode w n) := by
  unfold Graph.removeNode Layout.removeNode
  rw [outcome_bind_ok (h.settled.outcome_find hn)]
  cases hd : g.indexed? (w.node n) with
  | none =>
    rw [h.standing_eq_none.mpr hd]
    exact ⟨g, rfl, h⟩
  | some r =>
    obtain ⟨row, hr, hs⟩ := h.standing_of_indexed? hd
    rw [hs]
    refine ⟨g.dropRow r, outcome_bind_ok (outcome_removeRow h.settled.sound.indexed hr),
      h.settled.dropRow hr, ?_, ?_⟩
    · rw [nodes_dropRow h.settled.sound.linked hr, h.nodes]
    · intro t
      rw [mem_triplets_dropRow h.settled.sound.linked hr, h.arcs, Finset.mem_filter]

theorem Mirrors.mem_matching (h : Mirrors w g m) {a b : NodeId} {i : EdgeId} {r s : Nat}
    {row subject : Row} (hr : g.row? r = some row) (hs : g.row? s = some subject)
    (ha : m.standing w a = some row.node) (hb : m.standing w b = some subject.node)
    {u : Triplet NodeId EdgeId} :
    u ∈ m.matching w ⟨some a, some b, some i⟩ ↔ u.main = row.node ∧ u.subject = subject.node ∧
      u.edge ∈ g.edgesBetween r s ∧ (w.edge u.edge).alike (w.edge i) = true := by
  unfold Layout.matching Layout.standingPart
  rw [Finset.mem_filter]
  simp only [Option.bind_some, ha, hb, Option.some.injEq, Option.any_some]
  rw [← h.settled.sound.linked.mem_triplets_iff hr hs, h.arcs]
  constructor
  · rintro ⟨hu, hm, hn, hal⟩
    rw [hm, hn]
    exact ⟨rfl, rfl, hu, hal⟩
  · rintro ⟨hm, hn, hu, hal⟩
    rw [← hm, ← hn] at hu
    exact ⟨hu, hm.symm, hn.symm, hal⟩

theorem Mirrors.matching_nonempty_iff (h : Mirrors w g m) {a b : NodeId} {i : EdgeId} {r s : Nat}
    {row subject : Row} (hr : g.row? r = some row) (hs : g.row? s = some subject)
    (ha : m.standing w a = some row.node) (hb : m.standing w b = some subject.node) :
    (m.matching w ⟨some a, some b, some i⟩).Nonempty ↔
      ∃ j ∈ g.edgesBetween r s, (w.edge j).alike (w.edge i) = true := by
  constructor
  · rintro ⟨u, hu⟩
    obtain ⟨-, -, hj, hal⟩ := (h.mem_matching hr hs ha hb).mp hu
    exact ⟨u.edge, hj, hal⟩
  · rintro ⟨j, hj, hal⟩
    exact ⟨⟨row.node, subject.node, j⟩, (h.mem_matching hr hs ha hb).mpr ⟨rfl, rfl, hj, hal⟩⟩

/-- Between two rows there is at most one edge that is equal to another one. -/
theorem Mirrors.matching_eq_singleton (h : Mirrors w g m) {a b : NodeId} {i j : EdgeId} {r s : Nat}
    {row subject : Row} (hr : g.row? r = some row) (hs : g.row? s = some subject)
    (ha : m.standing w a = some row.node) (hb : m.standing w b = some subject.node)
    (hj : j ∈ g.edgesBetween r s) (hal : (w.edge j).alike (w.edge i) = true) :
    m.matching w ⟨some a, some b, some i⟩ = {⟨row.node, subject.node, j⟩} := by
  ext u
  rw [h.mem_matching hr hs ha hb, Finset.mem_singleton]
  constructor
  · rintro ⟨hm, hn, hu, hal'⟩
    rw [← hm, ← hn, ← h.settled.separate hu hj (Entity.alike_trans hal' (Entity.alike_symm hal))]
  · rintro rfl
    exact ⟨rfl, rfl, hj, hal⟩

theorem Layout.matching_eq_empty {t : PartialTriplet} (h : m.standingPart w t.main = none ∨
    m.standingPart w t.subject = none ∨ t.edge = none) : m.matching w t = ∅ := by
  unfold Layout.matching
  rw [Finset.filter_eq_empty_iff]
  rintro u - ⟨hm, hn, hi⟩
  rcases h with h | h | h
  · exact nomatch h.symm.trans hm
  · exact nomatch h.symm.trans hn
  · rw [h] at hi
    exact nomatch hi

theorem Mirrors.standingPart_eq_none (h : Mirrors w g m) {p : Option NodeId} :
    m.standingPart w p = none ↔ g.partRow w p = none := by
  cases p with
  | none => exact Iff.rfl
  | some n => exact h.standing_eq_none

theorem Mirrors.appended (h : Mirrors w g m) {r s : Nat} {row subject : Row} {i : EdgeId}
    (hr : g.row? r = some row) (hs : g.row? s = some subject)
    (hi : (w.edge i).isHashable = true)
    (hn : ∀ j ∈ g.edgesBetween r s, ¬(w.edge j).alike (w.edge i) = true) :
    Mirrors w (g.changeChildren r (appendEdge s i))
      { m with arcs := insert ⟨row.node, subject.node, i⟩ m.arcs } := by
  have hset := h.settled.appended hr hs hi hn
  refine ⟨hset, ?_, ?_⟩
  · rw [nodes_changeChildren hr, h.nodes]
  · intro t
    rw [mem_triplets_appended h.settled.sound.linked hr hs hset.sound.linked, h.arcs,
      Finset.mem_insert]

theorem Mirrors.dropped (h : Mirrors w g m) {r s p : Nat} {row subject : Row} {j : EdgeId}
    (hr : g.row? r = some row) (hs : g.row? s = some subject)
    (hj : (g.edgesBetween r s)[p]? = some j) :
    Mirrors w (g.changeChildren r (dropEdge s p))
      { m with arcs := m.arcs \ {⟨row.node, subject.node, j⟩} } := by
  have hset := h.settled.dropped hr s p
  refine ⟨hset, ?_, ?_⟩
  · rw [nodes_changeChildren hr, h.nodes]
  · intro t
    rw [mem_triplets_dropped h.settled.sound.linked hr hs hj hset.sound.linked, h.arcs,
      Finset.mem_sdiff, Finset.mem_singleton]

/-- Where no edge matches, nothing is removed, and the answer says so. -/
theorem Mirrors.unmatched (h : Mirrors w g m) {t : PartialTriplet} (he : m.matching w t = ∅) :
    ∃ g', outcome (pure false) g = (.ok (decide (m.matching w t).Nonempty), g') ∧
      Mirrors w g' (m.removeEdge w t) := by
  rw [Layout.removeEdge, he, Finset.sdiff_empty]
  exact ⟨g, rfl, h⟩

/-- An edge removed between two rows that are found. -/
theorem Mirrors.removeEdge_between (h : Mirrors w g m) {a b : NodeId} {i : EdgeId} {r s : Nat}
    (hi : (w.edge i).isHashable = true) (hda : g.indexed? (w.node a) = some r)
    (hdb : g.indexed? (w.node b) = some s) :
    ∃ g', outcome (do
        let some position ← edgePosition w r s i | return false
        removeEdgeAt r s position
        return true) g = (.ok (decide (m.matching w ⟨some a, some b, some i⟩).Nonempty), g') ∧
      Mirrors w g' (m.removeEdge w ⟨some a, some b, some i⟩) := by
  obtain ⟨row, hr, hsa⟩ := h.standing_of_indexed? hda
  obtain ⟨subject, hs, hsb⟩ := h.standing_of_indexed? hdb
  rw [outcome_bind_ok (h.settled.outcome_edgePosition hi hr s)]
  cases hp : (g.edgesBetween r s).findIdx? fun j => (w.edge j).alike (w.edge i) with
  | none =>
    apply h.unmatched
    rw [← Finset.not_nonempty_iff_eq_empty, h.matching_nonempty_iff hr hs hsa hsb]
    rintro ⟨j, hj, hal⟩
    rw [List.findIdx?_eq_none_iff.mp hp j hj] at hal
    exact nomatch hal
  | some p =>
    obtain ⟨hlt, hal, -⟩ := List.findIdx?_eq_some_iff_getElem.mp hp
    have hj := List.getElem?_eq_getElem hlt
    have he := h.matching_eq_singleton hr hs hsa hsb (List.mem_of_getElem? hj) hal
    refine ⟨g.changeChildren r (dropEdge s p), ?_, ?_⟩
    · dsimp only
      rw [he, outcome_bind_ok (outcome_removeEdgeAt hr hlt)]
      rfl
    · rw [Layout.removeEdge, he]
      exact h.dropped hr hs hj

theorem Mirrors.removeEdge (h : Mirrors w g m) {t : PartialTriplet}
    (ht : (Change.removeEdge t).Hashable w) :
    ∃ g', outcome (removeEdge w t) g = (.ok (decide (m.matching w t).Nonempty), g') ∧
      Mirrors w g' (m.removeEdge w t) := by
  rcases t with ⟨_ | a, _ | b, _ | i⟩
  case some.some.some =>
    obtain ⟨ha, hb, hi⟩ := ht
    unfold Graph.removeEdge
    dsimp only
    rw [outcome_bind_ok (h.settled.outcome_find (ha a rfl)),
      outcome_bind_ok (h.settled.outcome_find (hb b rfl))]
    cases hda : g.indexed? (w.node a) with
    | none => exact h.unmatched (Layout.matching_eq_empty (Or.inl (h.standing_eq_none.mpr hda)))
    | some r =>
      cases hdb : g.indexed? (w.node b) with
      | none =>
        exact h.unmatched
          (Layout.matching_eq_empty (Or.inr (Or.inl (h.standing_eq_none.mpr hdb))))
      | some s => exact h.removeEdge_between (hi i rfl) hda hdb
  all_goals exact h.unmatched (Layout.matching_eq_empty (by simp [Layout.standingPart]))

theorem Settled.placed (h : Settled w g) {p : Option NodeId}
    (hp : ∀ n ∈ p, (w.node n).isHashable = true) : Settled w (g.place w p) := by
  rcases place_cases w g p with he | ⟨n, rfl, hd, he⟩
  · rwa [he]
  · rw [he]
    exact h.inserted (hp n rfl) hd

theorem grows_place (w : Contents) (g : Graph) (p : Option NodeId) : Grows g (g.place w p) := by
  rcases place_cases w g p with he | ⟨n, -, -, he⟩
  · rw [he]
    exact Grows.refl g
  · rw [he]
    exact Grows.inserted g n _

theorem row?_place {p : Option NodeId} {r : Nat} {row : Row} (hr : g.row? r = some row) :
    (g.place w p).row? r = some row := by
  rcases place_cases w g p with he | ⟨n, -, -, he⟩
  · rwa [he]
  · rw [he]
    exact row?_inserted_of_row? hr

theorem indexed?_place_of_some {p : Option NodeId} {c : Entity} {r : Nat}
    (hd : g.indexed? c = some r) : (g.place w p).indexed? c = some r := by
  rcases place_cases w g p with he | ⟨n, -, hn, he⟩
  · rwa [he]
  · have ha : ¬(w.node n).alike c = true := by
      intro ha
      rw [indexed?_congr ha, hd] at hn
      exact nomatch hn
    rw [he, indexed?_inserted, if_neg ha, hd]

theorem indexed?_of_place (h : Settled w g) {p : Option NodeId}
    (hp : ∀ n ∈ p, (w.node n).isHashable = true) {c : Entity} {r : Nat} {row : Row}
    (hd : (g.place w p).indexed? c = some r) (hr : g.row? r = some row) :
    g.indexed? c = some r := by
  obtain ⟨row', hr', ha⟩ := (h.placed hp).indexed?_iff.mp hd
  rw [row?_place hr] at hr'
  obtain rfl := Option.some.inj hr'
  exact h.indexed?_iff.mpr ⟨row, hr, ha⟩

theorem indexed?_place_self (w : Contents) (g : Graph) (n : NodeId) :
    ∃ r, (g.place w (some n)).indexed? (w.node n) = some r := by
  cases hd : g.indexed? (w.node n) with
  | some r => exact ⟨r, by rw [place_of_indexed hd, hd]⟩
  | none => exact ⟨g.rows.length, by rw [place_of_unindexed hd, indexed?_inserted_self]⟩

theorem partRow_place (w : Contents) (g : Graph) (p q : Option NodeId) :
    ((g.place w p).place w q).partRow w p = (g.place w p).partRow w p := by
  cases p with
  | none => rfl
  | some n =>
    obtain ⟨r, hr⟩ := indexed?_place_self w g n
    unfold partRow
    dsimp only [Option.bind_some]
    rw [hr, indexed?_place_of_some hr]

theorem outcome_ensureMain {p : Option NodeId} (hp : ∀ n ∈ p, (w.node n).isHashable = true) :
    outcome (ensureMain w (g.partRow w p) p) g =
      (.ok ((g.place w p).partRow w p), g.place w p) := by
  cases p with
  | none => rfl
  | some n =>
    unfold partRow
    dsimp only [Option.bind_some]
    cases hd : g.indexed? (w.node n) with
    | some r =>
      rw [place_of_indexed hd, hd]
      rfl
    | none =>
      rw [place_of_unindexed hd, indexed?_inserted_self]
      unfold ensureMain
      rw [outcome_bind_ok (insertRow_ok (hp n rfl)), outcome_pure]

theorem Settled.outcome_ensureSubject {p q : Option NodeId} (h : Settled w (g.place w p))
    (hq : ∀ n ∈ q, (w.node n).isHashable = true) :
    outcome (ensureSubject w (g.partRow w q) q) (g.place w p) =
      (.ok (((g.place w p).place w q).partRow w q), (g.place w p).place w q) := by
  cases q with
  | none => rfl
  | some n =>
    unfold partRow
    dsimp only [Option.bind_some]
    cases hd : g.indexed? (w.node n) with
    | some r =>
      have hd' := indexed?_place_of_some (w := w) (p := p) hd
      rw [place_of_indexed hd', hd']
      rfl
    | none =>
      unfold ensureSubject
      rw [outcome_bind_ok (h.outcome_find (hq n rfl))]
      cases hd' : (g.place w p).indexed? (w.node n) with
      | some r =>
        rw [place_of_indexed hd', hd']
        rfl
      | none =>
        rw [place_of_unindexed hd', indexed?_inserted_self]
        dsimp only
        rw [outcome_bind_ok (insertRow_ok (hq n rfl)), outcome_pure]

theorem Mirrors.outcome_joined (h : Mirrors w g m) {t : PartialTriplet}
    (ht : (Change.addTriplet t).Hashable w) :
    outcome (joined w (g.partRow w t.main) (g.partRow w t.subject) t.edge) g =
      (.ok (decide (m.matching w t).Nonempty), g) := by
  obtain ⟨ha, hb, hi⟩ := ht
  have hnone (he : m.standingPart w t.main = none ∨ m.standingPart w t.subject = none ∨
      t.edge = none) : decide (m.matching w t).Nonempty = false := by
    rw [Layout.matching_eq_empty he]
    exact decide_eq_false Finset.not_nonempty_empty
  cases hda : g.partRow w t.main with
  | none =>
    rw [hnone (Or.inl (h.standingPart_eq_none.mpr hda))]
    rfl
  | some r =>
    cases hdb : g.partRow w t.subject with
    | none =>
      rw [hnone (Or.inr (Or.inl (h.standingPart_eq_none.mpr hdb)))]
      rfl
    | some s =>
      rcases t with ⟨p, q, _ | i⟩
      · rw [hnone (Or.inr (Or.inr rfl))]
        rfl
      obtain ⟨a, rfl, hda⟩ := Option.bind_eq_some_iff.mp hda
      obtain ⟨b, rfl, hdb⟩ := Option.bind_eq_some_iff.mp hdb
      obtain ⟨row, hr, hsa⟩ := h.standing_of_indexed? hda
      obtain ⟨subject, hs, hsb⟩ := h.standing_of_indexed? hdb
      unfold joined
      dsimp only
      rw [outcome_bind_ok (h.settled.outcome_edgePosition (hi i rfl) hr s), outcome_pure]
      congr 2
      rw [Bool.eq_iff_iff, decide_eq_true_iff, List.findIdx?_isSome, List.any_eq_true]
      exact (h.matching_nonempty_iff hr hs hsa hsb).symm

theorem Mirrors.standingPart_isNone (h : Mirrors w g m) (p : Option NodeId) :
    (g.partRow w p).isNone = (m.standingPart w p).isNone := by
  rw [Bool.eq_iff_iff, Option.isNone_iff_eq_none, Option.isNone_iff_eq_none]
  exact h.standingPart_eq_none.symm

/-- Placing nodes joins none of them: what joins two nodes once they are placed joined them before.
-/
theorem Mirrors.not_joined_of_placed (h : Mirrors w g m) {a b : NodeId} {i : EdgeId} {r s : Nat}
    (ha : ∀ n ∈ some a, (w.node n).isHashable = true)
    (hb : ∀ n ∈ some b, (w.node n).isHashable = true)
    (he : m.matching w ⟨some a, some b, some i⟩ = ∅)
    (hda : ((g.place w (some a)).place w (some b)).indexed? (w.node a) = some r)
    (hdb : ((g.place w (some a)).place w (some b)).indexed? (w.node b) = some s) :
    ∀ j ∈ ((g.place w (some a)).place w (some b)).edgesBetween r s,
      ¬(w.edge j).alike (w.edge i) = true := by
  intro j hj hal
  -- Edges are where they were, so both rows were there and stood for the nodes already.
  have hgrows := (grows_place w g (some a)).trans (grows_place w (g.place w (some a)) (some b))
  rw [hgrows.edges] at hj
  have before {n : NodeId} {k : Nat} {row : Row} (hr : g.row? k = some row)
      (hd : ((g.place w (some a)).place w (some b)).indexed? (w.node n) = some k) :
      g.indexed? (w.node n) = some k :=
    indexed?_of_place h.settled ha
      (indexed?_of_place (h.placed ha).settled hb hd (row?_place hr)) hr
  obtain ⟨row, hr⟩ := exists_row_of_mem_edgesBetween hj
  obtain ⟨subject, hs⟩ := h.settled.sound.linked.landing hj
  have hsa := h.standing_iff.mpr ⟨r, row, hr, rfl, before hr hda⟩
  have hsb := h.standing_iff.mpr ⟨s, subject, hs, rfl, before hs hdb⟩
  have hne := (h.matching_nonempty_iff hr hs hsa hsb).mpr ⟨j, hj, hal⟩
  rw [he] at hne
  exact Finset.not_nonempty_empty hne

/-- Joining the parts of a triplet that are placed, when no equal edge joins them yet. -/
theorem Mirrors.outcome_join (h : Mirrors w g m) {t : PartialTriplet}
    (ht : (Change.addTriplet t).Hashable w) (he : m.matching w t = ∅) :
    let g' := (g.place w t.main).place w t.subject
    let m' := (m.addPart w t.main).addPart w t.subject
    ∃ g'', outcome (join (g'.partRow w t.main) (g'.partRow w t.subject) t.edge) g' =
        (.ok ((m'.standingPart w t.main).isSome && (m'.standingPart w t.subject).isSome &&
          t.edge.isSome), g'') ∧
      Mirrors w g''
        (m'.addArc (m'.standingPart w t.main) (m'.standingPart w t.subject) t.edge) := by
  intro g' m'
  obtain ⟨ha, hb, hi⟩ := ht
  have h₁ := h.placed ha
  have h' : Mirrors w g' m' := h₁.placed hb
  cases hda : g'.partRow w t.main with
  | none =>
    rw [h'.standingPart_eq_none.mpr hda]
    exact ⟨g', rfl, h'⟩
  | some r =>
    cases hdb : g'.partRow w t.subject with
    | none =>
      rw [h'.standingPart_eq_none.mpr hdb]
      refine ⟨g', ?_, ?_⟩
      · rw [Option.isSome_none, Bool.and_false, Bool.false_and]
        rfl
      · cases m'.standingPart w t.main <;> exact h'
    | some s =>
      rcases t with ⟨p, q, _ | i⟩
      · refine ⟨g', ?_, ?_⟩
        · rw [Option.isSome_none, Bool.and_false]
          rfl
        · cases m'.standingPart w p <;> cases m'.standingPart w q <;> exact h'
      obtain ⟨a, rfl, hda⟩ := Option.bind_eq_some_iff.mp hda
      obtain ⟨b, rfl, hdb⟩ := Option.bind_eq_some_iff.mp hdb
      obtain ⟨row, hr, hsa⟩ := h'.standing_of_indexed? hda
      obtain ⟨subject, hs, hsb⟩ := h'.standing_of_indexed? hdb
      have hn := h.not_joined_of_placed ha hb he hda hdb
      have hsa' : m'.standingPart w (some a) = some row.node := hsa
      have hsb' : m'.standingPart w (some b) = some subject.node := hsb
      rw [hsa', hsb']
      exact ⟨g'.changeChildren r (appendEdge s i), Graph.outcome_join hr s i,
        h'.appended hr hs (hi i rfl) hn⟩

theorem Mirrors.addTriplet (h : Mirrors w g m) {t : PartialTriplet}
    (ht : (Change.addTriplet t).Hashable w) :
    let m' := (m.addPart w t.main).addPart w t.subject
    ∃ g', outcome (addTriplet w t) g = (.ok (!decide (m.matching w t).Nonempty &&
        ((m.standingPart w t.main).isNone && t.main.isSome ||
          (m.standingPart w t.subject).isNone && t.subject.isSome ||
          (m'.standingPart w t.main).isSome && (m'.standingPart w t.subject).isSome &&
            t.edge.isSome)), g') ∧
      Mirrors w g' (m.addTriplet w t) := by
  intro m'
  obtain ⟨ha, hb, hi⟩ := ht
  have h₁ := h.placed ha
  unfold Graph.addTriplet Layout.addTriplet
  rw [outcome_bind_ok (h.settled.outcome_findPart ha),
    outcome_bind_ok (h.settled.outcome_findPart hb),
    outcome_bind_ok (h.outcome_joined ⟨ha, hb, hi⟩)]
  by_cases hne : (m.matching w t).Nonempty
  · rw [if_pos hne, decide_eq_true hne]
    exact ⟨g, rfl, h⟩
  · rw [if_neg hne, decide_eq_false hne]
    obtain ⟨g', hg', hm'⟩ := h.outcome_join ⟨ha, hb, hi⟩ (Finset.not_nonempty_iff_eq_empty.mp hne)
    refine ⟨g', ?_, hm'⟩
    simp only [Bool.false_eq_true, if_false]
    rw [partRow_place] at hg'
    rw [outcome_bind_ok (outcome_ensureMain ha),
      outcome_bind_ok (h₁.settled.outcome_ensureSubject hb), outcome_bind_ok hg', outcome_pure,
      h.standingPart_isNone, h.standingPart_isNone]
    rfl

end Graph

end GraphTemplate
