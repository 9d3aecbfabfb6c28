import GraphTemplate.Proofs.Graph.Parts
import Mathlib.Data.List.Pairwise

/-! Graphs of nodes and triplets, whose parts may be absent. What they come to is a set of contents
and a set of triples of contents, each stored once; only the order of the listings tells in which
order they were given. -/
namespace GraphTemplate

def firsts (w : Contents) : List NodeId → List NodeId
  | [] => []
  | n :: ns => n :: (firsts w ns).filter fun k => !(w.node n).alike (w.node k)

namespace Triplet

variable {w : Contents} {t u v : Triplet NodeId EdgeId}

theorem Alike.symm (h : t.Alike w u) : u.Alike w t :=
  ⟨Entity.alike_symm h.main, Entity.alike_symm h.subject, Entity.alike_symm h.edge⟩

theorem Alike.trans (h : t.Alike w u) (k : u.Alike w v) : t.Alike w v :=
  ⟨Entity.alike_trans h.main k.main, Entity.alike_trans h.subject k.subject,
    Entity.alike_trans h.edge k.edge⟩

end Triplet

namespace Layout

open GraphTemplate.Graph (PartialTriplet)

variable {w : Contents} {m : Layout}

def unmet (w : Contents) (ks : List NodeId) (n : NodeId) : Bool :=
  !ks.any fun k => (w.node k).alike (w.node n)

theorem standing_isSome_iff {n : NodeId} :
    (m.standing w n).isSome = true ↔ unmet w m.nodes n = false := by
  simp [standing, unmet]

theorem unmet_congr {ks : List NodeId} {a b : NodeId}
    (h : (w.node a).alike (w.node b) = true) : unmet w ks a = unmet w ks b := by
  unfold unmet
  congr 2
  funext k
  rw [Entity.alike_comm, Entity.alike_congr h, Entity.alike_comm]

/-- Adding nodes appends the first of each content that has not been met. -/
theorem nodes_addNodes (w : Contents) (m : Layout) (ns : List NodeId) :
    (m.addNodes w ns).nodes = m.nodes ++ (firsts w ns).filter (unmet w m.nodes) := by
  induction ns generalizing m with
  | nil => exact (List.append_nil _).symm
  | cons n ns ih =>
    rw [addNodes, List.foldl_cons, ← addNodes, ih, firsts]
    by_cases hn : (m.standing w n).isSome = true
    · have hsame : m.addNode w n = m := if_pos hn
      have hmet := standing_isSome_iff.mp hn
      rw [hsame, List.filter_cons_of_neg (by rw [hmet]; exact Bool.false_ne_true),
        List.filter_filter]
      congr 1
      refine List.filter_congr fun k _ => ?_
      -- What has the content of `n` has been met as well, so that nothing more is left out.
      cases hk : (w.node n).alike (w.node k) with
      | true => rw [← unmet_congr hk, hmet, Bool.false_and]
      | false => rw [Bool.not_false, Bool.and_true]
    · have hnew : m.addNode w n = { m with nodes := m.nodes ++ [n] } := if_neg hn
      have hunmet : unmet w m.nodes n = true := by
        rw [standing_isSome_iff, Bool.not_eq_false] at hn
        exact hn
      rw [hnew, List.filter_cons_of_pos hunmet, List.filter_filter, List.append_assoc,
        List.singleton_append]
      congr 2
      refine List.filter_congr fun k _ => ?_
      simp [unmet]

/-- Nodes and triplets taken from their lists leave the nodes that their mentions would. -/
theorem nodes_addTriplets (w : Contents) (m : Layout) (ts : List PartialTriplet) :
    (m.addTriplets w ts).nodes = (m.addNodes w (ts.flatMap parts)).nodes := by
  induction ts generalizing m with
  | nil => rfl
  | cons t ts ih =>
    have happend : m.addNodes w (parts t ++ ts.flatMap parts) =
        (m.addNodes w (parts t)).addNodes w (ts.flatMap parts) := List.foldl_append
    rw [List.flatMap_cons, happend, addTriplets, List.foldl_cons, ← addTriplets, ih,
      nodes_addNodes, nodes_addNodes w (m.addNodes w (parts t)), nodes_addTriplet]

theorem Apart.node_eq (h : m.Apart w) {a b : NodeId} (ha : a ∈ m.nodes) (hb : b ∈ m.nodes)
    (hab : (w.node a).alike (w.node b) = true) : a = b := by
  by_contra hne
  have : Std.Symm fun a b => (w.node a).alike (w.node b) = false := ⟨fun a b h => by
    rwa [Entity.alike_comm]⟩
  rw [h.nodes.forall ha hb hne] at hab
  cases hab

/-- No two arcs have the same contents. -/
theorem Apart.arc_eq (h : m.Apart w) {t u : Triplet NodeId EdgeId} (ht : t ∈ m.arcs)
    (hu : u ∈ m.arcs) (htu : t.Alike w u) : t = u := by
  obtain ⟨htm, hts⟩ := h.ends t ht
  obtain ⟨hum, hus⟩ := h.ends u hu
  exact h.arcs t ht u hu (h.node_eq htm hum htu.main) (h.node_eq hts hus htu.subject) htu.edge

end Layout

namespace Graph

variable {w : Contents} {g g' : Graph} {m : Layout}

theorem Mirrors.exists_addNodes (h : Mirrors w g m) {ns : List NodeId}
    (hns : ∀ n ∈ ns, (w.node n).isHashable = true) :
    ∃ g', outcome (addNodes w ns) g = (.ok (), g') ∧ Mirrors w g' (m.addNodes w ns) := by
  induction ns generalizing g m with
  | nil => exact ⟨g, rfl, h⟩
  | cons n ns ih =>
    obtain ⟨hn, hns⟩ := List.forall_mem_cons.mp hns
    have hplaced := h.placed (p := some n) fun k hk => Option.some.inj hk ▸ hn
    obtain ⟨g', hg', hm'⟩ := ih hplaced hns
    refine ⟨g', ?_, hm'⟩
    unfold addNodes
    rw [outcome_bind_ok (h.addNode hn), hg']

theorem Mirrors.exists_addTriplets (h : Mirrors w g m) {ts : List PartialTriplet}
    (hts : ∀ t ∈ ts, (Change.addTriplet t).Hashable w) :
    ∃ g', outcome (addTriplets w ts) g = (.ok (), g') ∧ Mirrors w g' (m.addTriplets w ts) := by
  induction ts generalizing g m with
  | nil => exact ⟨g, rfl, h⟩
  | cons t ts ih =>
    obtain ⟨ht, hts⟩ := List.forall_mem_cons.mp hts
    obtain ⟨g₁, hg₁, hm₁⟩ := h.addTriplet ht
    obtain ⟨g', hg', hm'⟩ := ih hm₁ hts
    refine ⟨g', ?_, hm'⟩
    unfold addTriplets
    rw [outcome_bind_ok hg₁, hg']

theorem ofParts_eq_ok {ns : List NodeId} {ts : List PartialTriplet}
    (h : outcome (do addNodes w ns; addTriplets w ts) empty = (.ok (), g)) :
    ofParts w ns ts = .ok g := by
  unfold ofParts
  dsimp only
  change (match outcome (do addNodes w ns; addTriplets w ts) empty with
    | (.ok _, g) => Except.ok g
    | (.error f, _) => .error f) = _
  rw [h]

theorem exists_ofParts {ns : List NodeId} {ts : List PartialTriplet}
    (hns : ∀ n ∈ ns, (w.node n).isHashable = true)
    (hts : ∀ t ∈ ts, (Change.addTriplet t).Hashable w) :
    ∃ g, ofParts w ns ts = .ok g ∧
      Mirrors w g ((Layout.empty.addNodes w ns).addTriplets w ts) := by
  obtain ⟨g₁, hg₁, hm₁⟩ := (mirrors_empty w).exists_addNodes hns
  obtain ⟨g, hg, hm⟩ := hm₁.exists_addTriplets hts
  refine ⟨g, ofParts_eq_ok ?_, hm⟩
  rw [outcome_bind_ok hg₁, hg]

def mentions (ns : List NodeId) (ts : List PartialTriplet) : List NodeId :=
  ns ++ ts.flatMap Layout.parts

/-- A graph of just the contents of nodes and triplets, each of them once. -/
structure Collects (w : Contents) (ns : List NodeId) (ts : List PartialTriplet) (g : Graph) :
    Prop where
  nodes : g.nodes = firsts w (mentions ns ts)
  apart : g.nodes.Pairwise fun a b => (w.node a).alike (w.node b) = false
  node : ∀ n ∈ mentions ns ts, ∃ k ∈ g.nodes, (w.node k).alike (w.node n) = true
  mention : ∀ k ∈ g.nodes, k ∈ mentions ns ts
  listed : g.allTriplets w = .ok g.triplets
  once : g.triplets.Nodup ∧ ∀ u ∈ g.triplets, ∀ v ∈ g.triplets, u.Alike w v → u = v
  triplet : ∀ t : Triplet NodeId EdgeId, t.full ∈ ts → ∃ u ∈ g.triplets, u.Alike w t
  source : ∀ u ∈ g.triplets, ∃ t : Triplet NodeId EdgeId, t.full ∈ ts ∧ u.Alike w t

theorem Mirrors.collects {ns : List NodeId} {ts : List PartialTriplet}
    (h : Mirrors w g ((Layout.empty.addNodes w ns).addTriplets w ts)) : Collects w ns ts g := by
  have hnodes : ((Layout.empty.addNodes w ns).addTriplets w ts).nodes =
      (Layout.empty.addNodes w (mentions ns ts)).nodes := by
    have happend : Layout.empty.addNodes w (mentions ns ts) =
        (Layout.empty.addNodes w ns).addNodes w (ts.flatMap Layout.parts) := List.foldl_append
    rw [Layout.nodes_addTriplets, happend]
  have hholds := Layout.holds_addNodes w .empty (mentions ns ts)
  have hspans := Layout.spans_addTriplets w (Layout.empty.addNodes w ns) ts
  have harcs := (Layout.holds_addNodes w .empty ns).arcs
  constructor
  · rw [h.nodes, hnodes, Layout.nodes_addNodes]
    exact List.filter_eq_self.mpr fun _ _ => rfl
  · rw [h.nodes]
    exact h.apart.nodes
  · intro n hn
    obtain ⟨k, hk⟩ := hholds.standing n hn
    rw [h.nodes, hnodes]
    exact ⟨k, Layout.of_standing hk⟩
  · intro k hk
    rw [h.nodes, hnodes] at hk
    exact (hholds.origin k hk).resolve_left List.not_mem_nil
  · exact h.settled.sound.linked.allTriplets_eq w
  · refine ⟨h.settled.sound.linked.nodup_triplets, fun u hu v hv huv => ?_⟩
    exact h.apart.arc_eq ((h.arcs u).mp hu) ((h.arcs v).mp hv) huv
  · intro t ht
    obtain ⟨u, hu, ha⟩ := hspans.arcs t ht
    exact ⟨u, (h.arcs u).mpr hu, ha⟩
  · intro u hu
    rcases hspans.origin u ((h.arcs u).mp hu) with hu | ht
    · rw [harcs] at hu
      exact absurd hu (Finset.notMem_empty u)
    · exact ht

structure SameContents (w : Contents) (g g' : Graph) : Prop where
  nodes : ∀ k ∈ g.nodes, ∃ k' ∈ g'.nodes, (w.node k').alike (w.node k) = true
  triplets : ∀ u ∈ g.triplets, ∃ u' ∈ g'.triplets, u'.Alike w u

theorem Collects.sameContents {ns ns' : List NodeId} {ts ts' : List PartialTriplet}
    (h : Collects w ns ts g) (h' : Collects w ns' ts' g')
    (hns : ∀ n ∈ mentions ns ts, n ∈ mentions ns' ts') (hts : ∀ t ∈ ts, t ∈ ts') :
    SameContents w g g' where
  nodes k hk := h'.node k (hns k (h.mention k hk))
  triplets u hu := by
    obtain ⟨t, ht, hut⟩ := h.source u hu
    obtain ⟨u', hu', hut'⟩ := h'.triplet t (hts _ ht)
    exact ⟨u', hu', hut'.trans hut.symm⟩

/-- Nodes and triplets come to a graph of just their contents. In another order, they come to one
with the same contents. -/
theorem ofParts_collects {ns : List NodeId} {ts : List PartialTriplet}
    (hns : ∀ n ∈ ns, (w.node n).isHashable = true)
    (hts : ∀ t ∈ ts, (Change.addTriplet t).Hashable w) :
    ∃ g, ofParts w ns ts = .ok g ∧ Collects w ns ts g ∧
      ∀ ns' ts', ns.Perm ns' → ts.Perm ts' → ∃ g', ofParts w ns' ts' = .ok g' ∧
        Collects w ns' ts' g' ∧ SameContents w g g' ∧ SameContents w g' g := by
  obtain ⟨g, hg, hm⟩ := exists_ofParts hns hts
  refine ⟨g, hg, hm.collects, fun ns' ts' hperm hperm' => ?_⟩
  have hns' : ∀ n ∈ ns', (w.node n).isHashable = true :=
    fun n hn => hns n (hperm.mem_iff.mpr hn)
  have hts' : ∀ t ∈ ts', (Change.addTriplet t).Hashable w :=
    fun t ht => hts t (hperm'.mem_iff.mpr ht)
  obtain ⟨g', hg', hm'⟩ := exists_ofParts hns' hts'
  have hmentions : (mentions ns ts).Perm (mentions ns' ts') :=
    hperm.append (hperm'.flatMap_right Layout.parts)
  refine ⟨g', hg', hm'.collects, ?_, ?_⟩
  · exact hm.collects.sameContents hm'.collects (fun n => hmentions.mem_iff.mp)
      fun t => hperm'.mem_iff.mp
  · exact hm'.collects.sameContents hm.collects (fun n => hmentions.mem_iff.mpr)
      fun t => hperm'.mem_iff.mpr

def parityTriplets : List PartialTriplet :=
  [⟨some 4, some 1, some 0⟩, ⟨some 3, none, some 1⟩, ⟨some 2, some 3, some 5⟩,
    ⟨none, some 6, none⟩]

theorem ofParts_parity :
    (∀ n ∈ [2, 0], (parityContents.node n).isHashable = true) ∧
      (∀ t ∈ parityTriplets, (Change.addTriplet t).Hashable parityContents) ∧
      ∃ g g', ofParts parityContents [2, 0] parityTriplets = .ok g ∧ g.nodes = [2, 1] ∧
        ofParts parityContents [0, 2] parityTriplets.reverse = .ok g' ∧ g'.nodes = [0, 3] ∧
        SameContents parityContents g g' := by
  have hns : ∀ n ∈ [2, 0], (parityContents.node n).isHashable = true := by
    simp [parityContents, Entity.isHashable, Value.entriesFault?]
  have hts : ∀ t ∈ parityTriplets, (Change.addTriplet t).Hashable parityContents := by
    simp [parityTriplets, Change.Hashable, parityContents, Entity.isHashable, Value.entriesFault?]
  obtain ⟨g, hg, hc, hperm⟩ := ofParts_collects hns hts
  obtain ⟨g', hg', hc', hsame, -⟩ :=
    hperm [0, 2] parityTriplets.reverse (.swap 0 2 []) (List.reverse_perm _).symm
  refine ⟨hns, hts, g, g', hg, ?_, hg', ?_, hsame⟩
  · rw [hc.nodes]
    decide +kernel
  · rw [hc'.nodes]
    decide +kernel

end Graph

end GraphTemplate
