import GraphTemplate.Proofs.Graph.Simulation

/-! Graphs of given parts. If nodes and full triplets among them come to a graph at all, it has the
contents of all of them and no others. -/
namespace GraphTemplate

namespace Triplet

def full (t : Triplet NodeId EdgeId) : Graph.PartialTriplet :=
  ⟨some t.main, some t.subject, some t.edge⟩

theorem full_inj {t u : Triplet NodeId EdgeId} (h : t.full = u.full) : t = u := by
  obtain ⟨_, _, _⟩ := t
  obtain ⟨_, _, _⟩ := u
  cases h
  rfl

structure Alike (w : Contents) (t u : Triplet NodeId EdgeId) : Prop where
  main : (w.node t.main).alike (w.node u.main) = true
  subject : (w.node t.subject).alike (w.node u.subject) = true
  edge : (w.edge t.edge).alike (w.edge u.edge) = true

end Triplet

namespace Layout

open GraphTemplate.Graph (PartialTriplet)

variable {w : Contents} {m : Layout}

theorem exists_standing_addNode (w : Contents) (m : Layout) (n : NodeId) :
    ∃ k, (m.addNode w n).standing w n = some k := by
  unfold addNode
  split
  · next h => exact Option.isSome_iff_exists.mp h
  · refine Option.isSome_iff_exists.mp ?_
    simp [standing, Entity.alike_refl]

theorem standing_addNode {n n' k : NodeId} (h : m.standing w n = some k) :
    (m.addNode w n').standing w n = some k := by
  unfold addNode
  split
  · exact h
  · simp only [standing] at h ⊢
    rw [List.find?_append, h]
    rfl

theorem mem_nodes_addNode {n k : NodeId} (h : k ∈ (m.addNode w n).nodes) :
    k ∈ m.nodes ∨ k = n := by
  unfold addNode at h
  split at h
  · exact Or.inl h
  · simpa using h

theorem arcs_addNode (n : NodeId) : (m.addNode w n).arcs = m.arcs := by
  unfold addNode
  split <;> rfl

def addNodes (w : Contents) (m : Layout) (ns : List NodeId) : Layout := ns.foldl (addNode w) m

/-- Every node that was added has one that stands for it, and no other was added. -/
structure Holds (w : Contents) (m : Layout) (ns : List NodeId) (m' : Layout) : Prop where
  keeps : ∀ {n k}, m.standing w n = some k → m'.standing w n = some k
  standing : ∀ n ∈ ns, ∃ k, m'.standing w n = some k
  origin : ∀ k ∈ m'.nodes, k ∈ m.nodes ∨ k ∈ ns
  arcs : m'.arcs = m.arcs

theorem holds_addNodes (w : Contents) (m : Layout) (ns : List NodeId) :
    Holds w m ns (m.addNodes w ns) := by
  induction ns generalizing m with
  | nil => exact ⟨id, fun n hn => absurd hn List.not_mem_nil, fun k hk => Or.inl hk, rfl⟩
  | cons n ns ih =>
    obtain ⟨hkeeps, hstanding, horigin, harcs⟩ := ih (m.addNode w n)
    refine ⟨fun hk => hkeeps (standing_addNode hk), ?_, ?_, harcs.trans (arcs_addNode n)⟩
    · intro n' hn'
      rcases List.mem_cons.mp hn' with rfl | hn'
      · obtain ⟨k, hk⟩ := exists_standing_addNode w m n'
        exact ⟨k, hkeeps hk⟩
      · exact hstanding n' hn'
    · intro k hk
      rcases horigin k hk with hk | hk
      · rcases mem_nodes_addNode hk with hk | rfl
        · exact Or.inl hk
        · exact Or.inr List.mem_cons_self
      · exact Or.inr (List.mem_cons_of_mem n hk)

theorem mem_matching_full {t u : Triplet NodeId EdgeId} (h : u ∈ m.matching w t.full) :
    u ∈ m.arcs ∧ u.Alike w t := by
  obtain ⟨hu, hm, hs, he⟩ := Finset.mem_filter.mp h
  exact ⟨hu, (of_standing hm).2, (of_standing hs).2, he⟩

def parts (t : PartialTriplet) : List NodeId := t.main.toList ++ t.subject.toList

theorem addNodes_parts (w : Contents) (m : Layout) (t : PartialTriplet) :
    m.addNodes w (parts t) = (m.addPart w t.main).addPart w t.subject := by
  obtain ⟨p, q, e⟩ := t
  cases p <;> cases q <;> rfl

theorem addNodes_of_standing {ns : List NodeId} (h : ∀ n ∈ ns, ∃ k, m.standing w n = some k) :
    m.addNodes w ns = m := by
  induction ns with
  | nil => rfl
  | cons n ns ih =>
    obtain ⟨hn, hns⟩ := List.forall_mem_cons.mp h
    have hfirst : m.addNode w n = m := if_pos (Option.isSome_iff_exists.mpr hn)
    rw [addNodes, List.foldl_cons, hfirst]
    exact ih hns

theorem mem_parts {t : PartialTriplet} {n : NodeId} :
    n ∈ parts t ↔ t.main = some n ∨ t.subject = some n := by
  simp [parts]

theorem exists_standing_of_matching {t : PartialTriplet} (h : (m.matching w t).Nonempty) :
    ∀ n ∈ parts t, ∃ k, m.standing w n = some k := by
  obtain ⟨u, hu⟩ := h
  obtain ⟨-, hmain, hsubject, -⟩ := Finset.mem_filter.mp hu
  intro n hn
  rcases mem_parts.mp hn with hn | hn
  · rw [hn] at hmain
    exact ⟨_, hmain⟩
  · rw [hn] at hsubject
    exact ⟨_, hsubject⟩

/-- The nodes of a triplet are added whether an arc is or not. -/
theorem nodes_addTriplet (w : Contents) (m : Layout) (t : PartialTriplet) :
    (m.addTriplet w t).nodes = (m.addNodes w (parts t)).nodes := by
  unfold addTriplet
  split
  · next hne => rw [addNodes_of_standing (exists_standing_of_matching hne)]
  · rw [addNodes_parts]
    exact nodes_addArc _ _ _ _

theorem mem_addArc {a b : Option NodeId} {e : Option EdgeId} {u : Triplet NodeId EdgeId} :
    u ∈ (m.addArc a b e).arcs ↔
      u ∈ m.arcs ∨ a = some u.main ∧ b = some u.subject ∧ e = some u.edge := by
  obtain ⟨k, l, i⟩ := u
  cases a <;> cases b <;> cases e <;> simp [addArc, or_comm, eq_comm]

def addTriplets (w : Contents) (m : Layout) (ts : List PartialTriplet) : Layout :=
  ts.foldl (addTriplet w) m

/-- For every full triplet that was added there is an arc like it, and no other arc was added. -/
structure Spans (w : Contents) (m : Layout) (ts : List PartialTriplet) (m' : Layout) : Prop where
  keeps : ∀ u ∈ m.arcs, u ∈ m'.arcs
  arcs : ∀ t : Triplet NodeId EdgeId, t.full ∈ ts → ∃ u ∈ m'.arcs, u.Alike w t
  origin : ∀ u ∈ m'.arcs, u ∈ m.arcs ∨ ∃ t : Triplet NodeId EdgeId, t.full ∈ ts ∧ u.Alike w t

theorem spans_addTriplet (w : Contents) (m : Layout) (t : PartialTriplet) :
    Spans w m [t] (m.addTriplet w t) := by
  unfold addTriplet
  split
  · next hne =>
    obtain ⟨u, hu⟩ := hne
    refine ⟨fun _ => id, fun t' ht' => ?_, fun _ => Or.inl⟩
    obtain rfl := List.mem_singleton.mp ht'
    exact ⟨u, mem_matching_full hu⟩
  · have hholds := holds_addNodes w m (parts t)
    rw [addNodes_parts] at hholds
    generalize (m.addPart w t.main).addPart w t.subject = m' at hholds
    dsimp only
    refine ⟨fun u hu => mem_addArc.mpr (Or.inl (hholds.arcs ▸ hu)), fun t' ht' => ?_, ?_⟩
    · obtain rfl := List.mem_singleton.mp ht'
      obtain ⟨k, hk⟩ := hholds.standing t'.main (mem_parts.mpr (Or.inl rfl))
      obtain ⟨l, hl⟩ := hholds.standing t'.subject (mem_parts.mpr (Or.inr rfl))
      exact ⟨⟨k, l, t'.edge⟩, mem_addArc.mpr (Or.inr ⟨hk, hl, rfl⟩), (of_standing hk).2,
        (of_standing hl).2, Entity.alike_refl _⟩
    · intro u hu
      rcases mem_addArc.mp hu with hu | ⟨hmain, hsubject, hedge⟩
      · exact Or.inl (hholds.arcs ▸ hu)
      · obtain ⟨a, ha, hk⟩ := Option.bind_eq_some_iff.mp hmain
        obtain ⟨b, hb, hl⟩ := Option.bind_eq_some_iff.mp hsubject
        refine Or.inr ⟨⟨a, b, u.edge⟩, ?_, (of_standing hk).2, (of_standing hl).2,
          Entity.alike_refl _⟩
        rw [List.mem_singleton, Triplet.full, ← ha, ← hb, ← hedge]

theorem spans_addTriplets (w : Contents) (m : Layout) (ts : List PartialTriplet) :
    Spans w m ts (m.addTriplets w ts) := by
  induction ts generalizing m with
  | nil => exact ⟨fun _ => id, fun t ht => absurd ht List.not_mem_nil, fun _ => Or.inl⟩
  | cons t ts ih =>
    have hfirst := spans_addTriplet w m t
    have hrest := ih (m.addTriplet w t)
    refine ⟨fun u hu => hrest.keeps u (hfirst.keeps u hu), fun t' ht' => ?_, fun u hu => ?_⟩
    · rcases List.mem_cons.mp ht' with he | ht'
      · obtain ⟨u, hu, ha⟩ := hfirst.arcs t' (List.mem_singleton.mpr he)
        exact ⟨u, hrest.keeps u hu, ha⟩
      · exact hrest.arcs t' ht'
    · rcases hrest.origin u hu with hu | ⟨t', ht', ha⟩
      · rcases hfirst.origin u hu with hu | ⟨t', ht', ha⟩
        · exact Or.inl hu
        · exact Or.inr ⟨t', List.mem_cons.mpr (Or.inl (List.mem_singleton.mp ht')), ha⟩
      · exact Or.inr ⟨t', List.mem_cons_of_mem t ht', ha⟩

end Layout

namespace Graph

variable {w : Contents} {g g' : Graph} {m : Layout}

theorem Settled.isHashable_of_find (h : Settled w g) {n : NodeId} {o : Option Nat}
    (ho : outcome (find w n) g = (.ok o, g')) : (w.node n).isHashable = true := by
  cases hrow : g.rowOf? n with
  | some r =>
    obtain ⟨row, hr, rfl⟩ := row_of_rowOf? hrow
    exact h.hashable hr
  | none => exact isHashable_of_unstored h.sound.indexed hrow ho

theorem Mirrors.of_addNodes (h : Mirrors w g m) {ns : List NodeId} {u : Unit}
    (ho : outcome (addNodes w ns) g = (.ok u, g')) : Mirrors w g' (m.addNodes w ns) := by
  induction ns generalizing g m with
  | nil =>
    obtain ⟨-, rfl⟩ := Prod.mk.inj ho
    exact h
  | cons n ns ih =>
    obtain ⟨b, g₁, hadd, hrest⟩ := exists_of_outcome_bind ho
    have hn : (w.node n).isHashable = true := by
      obtain ⟨o, g₂, hfind, -⟩ := exists_of_outcome_bind hadd
      exact h.settled.isHashable_of_find hfind
    obtain ⟨-, rfl⟩ := Prod.mk.inj ((h.addNode hn).symm.trans hadd)
    exact ih (h.placed fun k hk => Option.some.inj hk ▸ hn) hrest

theorem Mirrors.exists_row (h : Mirrors w g m) {n k : NodeId} (hk : m.standing w n = some k) :
    ∃ r, g.indexed? (w.node n) = some r := by
  obtain ⟨r, -, -, -, hd⟩ := h.standing_iff.mp hk
  exact ⟨r, hd⟩

/-- Both ends are found, so that the edge is looked at. -/
theorem Mirrors.hashable_of_addTriplet (h : Mirrors w g m) {t : Triplet NodeId EdgeId}
    {k l : NodeId} (hk : m.standing w t.main = some k) (hl : m.standing w t.subject = some l)
    {b : Bool} (ho : outcome (Graph.addTriplet w t.full) g = (.ok b, g')) :
    (Change.addTriplet t.full).Hashable w := by
  unfold Graph.addTriplet at ho
  obtain ⟨o, g₁, hmain, ho⟩ := exists_of_outcome_bind ho
  have ha := h.settled.isHashable_of_find hmain
  obtain ⟨hr, rfl⟩ := Prod.mk.inj ((h.settled.outcome_find ha).symm.trans hmain)
  obtain ⟨o', g₂, hsubject, ho⟩ := exists_of_outcome_bind ho
  have hb := h.settled.isHashable_of_find hsubject
  obtain ⟨hs, rfl⟩ := Prod.mk.inj ((h.settled.outcome_find hb).symm.trans hsubject)
  obtain ⟨r, hdr⟩ := h.exists_row hk
  obtain ⟨s, hds⟩ := h.exists_row hl
  rw [hdr] at hr
  rw [hds] at hs
  obtain rfl := Except.ok.inj hr
  obtain rfl := Except.ok.inj hs
  obtain ⟨j, g₃, hj, -⟩ := exists_of_outcome_bind ho
  obtain ⟨p, g₄, hp, -⟩ := exists_of_outcome_bind hj
  obtain ⟨c, g₅, hc, -⟩ := exists_of_outcome_bind hp
  have hi := (Entity.hashed_eq_ok_iff.mp (Prod.mk.inj hc).1).1
  refine ⟨?_, ?_, ?_⟩
  · exact fun n hn => Option.some.inj hn ▸ ha
  · exact fun n hn => Option.some.inj hn ▸ hb
  · exact fun i hi' => Option.some.inj hi' ▸ hi

/-- Nothing is to be added for the ends, as they are all there. -/
theorem Mirrors.of_addTriplets (h : Mirrors w g m) {ts : List (Triplet NodeId EdgeId)} {u : Unit}
    (hends : ∀ t ∈ ts, (∃ k, m.standing w t.main = some k) ∧ ∃ l, m.standing w t.subject = some l)
    (ho : outcome (addTriplets w (ts.map Triplet.full)) g = (.ok u, g')) :
    Mirrors w g' (m.addTriplets w (ts.map Triplet.full)) ∧
      (m.addTriplets w (ts.map Triplet.full)).nodes = m.nodes := by
  induction ts generalizing g m with
  | nil =>
    obtain ⟨-, rfl⟩ := Prod.mk.inj ho
    exact ⟨h, rfl⟩
  | cons t ts ih =>
    obtain ⟨⟨⟨k, hk⟩, l, hl⟩, hends⟩ := List.forall_mem_cons.mp hends
    obtain ⟨b, g₁, hadd, hrest⟩ := exists_of_outcome_bind ho
    obtain ⟨g₂, hg₂, hm⟩ := h.addTriplet (h.hashable_of_addTriplet hk hl hadd)
    obtain ⟨-, rfl⟩ := Prod.mk.inj (hg₂.symm.trans hadd)
    have hstanding : ∀ n ∈ Layout.parts t.full, ∃ k, m.standing w n = some k := by
      intro n hn
      rcases Layout.mem_parts.mp hn with hn | hn <;> cases hn
      · exact ⟨k, hk⟩
      · exact ⟨l, hl⟩
    have hnodes : (m.addTriplet w t.full).nodes = m.nodes := by
      rw [Layout.nodes_addTriplet, Layout.addNodes_of_standing hstanding]
    obtain ⟨hm', hnodes'⟩ := ih hm (by simpa only [Layout.standing, hnodes] using hends) hrest
    exact ⟨hm', hnodes'.trans hnodes⟩

/-- What nodes and triplets among them come to: their contents and nothing else. -/
theorem ofParts_exact {ns : List NodeId} {ts : List (Triplet NodeId EdgeId)}
    (hends : ∀ t ∈ ts, t.main ∈ ns ∧ t.subject ∈ ns)
    (h : ofParts w ns (ts.map Triplet.full) = .ok g) :
    (∀ n ∈ ns, ∃ k ∈ g.nodes, (w.node k).alike (w.node n) = true) ∧ (∀ k ∈ g.nodes, k ∈ ns) ∧
      (∀ t ∈ ts, ∃ u ∈ g.triplets, u.Alike w t) ∧ ∀ u ∈ g.triplets, ∃ t ∈ ts, u.Alike w t := by
  have hrun : outcome (do addNodes w ns; addTriplets w (ts.map Triplet.full)) empty =
      (.ok (), g) := by
    unfold ofParts at h
    dsimp only at h
    split at h
    · next hout =>
      obtain rfl := Except.ok.inj h
      exact hout
    · exact nomatch h
  obtain ⟨u, g₁, hnodes, htriplets⟩ := exists_of_outcome_bind hrun
  have hm₁ := (mirrors_empty w).of_addNodes hnodes
  have hholds := Layout.holds_addNodes w .empty ns
  have hstanding : ∀ t ∈ ts,
      (∃ k, (Layout.empty.addNodes w ns).standing w t.main = some k) ∧
        ∃ l, (Layout.empty.addNodes w ns).standing w t.subject = some l := by
    intro t ht
    obtain ⟨hmain, hsubject⟩ := hends t ht
    exact ⟨hholds.standing _ hmain, hholds.standing _ hsubject⟩
  obtain ⟨hm, hsame⟩ := hm₁.of_addTriplets hstanding htriplets
  have hspans := Layout.spans_addTriplets w (Layout.empty.addNodes w ns) (ts.map Triplet.full)
  rw [hm.nodes, hsame]
  refine ⟨?_, ?_, ?_, ?_⟩
  · intro n hn
    obtain ⟨k, hk⟩ := hholds.standing n hn
    exact ⟨k, Layout.of_standing hk⟩
  · intro k hk
    exact (hholds.origin k hk).resolve_left List.not_mem_nil
  · intro t ht
    obtain ⟨u, hu, ha⟩ := hspans.arcs t (List.mem_map_of_mem ht)
    exact ⟨u, (hm.arcs u).mpr hu, ha⟩
  · intro u hu
    rcases hspans.origin u ((hm.arcs u).mp hu) with hu | ⟨t, ht, ha⟩
    · rw [hholds.arcs] at hu
      exact absurd hu (Finset.notMem_empty u)
    · obtain ⟨t', ht', he⟩ := List.mem_map.mp ht
      obtain rfl := Triplet.full_inj he
      exact ⟨t', ht', ha⟩

end Graph

end GraphTemplate
