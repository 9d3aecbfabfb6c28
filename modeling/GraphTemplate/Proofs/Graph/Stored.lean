import GraphTemplate.Proofs.Graph.Lookups
import GraphTemplate.Proofs.Graph.Settled

/-! What edits in place leave as it is. A node that is stored keeps its row and its edges, however
the contents of nodes and edges change and coincide, and an operation that is given the node itself
acts on that row. -/
namespace GraphTemplate

structure Contents.Hashable (w : Contents) : Prop where
  node : ∀ n, (w.node n).isHashable = true
  edge : ∀ i, (w.edge i).isHashable = true

namespace Graph

variable {w : Contents} {g g' : Graph} {n a b : NodeId} {i : EdgeId}

theorem Contents.Hashable.not_unhashable (h : w.Hashable) (f : Fault) : ¬Unhashable w f := by
  rintro (⟨n, hf⟩ | ⟨i, hf⟩)
  · rw [Entity.hashed_of_isHashable (h.node n)] at hf
    exact nomatch hf
  · rw [Entity.hashed_of_isHashable (h.edge i)] at hf
    exact nomatch hf

theorem Safe.exists_ok {α : Type} {x : Except Fault α} (h : Safe w x g) (hw : w.Hashable) :
    ∃ a, x = .ok a := by
  cases x with
  | ok a => exact ⟨a, rfl⟩
  | error f => exact absurd (h.fault rfl) (Contents.Hashable.not_unhashable hw f)

theorem rowFor?_of_mem {index : List (Entity × Nat)} (h : Separate index) {e : Entity × Nat}
    (he : e ∈ index) : rowFor? index e.1 = some e.2 := by
  induction index with
  | nil => exact absurd he List.not_mem_nil
  | cons x index ih =>
    obtain ⟨hx, hrest⟩ := List.pairwise_cons.mp h
    rw [rowFor?_cons]
    rcases List.mem_cons.mp he with rfl | he
    · rw [if_pos (Entity.alike_refl _)]
    · rw [if_neg (by rw [hx e he]; exact Bool.false_ne_true)]
      exact ih hrest he

theorem Indexed.row_of_mem (h : g.Indexed) {e : Entity × Nat} (he : e ∈ g.index) :
    ∃ row c, g.row? e.2 = some row ∧ g.key? e.2 = some c ∧ c.alike e.1 = true :=
  h.row_of_indexed? (rowFor?_of_mem h.separate he)

theorem triplets_eq_rows (g : Graph) :
    g.triplets = g.rows.flatMap fun x => x.elim [] g.tripletsOfRow := by
  have h (rows : List (Option Row)) (f : Row → List (Triplet NodeId EdgeId)) :
      (rows.filterMap id).flatMap f = rows.flatMap fun x => x.elim [] f := by
    induction rows with
    | nil => rfl
    | cons x rows ih =>
      cases x with
      | none => exact ih
      | some row =>
        show f row ++ (rows.filterMap id).flatMap f = f row ++ rows.flatMap fun x => x.elim [] f
        rw [ih]
  exact h g.rows g.tripletsOfRow

def besides (n : NodeId) (ts : List (Triplet NodeId EdgeId)) : List (Triplet NodeId EdgeId) :=
  ts.filter fun t => t.main ≠ n ∧ t.subject ≠ n

theorem tripletsOfRow_dropRow (hg : g.Linked) {r : Nat} {row old : Row}
    (hr : g.row? r = some row) (hne : old.node ≠ row.node) :
    (g.dropRow r).tripletsOfRow (withoutChild r old) = besides row.node (g.tripletsOfRow old) := by
  unfold tripletsOfRow besides withoutChild
  dsimp only
  induction old.children with
  | nil => rfl
  | cons c cs ih =>
    rw [List.flatMap_cons, List.filter_append, ← ih]
    by_cases hc : c.1 = r
    · have hleft : Entries.remove r (c :: cs) = Entries.remove r cs :=
        List.filter_cons_of_neg (by simpa using hc)
      rw [hleft, hc, hr]
      simp
    · have hkept : Entries.remove r (c :: cs) = c :: Entries.remove r cs :=
        List.filter_cons_of_pos (by simpa using hc)
      rw [hkept, List.flatMap_cons, row?_dropRow hr, if_neg hc]
      congr 1
      cases hs : g.row? c.1 with
      | none => rfl
      | some subject =>
        have hsubject : subject.node ≠ row.node := fun he => hc (hg.distinct hs hr he)
        refine (List.filter_eq_self.mpr fun t ht => ?_).symm
        obtain ⟨i, -, rfl⟩ := List.mem_map.mp ht
        exact decide_eq_true ⟨hne, hsubject⟩

theorem triplets_dropRow (hg : g.Linked) {r : Nat} {row : Row} (hr : g.row? r = some row) :
    (g.dropRow r).triplets = besides row.node g.triplets := by
  have hrows : (g.dropRow r).rows = (g.rows.map (·.map (withoutChild r))).set r none := rfl
  rw [triplets_eq_rows, triplets_eq_rows, besides, List.filter_flatMap, List.flatMap_def,
    List.flatMap_def, hrows]
  congr 1
  apply List.ext_getElem?
  intro s
  rw [List.getElem?_map, List.getElem?_map]
  by_cases hs : s = r
  · subst hs
    rw [List.getElem?_set_self (by simpa using row?_lt hr), row?_eq_some_iff.mp hr]
    have hnil : besides row.node (g.tripletsOfRow row) = [] := by
      rw [besides, List.filter_eq_nil_iff]
      intro t ht
      simp [main_of_mem_tripletsOfRow ht]
    exact congrArg some hnil.symm
  · rw [List.getElem?_set_ne (Ne.symm hs), List.getElem?_map]
    rcases hold : g.rows[s]? with _ | _ | old
    · rfl
    · rfl
    · have hne : old.node ≠ row.node :=
        fun he => hs (hg.distinct (row?_eq_some_iff.mpr hold) hr he)
      exact congrArg some (tripletsOfRow_dropRow hg hr hne)

theorem contains_stored (hg : g.Sound) (hn : n ∈ g.nodes) (hh : (w.node n).isHashable = true) :
    ∃ g', outcome (contains w n) g = (.ok true, g') ∧ g'.rows = g.rows := by
  obtain ⟨r, row, g', hfind, -, -, -, hf⟩ := find_stored hg hn hh
  refine ⟨g', ?_, hf⟩
  unfold contains
  rw [outcome_bind_ok hfind, outcome_pure]
  rfl

theorem addNode_stored (hg : g.Sound) (hn : n ∈ g.nodes) (hh : (w.node n).isHashable = true) :
    ∃ g', outcome (addNode w n) g = (.ok false, g') ∧ g'.rows = g.rows := by
  obtain ⟨r, row, g', hfind, -, -, -, hf⟩ := find_stored hg hn hh
  refine ⟨g', ?_, hf⟩
  unfold addNode
  rw [outcome_bind_ok hfind]
  rfl

/-- Removing a stored node removes just that node, with the edges to and from it. -/
theorem removeNode_stored (hg : g.Sound) (hn : n ∈ g.nodes) (hh : (w.node n).isHashable = true) :
    ∃ g', outcome (removeNode w n) g = (.ok true, g') ∧ g'.nodes = g.nodes.filter (· ≠ n) ∧
      g'.allTriplets w = .ok (besides n g.triplets) := by
  obtain ⟨r, row, g₁, hfind, hr, rfl, hs, hf⟩ := find_stored hg hn hh
  rw [← row?_of_rows hf] at hr
  refine ⟨g₁.dropRow r, ?_, ?_, ?_⟩
  · unfold removeNode
    rw [outcome_bind_ok hfind]
    exact outcome_bind_ok (outcome_removeRow hs.indexed hr)
  · rw [nodes_dropRow hs.linked hr, nodes_of_rows hf]
  · rw [(hs.dropRow hr).linked.allTriplets_eq, triplets_dropRow hs.linked hr, triplets_of_rows hf]

/-- The triplets of nodes, asked for one node after the other. -/
theorem mapM_tripletsOfNode (hg : g.Sound) (hw : w.Hashable) {ns : List NodeId}
    (hn : ∀ n ∈ ns, n ∈ g.nodes) :
    ∃ g', outcome (ns.mapM (tripletsOfNode w)) g = (.ok (ns.map g.outgoing), g') ∧
      g'.rows = g.rows := by
  induction ns generalizing g with
  | nil => exact ⟨g, rfl, rfl⟩
  | cons n ns ih =>
    rw [List.forall_mem_cons] at hn
    obtain ⟨g₁, hfirst, -, hs, hf⟩ := listings_stored hg hn.1 (hw.node n)
    obtain ⟨g', hrest, hf'⟩ := ih hs fun m hm => by rw [nodes_of_rows hf]; exact hn.2 m hm
    have hout : g₁.outgoing = g.outgoing := funext (outgoing_of_rows hf)
    refine ⟨g', ?_, hf'.trans hf⟩
    rw [List.mapM_cons, outcome_bind_ok hfirst, outcome_bind_ok hrest, outcome_pure, hout,
      List.map_cons]

def Joined (w : Contents) (g : Graph) (a b : NodeId) (i : EdgeId) : Prop :=
  ∃ j, (⟨a, b, j⟩ : Triplet NodeId EdgeId) ∈ g.triplets ∧ (w.edge j).alike (w.edge i) = true

theorem joined_iff (hg : g.Linked) {r s : Nat} {row subject : Row} (hr : g.row? r = some row)
    (hs : g.row? s = some subject) :
    Joined w g row.node subject.node i ↔
      ∃ j ∈ g.edgesBetween r s, (w.edge j).alike (w.edge i) = true := by
  unfold Joined
  simp only [hg.mem_triplets_iff hr hs]

/-- Both ends of an edge looked up, one after the other. -/
theorem find_ends (hg : g.Sound) (hw : w.Hashable) (ha : a ∈ g.nodes) (hb : b ∈ g.nodes) :
    ∃ r s row subject g₁ g₂, outcome (find w a) g = (.ok (some r), g₁) ∧
      outcome (find w b) g₁ = (.ok (some s), g₂) ∧ g₂.row? r = some row ∧ row.node = a ∧
      g₂.row? s = some subject ∧ subject.node = b ∧ g₂.Sound ∧ g₂.rows = g.rows ∧
      ∀ i, Joined w g a b i ↔ ∃ j ∈ g₂.edgesBetween r s, (w.edge j).alike (w.edge i) = true := by
  obtain ⟨r, row, g₁, hfind, hr, hrow, hs₁, hf₁⟩ := find_stored hg ha (hw.node a)
  have hb₁ : b ∈ g₁.nodes := by rwa [nodes_of_rows hf₁]
  obtain ⟨s, subject, g₂, hfind', hs, hsubject, hs₂, hf₂⟩ := find_stored hs₁ hb₁ (hw.node b)
  rw [← row?_of_rows (hf₂.trans hf₁)] at hr
  rw [← row?_of_rows hf₂] at hs
  refine ⟨r, s, row, subject, g₁, g₂, hfind, hfind', hr, hrow, hs, hsubject, hs₂,
    hf₂.trans hf₁, fun i => ?_⟩
  rw [← joined_iff hs₂.linked hr hs, hrow, hsubject, Joined, Joined,
    triplets_of_rows (hf₂.trans hf₁)]

theorem edgePosition_of_hashable (hw : w.Hashable) {r : Nat} {row : Row}
    (hr : g.row? r = some row) (s : Nat) (i : EdgeId) :
    outcome (edgePosition w r s i) g =
      (.ok ((g.edgesBetween r s).findIdx? fun j => (w.edge j).alike (w.edge i)), g) := by
  rw [outcome_edgePosition hr, Entity.hashed_of_isHashable (hw.edge i)]
  dsimp only
  rw [positionOf_of_isHashable fun j _ => hw.edge j]

/-- Either no edge is like the given one, or the first that is has been found. -/
theorem edgePosition_spec (hw : w.Hashable) {r : Nat} {row : Row} (hr : g.row? r = some row)
    (s : Nat) (i : EdgeId) :
    (outcome (edgePosition w r s i) g = (.ok none, g) ∧
      ∀ j ∈ g.edgesBetween r s, ¬(w.edge j).alike (w.edge i) = true) ∨
    ∃ p j, outcome (edgePosition w r s i) g = (.ok (some p), g) ∧
      (g.edgesBetween r s)[p]? = some j ∧ (w.edge j).alike (w.edge i) = true := by
  rw [edgePosition_of_hashable hw hr]
  cases hfound : (g.edgesBetween r s).findIdx? fun j => (w.edge j).alike (w.edge i) with
  | none =>
    refine Or.inl ⟨rfl, fun j hj => ?_⟩
    rw [List.findIdx?_eq_none_iff.mp hfound j hj]
    exact Bool.false_ne_true
  | some p =>
    obtain ⟨hp, halike, -⟩ := List.findIdx?_eq_some_iff_getElem.mp hfound
    exact Or.inr ⟨p, _, rfl, List.getElem?_eq_getElem hp, halike⟩

/-- Between stored nodes an edge is added just if none of its content is there. -/
theorem addTriplet_stored (hg : g.Sound) (hw : w.Hashable) (ha : a ∈ g.nodes) (hb : b ∈ g.nodes)
    (i : EdgeId) :
    ∃ added g' ts, outcome (addTriplet w ⟨some a, some b, some i⟩) g = (.ok added, g') ∧
      (added = true ↔ ¬Joined w g a b i) ∧ g'.nodes = g.nodes ∧ g'.allTriplets w = .ok ts ∧
      ∀ t, t ∈ ts ↔ t ∈ g.triplets ∨ added = true ∧ t = ⟨a, b, i⟩ := by
  obtain ⟨r, s, row, subject, g₁, g₂, hmain, hsubject, hr, rfl, hs, rfl, hs₂, hf, hjoined⟩ :=
    find_ends hg hw ha hb
  have hmain : outcome (findPart w (some row.node)) g = (.ok (some r), g₁) := hmain
  have hsubject : outcome (findPart w (some subject.node)) g₁ = (.ok (some s), g₂) := hsubject
  rw [hjoined]
  unfold addTriplet
  dsimp only
  rw [outcome_bind_ok hmain, outcome_bind_ok hsubject, joined]
  rcases edgePosition_spec hw hr s i with ⟨hposition, hnone⟩ | ⟨p, j, hposition, hj, halike⟩
  · have hi : i ∉ g₂.edgesBetween r s := fun hi => hnone i hi (Entity.alike_refl _)
    have hsound := hs₂.appended hr hs hi
    refine ⟨true, _, _, ?_, ?_, ?_, hsound.linked.allTriplets_eq w, fun t => ?_⟩
    · rw [outcome_bind, outcome_bind_ok hposition]
      exact outcome_bind_ok (outcome_join hr s i)
    · simp only [true_iff, not_exists, not_and]
      exact hnone
    · rw [nodes_changeChildren hr, nodes_of_rows hf]
    · rw [mem_triplets_appended hs₂.linked hr hs hsound.linked, triplets_of_rows hf, or_comm]
      simp
  · refine ⟨false, g₂, _, ?_, ?_, nodes_of_rows hf, hs₂.linked.allTriplets_eq w, ?_⟩
    · rw [outcome_bind, outcome_bind_ok hposition]
      rfl
    · simp only [Bool.false_eq_true, false_iff, not_not]
      exact ⟨j, List.mem_of_getElem? hj, halike⟩
    · simp [triplets_of_rows hf]

/-- Between stored nodes an edge is removed just if one of its content is there. -/
theorem removeEdge_stored (hg : g.Sound) (hw : w.Hashable) (ha : a ∈ g.nodes) (hb : b ∈ g.nodes)
    (i : EdgeId) :
    ∃ removed g' ts, outcome (removeEdge w ⟨some a, some b, some i⟩) g = (.ok removed, g') ∧
      (removed = true ↔ Joined w g a b i) ∧ g'.nodes = g.nodes ∧ g'.allTriplets w = .ok ts ∧
      (removed = false → ts = g.triplets) ∧
      (removed = true → ∃ j, (⟨a, b, j⟩ : Triplet NodeId EdgeId) ∈ g.triplets ∧
        (w.edge j).alike (w.edge i) = true ∧
        ∀ t, t ∈ ts ↔ t ∈ g.triplets ∧ t ≠ ⟨a, b, j⟩) := by
  obtain ⟨r, s, row, subject, g₁, g₂, hmain, hsubject, hr, rfl, hs, rfl, hs₂, hf, hjoined⟩ :=
    find_ends hg hw ha hb
  rw [hjoined]
  unfold removeEdge
  dsimp only
  rw [outcome_bind_ok hmain, outcome_bind_ok hsubject]
  dsimp only
  rcases edgePosition_spec hw hr s i with ⟨hposition, hnone⟩ | ⟨p, j, hposition, hj, halike⟩
  · refine ⟨false, g₂, _, ?_, ?_, nodes_of_rows hf, hs₂.linked.allTriplets_eq w,
      fun _ => triplets_of_rows hf, nofun⟩
    · rw [outcome_bind_ok hposition]
      rfl
    · simp only [Bool.false_eq_true, false_iff, not_exists, not_and]
      exact hnone
  · have hmem := List.mem_of_getElem? hj
    have hsound := hs₂.dropped hr s p
    refine ⟨true, _, _, ?_, ?_, ?_, hsound.linked.allTriplets_eq w, nofun,
      fun _ => ⟨j, ?_, halike, fun t => ?_⟩⟩
    · obtain ⟨hp, -⟩ := List.getElem?_eq_some_iff.mp hj
      rw [outcome_bind_ok hposition]
      exact outcome_bind_ok (outcome_removeEdgeAt hr hp)
    · simp only [true_iff]
      exact ⟨j, hmem, halike⟩
    · rw [nodes_changeChildren hr, nodes_of_rows hf]
    · rw [← triplets_of_rows hf]
      exact (hs₂.linked.mem_triplets_iff hr hs).mpr hmem
    · rw [mem_triplets_dropped hs₂.linked hr hs hj hsound.linked, triplets_of_rows hf]

/-- Rows, tables and listings that fit together. -/
structure Intact (w : Contents) (g : Graph) : Prop where
  placed : ∀ n ∈ g.nodes, ∃! r, ∃ row, g.row? r = some row ∧ row.node = n
  size : g.size = g.nodes.length
  landing : ∀ r row, g.row? r = some row →
    ∀ l ∈ links row, ∃ subject, g.row? l.1 = some subject
  listed : g.allTriplets w = .ok g.triplets
  typed : ∀ main subject edge, ∃ ts, g.typedTriplets w main subject edge = .ok ts
  ends : ∀ t ∈ g.triplets, t.main ∈ g.nodes ∧ t.subject ∈ g.nodes
  index : ∀ e ∈ g.index, ∃ row c, g.row? e.2 = some row ∧ g.key? e.2 = some c ∧
    c.alike e.1 = true

theorem Sound.intact (h : g.Sound) (w : Contents) : Intact w g where
  placed := by
    intro n hn
    obtain ⟨r, row, hr, hrow⟩ := mem_nodes.mp hn
    refine ⟨r, ⟨row, hr, hrow⟩, ?_⟩
    rintro s ⟨row', hs, hrow'⟩
    exact h.linked.distinct hs hr (hrow'.trans hrow.symm)
  size := h.indexed.size_eq
  landing _ _ hr _ hl := h.linked.exists_subject hr hl
  listed := h.linked.allTriplets_eq w
  typed main subject edge := ⟨_, h.linked.passingTriplets_eq w (some main) subject edge⟩
  ends t ht := h.linked.ends_mem_nodes ht
  index e he := h.indexed.row_of_mem he

/-- What operations on a graph come to: each has a result, and those on stored nodes are about just
these nodes. -/
structure Serves (w : Contents) (g : Graph) : Prop where
  changes : ∀ c : Change, ∃ b, (outcome (c.perform w) g).1 = .ok b
  queries : ∀ n, (∃ b, (outcome (contains w n) g).1 = .ok b) ∧
    ∃ ts, (outcome (tripletsOfNode w n) g).1 = .ok ts ∧
      (outcome (children w n) g).1 = .ok (ts.map fun t => (t.subject, t.edge))
  listed : ∃ tss g', outcome (g.nodes.mapM (tripletsOfNode w)) g = (.ok tss, g') ∧
    g.allTriplets w = .ok tss.flatten
  found : ∀ n ∈ g.nodes, ∃ r row g', outcome (find w n) g = (.ok (some r), g') ∧
    g.row? r = some row ∧ row.node = n ∧ g'.rows = g.rows
  asked : ∀ n ∈ g.nodes, ∃ g', outcome (tripletsOfNode w n) g = (.ok (g.outgoing n), g') ∧
    g'.rows = g.rows
  contained : ∀ n ∈ g.nodes, ∃ g', outcome (contains w n) g = (.ok true, g') ∧ g'.rows = g.rows
  added : ∀ n ∈ g.nodes, ∃ g', outcome (addNode w n) g = (.ok false, g') ∧ g'.rows = g.rows
  removed : ∀ n ∈ g.nodes, ∃ g', outcome (removeNode w n) g = (.ok true, g') ∧
    g'.nodes = g.nodes.filter (· ≠ n) ∧ g'.allTriplets w = .ok (besides n g.triplets)
  joined : ∀ a ∈ g.nodes, ∀ b ∈ g.nodes, ∀ i,
    ∃ added g' ts, outcome (addTriplet w ⟨some a, some b, some i⟩) g = (.ok added, g') ∧
      (added = true ↔ ¬Joined w g a b i) ∧ g'.nodes = g.nodes ∧ g'.allTriplets w = .ok ts ∧
      ∀ t, t ∈ ts ↔ t ∈ g.triplets ∨ added = true ∧ t = ⟨a, b, i⟩
  parted : ∀ a ∈ g.nodes, ∀ b ∈ g.nodes, ∀ i,
    ∃ removed g' ts, outcome (removeEdge w ⟨some a, some b, some i⟩) g = (.ok removed, g') ∧
      (removed = true ↔ Joined w g a b i) ∧ g'.nodes = g.nodes ∧ g'.allTriplets w = .ok ts ∧
      (removed = false → ts = g.triplets) ∧
      (removed = true → ∃ j, (⟨a, b, j⟩ : Triplet NodeId EdgeId) ∈ g.triplets ∧
        (w.edge j).alike (w.edge i) = true ∧
        ∀ t, t ∈ ts ↔ t ∈ g.triplets ∧ t ≠ ⟨a, b, j⟩)

theorem Sound.queries (hg : g.Sound) (hw : w.Hashable) (n : NodeId) :
    (∃ b, (outcome (contains w n) g).1 = .ok b) ∧
      ∃ ts, (outcome (tripletsOfNode w n) g).1 = .ok ts ∧
        (outcome (children w n) g).1 = .ok (ts.map fun t => (t.subject, t.edge)) := by
  rcases hfind : outcome (find w n) g with ⟨x, g'⟩
  obtain ⟨o, rfl⟩ := (find_safe hg hfind).1.exists_ok hw
  obtain ⟨htriplets, hchildren⟩ := listings_of_find hg hfind
  refine ⟨⟨o.isSome, ?_⟩, g.foundTriplets o, by rw [htriplets], by rw [hchildren]⟩
  unfold contains
  rw [outcome_bind_ok hfind, outcome_pure]

theorem Sound.serves (hg : g.Sound) (hw : w.Hashable) : Serves w g where
  changes c := (perform_safe hg rfl).exists_ok hw
  queries := hg.queries hw
  listed := by
    obtain ⟨g', hrun, -⟩ := mapM_tripletsOfNode hg hw fun n hn => hn
    refine ⟨_, g', hrun, ?_⟩
    rw [hg.linked.allTriplets_eq, triplets_eq_flatMap hg.linked, List.flatMap_def]
  found := by
    intro n hn
    obtain ⟨r, row, g', hfind, hr, hrow, -, hf⟩ := find_stored hg hn (hw.node n)
    exact ⟨r, row, g', hfind, hr, hrow, hf⟩
  asked := by
    intro n hn
    obtain ⟨g', hts, -, -, hf⟩ := listings_stored hg hn (hw.node n)
    exact ⟨g', hts, hf⟩
  contained n hn := contains_stored hg hn (hw.node n)
  added n hn := addNode_stored hg hn (hw.node n)
  removed n hn := removeNode_stored hg hn (hw.node n)
  joined a ha b hb i := addTriplet_stored hg hw ha hb i
  parted a ha b hb i := removeEdge_stored hg hw ha hb i

/-- After any history a graph is intact, edits change none of its listings, and as long as contents
can be looked up by, every operation comes to a result that is right about the stored nodes. -/
theorem reachable_intact {s : World} (h : Reachable s) :
    Intact s.contents s.graph ∧ (s.contents.Hashable → Serves s.contents s.graph) ∧
      (∀ n e, (s.next (.editNode n e)).graph.nodes = s.graph.nodes ∧
        (s.next (.editNode n e)).graph.allTriplets (s.next (.editNode n e)).contents =
          .ok s.graph.triplets) ∧
      ∀ i e, (s.next (.editEdge i e)).graph.nodes = s.graph.nodes ∧
        (s.next (.editEdge i e)).graph.allTriplets (s.next (.editEdge i e)).contents =
          .ok s.graph.triplets := by
  have hg := reachable_sound h
  have hl := hg.linked
  exact ⟨hg.intact _, fun hw => hg.serves hw, fun _ _ => ⟨rfl, hl.allTriplets_eq _⟩,
    fun _ _ => ⟨rfl, hl.allTriplets_eq _⟩⟩

def coinciding : World :=
  (World.next ⟨⟨fun n => ⟨if n = 0 then "a" else "b", []⟩, fun _ => ⟨"e", []⟩⟩, empty⟩
    (.change (.addTriplet ⟨some 0, some 1, some 0⟩))).next (.editNode 0 ⟨"b", []⟩)

theorem intact_coinciding :
    Reachable coinciding ∧ coinciding.contents.Hashable ∧ coinciding.graph.nodes = [0, 1] ∧
      coinciding.graph.size = 2 ∧
      coinciding.graph.allTriplets coinciding.contents = .ok [⟨0, 1, 0⟩] ∧
      (∃ g', outcome (removeNode coinciding.contents 0) coinciding.graph = (.ok true, g') ∧
        g'.nodes = [1] ∧ g'.allTriplets coinciding.contents = .ok []) ∧
      ∃ g', outcome (removeNode coinciding.contents 1) coinciding.graph = (.ok true, g') ∧
        g'.nodes = [0] ∧ g'.allTriplets coinciding.contents = .ok [] := by
  have hs : Reachable coinciding := .step _ (.step _ (.init _))
  have hw : coinciding.contents.Hashable := by
    refine ⟨fun n => ?_, fun i => rfl⟩
    show (if n = 0 then (⟨"b", []⟩ : Entity) else _).isHashable = true
    split <;> rfl
  have hn : coinciding.graph.nodes = [0, 1] := rfl
  have ht : coinciding.graph.triplets = [⟨0, 1, 0⟩] := by decide +kernel
  obtain ⟨hintact, hserves, -⟩ := reachable_intact hs
  have hsize := hintact.size
  have hlisted := hintact.listed
  have hr := (hserves hw).removed
  rw [hn] at hr hsize
  rw [ht] at hr hlisted
  refine ⟨hs, hw, hn, hsize, hlisted, hr 0 List.mem_cons_self, hr 1 ?_⟩
  exact List.mem_cons_of_mem _ List.mem_cons_self

end Graph

end GraphTemplate
