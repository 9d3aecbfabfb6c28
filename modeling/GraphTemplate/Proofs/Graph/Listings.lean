import GraphTemplate.Proofs.Graph.Updates
import Mathlib.Data.List.Nodup

/-! A sound graph lists its nodes and triplets once each, and those of a node are the ones that it
is the main node of. No listing meets a row that is not there. -/
namespace GraphTemplate.Graph

variable {w : Contents} {g g' : Graph}

theorem nodes_eq_filterMap (g : Graph) : g.nodes = g.rows.filterMap (·.map Row.node) := by
  rw [nodes, liveRows, List.map_filterMap]
  rfl

theorem Linked.nodup_nodes (h : g.Linked) : g.nodes.Nodup := by
  rw [nodes_eq_filterMap, List.Nodup, List.pairwise_filterMap, List.pairwise_iff_getElem]
  intro r s hr hs hlt n hn m hm hnm
  obtain ⟨row, hrow, rfl⟩ := Option.map_eq_some_iff.mp hn
  obtain ⟨row', hrow', rfl⟩ := Option.map_eq_some_iff.mp hm
  have hr' : g.row? r = some row := by rw [row?_eq_some_iff, List.getElem?_eq_getElem hr, hrow]
  have hs' : g.row? s = some row' := by rw [row?_eq_some_iff, List.getElem?_eq_getElem hs, hrow']
  have he := h.distinct hr' hs' hnm
  omega

theorem Linked.pairwise_liveRows (h : g.Linked) :
    g.liveRows.Pairwise fun a b => a.node ≠ b.node := by
  have hn := h.nodup_nodes
  rwa [nodes, List.Nodup, List.pairwise_map] at hn

/-- No edge of a row leads to a row that is not there. -/
theorem Linked.exists_subject (h : g.Linked) {r : Nat} {row : Row} (hr : g.row? r = some row)
    {l : Nat × EdgeId} (hl : l ∈ links row) : ∃ subject, g.row? l.1 = some subject := by
  obtain ⟨c, hc, hi⟩ := List.mem_flatMap.mp hl
  obtain ⟨i, hi, rfl⟩ := List.mem_map.mp hi
  refine h.landing (r := r) (i := i) ?_
  rwa [edgesBetween_eq hr, edgesUnder_of_mem (h.keyed hr) hc]

/-- The links of a row that lead to rows. -/
theorem tripletsOfRow_eq_filterMap (g : Graph) (row : Row) : g.tripletsOfRow row =
    (links row).filterMap fun l =>
      (g.row? l.1).map fun subject => ⟨row.node, subject.node, l.2⟩ := by
  rw [tripletsOfRow, links, List.filterMap_flatMap]
  refine List.flatMap_congr fun c _ => ?_
  rw [List.filterMap_map]
  cases hs : g.row? c.1 with
  | none => simp [hs]
  | some subject => simp [hs]

section
variable {r : Nat} {row : Row} (h : g.Linked) (hr : g.row? r = some row)
include h hr

theorem Linked.rowTriplets_eq : g.rowTriplets row = .ok (g.tripletsOfRow row) := by
  rw [tripletsOfRow_eq_filterMap]
  refine mapM_eq_filterMap fun l hl => ?_
  obtain ⟨subject, hs⟩ := h.exists_subject hr hl
  refine ⟨⟨row.node, subject.node, l.2⟩, ?_, ?_⟩
  · rw [nodeAt, hs]
    rfl
  · rw [hs]
    rfl

theorem Linked.rowChildren_eq : g.rowChildren row =
    .ok ((g.tripletsOfRow row).map fun t => (t.subject, t.edge)) := by
  rw [tripletsOfRow_eq_filterMap, List.map_filterMap]
  refine mapM_eq_filterMap fun l hl => ?_
  obtain ⟨subject, hs⟩ := h.exists_subject hr hl
  refine ⟨(subject.node, l.2), ?_, ?_⟩
  · rw [nodeAt, hs]
    rfl
  · rw [hs]
    rfl

end

/-- The triplets that pass, of a graph whose edges all lead to rows that are there. -/
def tripletsPassing (w : Contents) (g : Graph) (main subject edge : Option String) :
    List (Triplet NodeId EdgeId) :=
  g.liveRows.flatMap fun row =>
    if passes main (w.node row.node).typeName then
      (g.tripletsOfRow row).filter fun t =>
        passes subject (w.node t.subject).typeName && passes edge (w.edge t.edge).typeName
    else []

theorem Linked.passingTriplets_eq (h : g.Linked) (w : Contents)
    (main subject edge : Option String) :
    g.passingTriplets w main subject edge = .ok (g.tripletsPassing w main subject edge) := by
  unfold passingTriplets tripletsPassing
  rw [List.flatMap_def, ← List.filterMap_eq_map]
  refine congrArg (· >>= _) (mapM_eq_filterMap fun row hrow => ⟨_, ?_, rfl⟩)
  obtain ⟨r, hr⟩ := mem_liveRows.mp hrow
  split
  · rw [h.rowTriplets_eq hr]
    rfl
  · rfl

theorem Linked.allTriplets_eq (h : g.Linked) (w : Contents) :
    g.allTriplets w = .ok g.triplets := by
  rw [allTriplets, h.passingTriplets_eq, tripletsPassing, triplets]
  simp only [passes, Bool.and_self, if_true, List.filter_true]

theorem Linked.nodup_tripletsOfRow (h : g.Linked) {r : Nat} {row : Row} (hr : g.row? r = some row) :
    (g.tripletsOfRow row).Nodup := by
  have hk := h.keyed hr
  unfold tripletsOfRow
  rw [List.nodup_flatMap]
  constructor
  · intro c hc
    cases hs : g.row? c.1 with
    | none => exact List.nodup_nil
    | some subject =>
      have hp := h.parallel r c.1
      rw [edgesBetween_eq hr, edgesUnder_of_mem hk hc] at hp
      exact hp.map fun i j hij => congrArg Triplet.edge hij
  · rw [List.Nodup, List.pairwise_map] at hk
    refine hk.imp ?_
    intro c d hcd
    show List.Disjoint _ _
    intro t hc hd
    dsimp only at hc hd
    cases hs : g.row? c.1 with
    | none =>
      rw [hs] at hc
      exact List.not_mem_nil hc
    | some subject =>
      cases hs' : g.row? d.1 with
      | none =>
        rw [hs'] at hd
        exact List.not_mem_nil hd
      | some subject' =>
        rw [hs] at hc
        rw [hs'] at hd
        obtain ⟨i, -, rfl⟩ := List.mem_map.mp hc
        obtain ⟨j, -, he⟩ := List.mem_map.mp hd
        exact hcd (h.distinct hs hs' (congrArg Triplet.subject he).symm)

theorem main_of_mem_tripletsOfRow {row : Row} {t : Triplet NodeId EdgeId}
    (h : t ∈ g.tripletsOfRow row) : t.main = row.node :=
  (mem_tripletsOfRow_iff.mp h).1

theorem Linked.nodup_triplets (h : g.Linked) : g.triplets.Nodup := by
  unfold triplets
  rw [List.nodup_flatMap]
  constructor
  · intro row hrow
    obtain ⟨r, hr⟩ := mem_liveRows.mp hrow
    exact h.nodup_tripletsOfRow hr
  · refine h.pairwise_liveRows.imp ?_
    intro a b hab
    show List.Disjoint _ _
    intro t ha hb
    exact hab ((main_of_mem_tripletsOfRow ha).symm.trans (main_of_mem_tripletsOfRow hb))

theorem Linked.mem_tripletsOfRow (h : g.Linked) {r : Nat} {row : Row} (hr : g.row? r = some row)
    {t : Triplet NodeId EdgeId} :
    t ∈ g.tripletsOfRow row ↔ t ∈ g.triplets ∧ t.main = row.node := by
  constructor
  · intro ht
    exact ⟨List.mem_flatMap.mpr ⟨row, mem_liveRows.mpr ⟨r, hr⟩, ht⟩, main_of_mem_tripletsOfRow ht⟩
  · rintro ⟨ht, hm⟩
    obtain ⟨row', hrow', ht⟩ := List.mem_flatMap.mp ht
    obtain ⟨s, hs⟩ := mem_liveRows.mp hrow'
    have he := h.distinct hs hr ((main_of_mem_tripletsOfRow ht).symm.trans hm)
    subst he
    rw [hr] at hs
    obtain rfl := Option.some.inj hs
    exact ht

/-- Both ends of a triplet are nodes of the graph. -/
theorem Linked.ends_mem_nodes (h : g.Linked) {t : Triplet NodeId EdgeId} (ht : t ∈ g.triplets) :
    t.main ∈ g.nodes ∧ t.subject ∈ g.nodes := by
  obtain ⟨r, row, s, subject, hr, hs, hm, hn, -⟩ := (mem_triplets h.keyed).mp ht
  exact ⟨mem_nodes.mpr ⟨r, row, hr, hm⟩, mem_nodes.mpr ⟨s, subject, hs, hn⟩⟩

theorem Linked.mem_triplets_iff (h : g.Linked) {r s : Nat} {row subject : Row}
    (hr : g.row? r = some row) (hs : g.row? s = some subject) {i : EdgeId} :
    (⟨row.node, subject.node, i⟩ : Triplet NodeId EdgeId) ∈ g.triplets ↔
      i ∈ g.edgesBetween r s := by
  rw [mem_triplets h.keyed]
  constructor
  · rintro ⟨a, rowa, b, rowb, ha, hb, hm, hn, hi⟩
    rw [h.distinct ha hr hm, h.distinct hb hs hn] at hi
    exact hi
  · intro hi
    exact ⟨r, row, s, subject, hr, hs, rfl, rfl, hi⟩

theorem nodes_inserted (g : Graph) (n : NodeId) (c : Entity) :
    (g.inserted n c).nodes = g.nodes ++ [n] := by
  rw [nodes_eq_filterMap, nodes_eq_filterMap, inserted, List.filterMap_append]
  rfl

theorem mem_triplets_inserted (hg : g.Linked) {n : NodeId} (hn : n ∉ g.nodes) (c : Entity)
    {t : Triplet NodeId EdgeId} : t ∈ (g.inserted n c).triplets ↔ t ∈ g.triplets := by
  rw [mem_triplets (hg.inserted hn c).keyed, mem_triplets hg.keyed]
  simp only [edgesBetween_inserted]
  constructor
  · rintro ⟨r, row, s, subject, hr, hs, hm, hsub, hi⟩
    obtain ⟨row', hr'⟩ := exists_row_of_mem_edgesBetween hi
    obtain ⟨subject', hs'⟩ := hg.landing hi
    rw [row?_inserted_of_row? hr'] at hr
    rw [row?_inserted_of_row? hs'] at hs
    obtain rfl := Option.some.inj hr
    obtain rfl := Option.some.inj hs
    exact ⟨r, row', s, subject', hr', hs', hm, hsub, hi⟩
  · rintro ⟨r, row, s, subject, hr, hs, h⟩
    exact ⟨r, row, s, subject, row?_inserted_of_row? hr, row?_inserted_of_row? hs, h⟩

theorem filterMap_set_none {α β : Type} [DecidableEq β] {f : Option α → Option β}
    (hf : f none = none) {xs : List (Option α)} {r : Nat} {x : Option α} {b : β}
    (hr : xs[r]? = some x) (hx : f x = some b) (hd : (xs.filterMap f).Nodup) :
    (xs.set r none).filterMap f = (xs.filterMap f).filter (· ≠ b) := by
  induction xs generalizing r with
  | nil => exact nomatch hr
  | cons y ys ih =>
    cases r with
    | zero =>
      obtain rfl := Option.some.inj hr
      rw [List.filterMap_cons_some hx] at hd ⊢
      rw [List.set_cons_zero, List.filterMap_cons_none hf, List.filter_cons_of_neg (by simp)]
      symm
      rw [List.filter_eq_self]
      intro c hc
      have hne : c ≠ b := fun he => (List.nodup_cons.mp hd).1 (he ▸ hc)
      exact decide_eq_true hne
    | succ r =>
      rw [List.getElem?_cons_succ] at hr
      rw [List.set_cons_succ]
      cases hy : f y with
      | none =>
        rw [List.filterMap_cons_none hy] at hd
        rw [List.filterMap_cons_none hy, List.filterMap_cons_none hy, ih hr hd]
      | some c =>
        rw [List.filterMap_cons_some hy] at hd
        obtain ⟨hc, hd⟩ := List.nodup_cons.mp hd
        have hne : c ≠ b := by
          rintro rfl
          exact hc (List.mem_filterMap.mpr ⟨x, List.mem_of_getElem? hr, hx⟩)
        rw [List.filterMap_cons_some hy, List.filterMap_cons_some hy, ih hr hd,
          List.filter_cons_of_pos (by simpa using hne)]

theorem nodes_dropRow (hg : g.Linked) {r : Nat} {row : Row} (hr : g.row? r = some row) :
    (g.dropRow r).nodes = g.nodes.filter (· ≠ row.node) := by
  have hmap : (g.rows.map (·.map (withoutChild r))).filterMap (·.map Row.node) = g.nodes := by
    rw [nodes_eq_filterMap, List.filterMap_map]
    congr
    funext x
    cases x <;> rfl
  have hrow : (g.rows.map (·.map (withoutChild r)))[r]? = some (some (withoutChild r row)) := by
    rw [List.getElem?_map, row?_eq_some_iff.mp hr]
    rfl
  rw [nodes_eq_filterMap (g.dropRow r), dropRow, hr]
  dsimp only
  rw [filterMap_set_none (f := (·.map Row.node)) rfl hrow rfl (hmap ▸ hg.nodup_nodes), hmap]
  rfl

theorem mem_triplets_dropRow (hg : g.Linked) {r : Nat} {row : Row} (hr : g.row? r = some row)
    {t : Triplet NodeId EdgeId} :
    t ∈ (g.dropRow r).triplets ↔ t ∈ g.triplets ∧ t.main ≠ row.node ∧ t.subject ≠ row.node := by
  rw [mem_triplets (hg.dropRow hr).keyed, mem_triplets hg.keyed]
  constructor
  · rintro ⟨a, rowa, b, rowb, ha, hb, hm, hs, hi⟩
    obtain ⟨hna, olda, hola, rfl⟩ := row?_of_row?_dropRow hr ha
    obtain ⟨hnb, oldb, holb, rfl⟩ := row?_of_row?_dropRow hr hb
    rw [edgesBetween_dropRow hr, if_neg (not_or.mpr ⟨hna, hnb⟩)] at hi
    refine ⟨⟨a, olda, b, oldb, hola, holb, hm, hs, hi⟩, ?_, ?_⟩
    · intro he
      exact hna (hg.distinct hola hr (Eq.trans hm he))
    · intro he
      exact hnb (hg.distinct holb hr (Eq.trans hs he))
  · rintro ⟨⟨a, rowa, b, rowb, ha, hb, hm, hs, hi⟩, hnm, hns⟩
    have hna : a ≠ r := by
      rintro rfl
      rw [hr] at ha
      obtain rfl := Option.some.inj ha
      exact hnm hm.symm
    have hnb : b ≠ r := by
      rintro rfl
      rw [hr] at hb
      obtain rfl := Option.some.inj hb
      exact hns hs.symm
    refine ⟨a, withoutChild r rowa, b, withoutChild r rowb, ?_, ?_, hm, hs, ?_⟩
    · rw [row?_dropRow hr, if_neg hna, ha]
      rfl
    · rw [row?_dropRow hr, if_neg hnb, hb]
      rfl
    · rw [edgesBetween_dropRow hr, if_neg (not_or.mpr ⟨hna, hnb⟩)]
      exact hi

theorem nodes_changeChildren {r : Nat} {row : Row} (hr : g.row? r = some row)
    (change : List (Nat × List EdgeId) → List (Nat × List EdgeId)) :
    (g.changeChildren r change).nodes = g.nodes := by
  have hmap (k : Graph) : k.nodes = (k.rows.map (·.map Row.node)).filterMap id := by
    rw [nodes_eq_filterMap, List.filterMap_map]
    rfl
  have hrows : (g.rows.set r (some { row with children := change row.children })).map
      (·.map Row.node) = g.rows.map (·.map Row.node) := by
    rw [List.map_set]
    apply List.ext_getElem?
    intro s
    by_cases hs : r = s
    · subst hs
      rw [List.getElem?_set_self (by simpa using row?_lt hr), List.getElem?_map,
        row?_eq_some_iff.mp hr]
      rfl
    · rw [List.getElem?_set_ne hs]
  rw [hmap, hmap, changeChildren_eq hr, hrows]

theorem mem_triplets_changeChildren (hg : g.Linked) {r : Nat} {row : Row}
    {change : List (Nat × List EdgeId) → List (Nat × List EdgeId)}
    (hr : g.row? r = some row) (hc : (g.changeChildren r change).Linked)
    {t : Triplet NodeId EdgeId} :
    t ∈ (g.changeChildren r change).triplets ↔
      (t.main = row.node ∧ ∃ s subject, g.row? s = some subject ∧ subject.node = t.subject ∧
        t.edge ∈ edgesUnder s (change row.children)) ∨
      (t.main ≠ row.node ∧ t ∈ g.triplets) := by
  rw [mem_triplets hc.keyed, mem_triplets hg.keyed]
  constructor
  · rintro ⟨a, rowa, b, rowb, ha, hb, hm, hn, hi⟩
    obtain ⟨olda, hola, hna, -⟩ := row?_of_row?_changeChildren hr ha
    obtain ⟨oldb, holb, hnb, -⟩ := row?_of_row?_changeChildren hr hb
    rw [edgesBetween_changeChildren hr] at hi
    rw [hna] at hm
    rw [hnb] at hn
    by_cases har : a = r
    · subst har
      rw [if_pos rfl] at hi
      rw [hr] at hola
      obtain rfl := Option.some.inj hola
      exact Or.inl ⟨hm.symm, b, oldb, holb, hn, hi⟩
    · rw [if_neg har] at hi
      refine Or.inr ⟨?_, a, olda, b, oldb, hola, holb, hm, hn, hi⟩
      intro he
      exact har (hg.distinct hola hr (hm.trans he))
  · rintro (⟨hm, s, subject, hs, hn, hi⟩ | ⟨hne, a, rowa, b, rowb, ha, hb, hm, hn, hi⟩)
    · obtain ⟨row', hr', hn'⟩ := exists_row?_changeChildren change hr hr
      obtain ⟨subject', hs', hns'⟩ := exists_row?_changeChildren change hr hs
      refine ⟨r, row', s, subject', hr', hs', hn'.trans hm.symm, hns'.trans hn, ?_⟩
      rw [edgesBetween_changeChildren hr, if_pos rfl]
      exact hi
    · have har : a ≠ r := by
        rintro rfl
        rw [hr] at ha
        obtain rfl := Option.some.inj ha
        exact hne hm.symm
      obtain ⟨rowa', ha', hna⟩ := exists_row?_changeChildren change hr ha
      obtain ⟨rowb', hb', hnb⟩ := exists_row?_changeChildren change hr hb
      refine ⟨a, rowa', b, rowb', ha', hb', hna.trans hm, hnb.trans hn, ?_⟩
      rw [edgesBetween_changeChildren hr, if_neg har]
      exact hi

/-- A change of the edges that lead to one subject is seen at the triplets between the two nodes. -/
theorem mem_triplets_changeEdges (hg : g.Linked) {r s : Nat} {row subject : Row}
    {change : List (Nat × List EdgeId) → List (Nat × List EdgeId)}
    (hr : g.row? r = some row) (hs : g.row? s = some subject)
    (hc : (g.changeChildren r change).Linked)
    (hother : ∀ a ≠ s, edgesUnder a (change row.children) = edgesUnder a row.children)
    {t : Triplet NodeId EdgeId} :
    t ∈ (g.changeChildren r change).triplets ↔
      (t.main = row.node ∧ t.subject = subject.node ∧
        t.edge ∈ edgesUnder s (change row.children)) ∨
      (¬(t.main = row.node ∧ t.subject = subject.node) ∧ t ∈ g.triplets) := by
  rw [mem_triplets_changeChildren hg hr hc]
  constructor
  · rintro (⟨hm, a, rowa, ha, hn, hi⟩ | ⟨hne, ht⟩)
    · by_cases has : a = s
      · subst has
        rw [hs] at ha
        obtain rfl := Option.some.inj ha
        exact Or.inl ⟨hm, hn.symm, hi⟩
      · rw [hother a has, ← edgesBetween_eq hr] at hi
        have ht : t = ⟨row.node, rowa.node, t.edge⟩ := by rw [← hm, hn]
        refine Or.inr ⟨fun h => has (hg.distinct ha hs (hn.trans h.2)), ?_⟩
        rw [ht]
        exact (hg.mem_triplets_iff hr ha).mpr hi
    · exact Or.inr ⟨fun h => hne h.1, ht⟩
  · rintro (⟨hm, hn, hi⟩ | ⟨hne, ht⟩)
    · exact Or.inl ⟨hm, s, subject, hs, hn.symm, hi⟩
    · by_cases hm : t.main = row.node
      · obtain ⟨a, rowa, b, rowb, ha, hb, hm', hn, hi⟩ := (mem_triplets hg.keyed).mp ht
        obtain rfl := hg.distinct ha hr (hm'.trans hm)
        have hbs : b ≠ s := by
          rintro rfl
          rw [hs] at hb
          obtain rfl := Option.some.inj hb
          exact hne ⟨hm, hn.symm⟩
        refine Or.inl ⟨hm, b, rowb, hb, hn, ?_⟩
        rwa [hother b hbs, ← edgesBetween_eq hr]
      · exact Or.inr ⟨hm, ht⟩

theorem mem_triplets_appended (hg : g.Linked) {r s : Nat} {row subject : Row} {i : EdgeId}
    (hr : g.row? r = some row) (hs : g.row? s = some subject)
    (hc : (g.changeChildren r (appendEdge s i)).Linked) {t : Triplet NodeId EdgeId} :
    t ∈ (g.changeChildren r (appendEdge s i)).triplets ↔
      t = ⟨row.node, subject.node, i⟩ ∨ t ∈ g.triplets := by
  rw [mem_triplets_changeEdges hg hr hs hc fun a ha => by rw [edgesUnder_appendEdge, if_neg ha],
    edgesUnder_appendEdge, if_pos rfl, ← edgesBetween_eq hr, List.mem_append, List.mem_singleton]
  obtain ⟨k, l, j⟩ := t
  by_cases h : k = row.node ∧ l = subject.node
  · obtain ⟨rfl, rfl⟩ := h
    rw [hg.mem_triplets_iff hr hs]
    simp [or_comm]
  · simp only [Triplet.mk.injEq]
    tauto

theorem mem_eraseIdx_of_nodup {α : Type} {xs : List α} {p : Nat} {x y : α} (hd : xs.Nodup)
    (hx : xs[p]? = some x) : y ∈ xs.eraseIdx p ↔ y ∈ xs ∧ y ≠ x := by
  rw [List.mem_eraseIdx_iff_getElem?]
  constructor
  · rintro ⟨q, hq, hy⟩
    refine ⟨List.mem_of_getElem? hy, ?_⟩
    rintro rfl
    obtain ⟨hlt, -⟩ := List.getElem?_eq_some_iff.mp hy
    exact hq ((List.getElem?_inj hlt hd).mp (hy.trans hx.symm))
  · rintro ⟨hy, hne⟩
    obtain ⟨q, hq⟩ := List.mem_iff_getElem?.mp hy
    refine ⟨q, ?_, hq⟩
    rintro rfl
    rw [hx] at hq
    exact hne (Option.some.inj hq).symm

theorem mem_triplets_dropped (hg : g.Linked) {r s p : Nat} {row subject : Row} {i : EdgeId}
    (hr : g.row? r = some row) (hs : g.row? s = some subject)
    (hp : (g.edgesBetween r s)[p]? = some i)
    (hc : (g.changeChildren r (dropEdge s p)).Linked) {t : Triplet NodeId EdgeId} :
    t ∈ (g.changeChildren r (dropEdge s p)).triplets ↔
      t ∈ g.triplets ∧ t ≠ ⟨row.node, subject.node, i⟩ := by
  have hkeyed := hg.keyed hr
  rw [mem_triplets_changeEdges hg hr hs hc fun a ha => by
      rw [edgesUnder_dropEdge hkeyed, if_neg ha],
    edgesUnder_dropEdge hkeyed, if_pos rfl, ← edgesBetween_eq hr,
    mem_eraseIdx_of_nodup (hg.parallel r s) hp]
  obtain ⟨k, l, j⟩ := t
  by_cases h : k = row.node ∧ l = subject.node
  · obtain ⟨rfl, rfl⟩ := h
    rw [hg.mem_triplets_iff hr hs]
    simp
  · simp only [ne_eq, Triplet.mk.injEq]
    tauto

end GraphTemplate.Graph
