import GraphTemplate.Proofs.Graph.Soundness

/-! A change that fails is not seen. Whatever a change may fail at is looked at before the first row
is written: a node that was looked up and not found has a content that can be looked up by, and so
has every row that a later lookup can meet. -/
namespace GraphTemplate.Graph

variable {w : Contents} {g g' : Graph}

/-- A lookup fails only at the node itself or at the row that it meets. -/
theorem find_ok {n : NodeId} (hi : g.Indexed) (hn : (w.node n).isHashable = true)
    (hmet : ∀ ⦃r row⦄, g.row? r = some row → g.indexed? (w.node n) = some r →
      (w.node row.node).isHashable = true) :
    ∃ o g', outcome (find w n) g = (.ok o, g') := by
  cases hrow : g.rowOf? n with
  | some r =>
    obtain ⟨row, hr, rfl⟩ := row_of_rowOf? hrow
    obtain ⟨g₁, hg₁⟩ := refresh_ok hi hr hn
    rw [outcome_find_stored hi hrow, outcome_bind_ok hg₁]
    exact ⟨_, _, rfl⟩
  | none =>
    cases hd : g.indexed? (w.node n) with
    | none => exact ⟨_, _, outcome_find_unindexed hi hrow hn hd⟩
    | some r =>
      obtain ⟨row, -, hr, -⟩ := hi.row_of_indexed? hd
      obtain ⟨g₁, hg₁⟩ := refresh_ok hi hr (hmet hr hd)
      rw [outcome_find_indexed hi hrow hn hd, outcome_bind_ok hg₁]
      exact ⟨_, _, rfl⟩

theorem rows_of_failed_addNode {n : NodeId} {f : Fault} (hg : g.Sound)
    (h : outcome (addNode w n) g = (.error f, g')) : g'.rows = g.rows := by
  unfold addNode at h
  rcases outcome_bind_cases h with ⟨f', hf, -⟩ | ⟨o, g₁, ho, hk⟩
  · exact (find_safe hg hf).2.1
  cases o with
  | some r => exact nomatch (Prod.mk.inj hk).1
  | none =>
    have hins := insertRow_ok (g := g₁) (isHashable_of_missing hg.indexed ho)
    simp only [Option.isSome_none, Bool.false_eq_true, if_false] at hk
    rw [outcome_bind_ok hins] at hk
    exact nomatch (Prod.mk.inj hk).1

theorem rows_of_failed_removeNode {n : NodeId} {f : Fault} (hg : g.Sound)
    (h : outcome (removeNode w n) g = (.error f, g')) : g'.rows = g.rows := by
  unfold removeNode at h
  rcases outcome_bind_cases h with ⟨f', hf, -⟩ | ⟨o, g₁, ho, hk⟩
  · exact (find_safe hg hf).2.1
  cases o with
  | none => exact nomatch (Prod.mk.inj hk).1
  | some r =>
    obtain ⟨hs, -, hlive⟩ := find_safe hg ho
    obtain ⟨row, hr⟩ := hlive rfl
    exact nomatch (Prod.mk.inj
      ((outcome_bind_ok (outcome_removeRow hs.sound.indexed hr)).symm.trans hk)).1

theorem rows_of_failed_removeEdge {t : PartialTriplet} {f : Fault} (hg : g.Sound)
    (h : outcome (removeEdge w t) g = (.error f, g')) : g'.rows = g.rows := by
  rcases t with ⟨_ | main, _ | subject, _ | i⟩
  case some.some.some =>
    rcases outcome_bind_cases h with ⟨f', hf, -⟩ | ⟨m, g₁, hm, h⟩
    · exact (find_safe hg hf).2.1
    obtain ⟨hs₁, hfr₁, hlive⟩ := find_safe hg hm
    rcases outcome_bind_cases h with ⟨f', hf, -⟩ | ⟨s, g₂, hs, h⟩
    · exact (find_safe hs₁.sound hf).2.1.trans hfr₁
    obtain ⟨-, hfr₂, -⟩ := find_safe hs₁.sound hs
    rcases m with _ | r
    · exact nomatch (Prod.mk.inj h).1
    rcases s with _ | s
    · exact nomatch (Prod.mk.inj h).1
    obtain ⟨row, hr⟩ := hlive rfl
    rw [← row?_of_rows hfr₂] at hr
    rcases outcome_bind_cases h with ⟨f', hf, -⟩ | ⟨o, g₃, ho, h⟩
    · obtain ⟨rfl, -⟩ := edgePosition_cases hr hf
      exact hfr₂.trans hfr₁
    obtain ⟨rfl, ⟨f', he, -⟩ | ho⟩ := edgePosition_cases hr ho
    · exact nomatch he
    rcases o with _ | position
    · exact nomatch (Prod.mk.inj h).1
    · obtain ⟨hp, -⟩ := List.findIdx?_eq_some_iff_getElem.mp (Except.ok.inj ho).symm
      exact nomatch (Prod.mk.inj
        ((outcome_bind_ok (outcome_removeEdgeAt hr hp)).symm.trans h)).1
  all_goals exact nomatch (Prod.mk.inj h).1

theorem outcome_ensureMain_missing {n : NodeId} (hn : (w.node n).isHashable = true) :
    outcome (ensureMain w none (some n)) g =
      (.ok (some g.rows.length), g.inserted n (w.node n)) := by
  unfold ensureMain
  rw [outcome_bind_ok (insertRow_ok hn), outcome_pure]

theorem ensureMain_ok {o : Option Nat} {p : Option NodeId}
    (hp : ∀ ⦃n⦄, p = some n → o = none → (w.node n).isHashable = true) :
    ∃ o' g', outcome (ensureMain w o p) g = (.ok o', g') := by
  rcases o with _ | r
  · rcases p with _ | n
    · exact ⟨_, _, rfl⟩
    · exact ⟨_, _, outcome_ensureMain_missing (hp rfl rfl)⟩
  · exact ⟨_, _, rfl⟩

/-- A row that the lookup of the subject can meet is the one of the main node that has just been
inserted: before that there was none. -/
theorem ensureSubject_ok {o : Option Nat} {p : Option NodeId} (hg : g.Sound)
    (hp : ∀ ⦃n⦄, p = some n → o = none → (w.node n).isHashable = true ∧
      ∀ ⦃r row⦄, g.row? r = some row → g.indexed? (w.node n) = some r →
        (w.node row.node).isHashable = true) :
    ∃ o' g', outcome (ensureSubject w o p) g = (.ok o', g') := by
  rcases o with _ | r
  · rcases p with _ | n
    · exact ⟨_, _, rfl⟩
    · obtain ⟨hn, hmet⟩ := hp rfl rfl
      obtain ⟨o, g₁, ho⟩ := find_ok hg.indexed hn hmet
      unfold ensureSubject
      rw [outcome_bind_ok ho]
      cases o with
      | some r => exact ⟨_, _, rfl⟩
      | none =>
        dsimp only
        rw [outcome_bind_ok (insertRow_ok hn)]
        exact ⟨_, _, rfl⟩
  · exact ⟨_, _, rfl⟩

theorem join_ok {a : Option Nat} (ha : ∀ ⦃r⦄, a = some r → ∃ row, g.row? r = some row)
    (b : Option Nat) (i : Option EdgeId) : ∃ j g', outcome (join a b i) g = (.ok j, g') := by
  rcases a with _ | r <;> rcases b with _ | s <;> rcases i with _ | i
  case some.some.some =>
    obtain ⟨row, hr⟩ := ha rfl
    exact ⟨_, _, outcome_join hr s i⟩
  all_goals exact ⟨_, _, rfl⟩

theorem isHashable_of_met {m n : NodeId} {r : Nat} {row : Row}
    (hm : (w.node m).isHashable = true) (hd : g.indexed? (w.node n) = none)
    (hr : (g.inserted m (w.node m)).row? r = some row)
    (hnow : (g.inserted m (w.node m)).indexed? (w.node n) = some r) :
    (w.node row.node).isHashable = true := by
  rw [indexed?_inserted] at hnow
  by_cases ha : (w.node m).alike (w.node n) = true
  · rw [if_pos ha] at hnow
    obtain rfl := Option.some.inj hnow
    rw [row?_inserted_self] at hr
    obtain rfl := Option.some.inj hr
    exact hm
  · rw [if_neg ha] at hnow
    exact nomatch hd.symm.trans hnow

/-- Once the parts of a triplet have been looked up, nothing fails. -/
theorem LookedUp.placeTriplet_ok {t : PartialTriplet} {main subject : Option Nat}
    (hl : LookedUp w g t main subject) :
    ∃ b g', outcome (placeTriplet w t main subject) g = (.ok b, g') := by
  have hmain : ∀ ⦃n⦄, t.main = some n → main = none → (w.node n).isHashable = true :=
    fun _ hn hm => (hl.mainMissing hn hm).1
  obtain ⟨main', g₃, hmain'⟩ := ensureMain_ok (g := g) hmain
  obtain ⟨hs₃, hx₃⟩ := ensureMain_cases hl.sound hl.mainMissing hmain'
  have hsubject : ∀ ⦃n⦄, t.subject = some n → subject = none →
      (w.node n).isHashable = true ∧ ∀ ⦃r row⦄, g₃.row? r = some row →
        g₃.indexed? (w.node n) = some r → (w.node row.node).isHashable = true := by
    intro n hn hm
    obtain ⟨hh, -, hd⟩ := hl.subjectMissing hn hm
    refine ⟨hh, ?_⟩
    intro r row hr hnow
    rcases hx₃ rfl with ⟨rfl, -⟩ | ⟨m, hnone, hm, -, rfl⟩
    · exact nomatch hd.symm.trans hnow
    · exact isHashable_of_met (hmain hm hnone) hd hr hnow
  obtain ⟨subject', g₄, hsubject'⟩ := ensureSubject_ok hs₃.sound hsubject
  obtain ⟨j, g₅, hj⟩ := join_ok (hl.ensured hmain' hsubject').mainRow subject' t.edge
  unfold placeTriplet
  rw [outcome_bind_ok hmain', outcome_bind_ok hsubject', outcome_bind_ok hj]
  exact ⟨_, _, rfl⟩

theorem rows_of_failed_addTriplet {t : PartialTriplet} {f : Fault} (hg : g.Sound)
    (h : outcome (addTriplet w t) g = (.error f, g')) : g'.rows = g.rows := by
  rcases addTriplet_cases hg h with ⟨-, hfr⟩ | ⟨main, subject, g₂, hl, h⟩
  · exact hfr
  · obtain ⟨b, g₃, hok⟩ := hl.placeTriplet_ok
    exact nomatch (Prod.mk.inj (hok.symm.trans h)).1

theorem rows_of_failed {c : Change} {f : Fault} (hg : g.Sound)
    (h : outcome (c.perform w) g = (.error f, g')) : g'.rows = g.rows := by
  cases c with
  | addNode n => exact rows_of_failed_addNode hg h
  | removeNode n => exact rows_of_failed_removeNode hg h
  | addTriplet t => exact rows_of_failed_addTriplet hg h
  | removeEdge t => exact rows_of_failed_removeEdge hg h

theorem size_of_rows (hi : g.Indexed) (hi' : g'.Indexed) (h : g'.rows = g.rows) :
    g'.size = g.size := by
  rw [hi'.size_eq, hi.size_eq, nodes_of_rows h]

/-- A change that fails, at whatever point of a history with edits in place, leaves the nodes, the
triplets and the size of the graph as they were. -/
theorem failed_change_unseen {s : World} (hs : Reachable s) {c : Change} {f : Fault}
    (h : (outcome (c.perform s.contents) s.graph).1 = .error f) :
    (s.next (.change c)).graph.nodes = s.graph.nodes ∧
      (s.next (.change c)).graph.triplets = s.graph.triplets ∧
      (s.next (.change c)).graph.size = s.graph.size := by
  have hg := reachable_sound hs
  have hrows : (s.next (.change c)).graph.rows = s.graph.rows := rows_of_failed hg (Prod.ext h rfl)
  have hg' := step_sound hg (.change c)
  exact ⟨nodes_of_rows hrows, triplets_of_rows hrows, size_of_rows hg.indexed hg'.indexed hrows⟩

/-- Nodes 0 and 1 hold the same, and node 2 something that can be changed in place. -/
def changeable : Contents where
  node n := ⟨if n < 2 then "a" else "b", if n = 2 then [(.text "p", .bytes true [1])] else []⟩
  edge _ := ⟨"e", []⟩

def edited : World :=
  ((World.mk changeable empty).next (.change (.addNode 0))).next (.editNode 0 ⟨"b", []⟩)

theorem reachable_edited : Reachable edited :=
  .step _ (.step _ (.init changeable))

/-- A triplet of nodes 1 and 2: the lookup of node 1 meets the row of node 0 and moves its entry,
and then the lookup of node 2 fails. -/
def halfway : Change := .addTriplet ⟨some 1, some 2, some 0⟩

theorem failed_triplet_unseen :
    (outcome (halfway.perform edited.contents) edited.graph).1 = .error .wrongKind ∧
      (edited.next (.change halfway)).graph.nodes = [0] ∧
      (edited.next (.change halfway)).graph.triplets = [] ∧
      (edited.next (.change halfway)).graph.size = 1 ∧
      edited.graph.indexed? (changeable.node 1) = some 0 ∧
      (edited.next (.change halfway)).graph.indexed? (changeable.node 1) = none := by
  have hfails : (outcome (halfway.perform edited.contents) edited.graph).1 = .error .wrongKind := by
    decide +kernel
  obtain ⟨hnodes, htriplets, hsize⟩ := failed_change_unseen reachable_edited hfails
  exact ⟨hfails, hnodes, htriplets, hsize, by decide +kernel, by decide +kernel⟩

end GraphTemplate.Graph
