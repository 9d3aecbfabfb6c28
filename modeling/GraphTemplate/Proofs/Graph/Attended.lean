import GraphTemplate.Proofs.Graph.Stored

/-! Graphs whose nodes are looked up after every edit. The index then has seen what every node
holds, but it keeps one row for a content: a node that is edited to the content of another one
takes over its entry and never gives it back. The other node is shadowed until it is edited itself.
-/
namespace GraphTemplate.Graph

variable {w : Contents} {g g' : Graph} {n : NodeId} {shadowed : NodeId → Bool}

/-- A graph that has seen what its nodes hold, and has entries for those that are not shadowed. -/
structure Tidy (w : Contents) (g : Graph) (shadowed : NodeId → Bool) : Prop where
  sound : g.Sound
  fresh : ∀ ⦃r row⦄, g.row? r = some row →
    ∃ c, g.key? r = some c ∧ c.alike (w.node row.node) = true
  entered : ∀ ⦃r row⦄, g.row? r = some row →
    (g.indexed? (w.node row.node) = some r ↔ shadowed row.node = false)

theorem tidy_empty (w : Contents) (shadowed : NodeId → Bool) : Tidy w empty shadowed where
  sound := sound_empty
  fresh _ _ h := nomatch h
  entered _ _ h := nomatch h

theorem Tidy.congr {shadowed' : NodeId → Bool} (h : Tidy w g shadowed)
    (he : ∀ n ∈ g.nodes, shadowed' n = shadowed n) : Tidy w g shadowed' where
  sound := h.sound
  fresh := h.fresh
  entered := by
    intro r row hr
    rw [he row.node (mem_nodes.mpr ⟨r, row, hr, rfl⟩)]
    exact h.entered hr

/-- A node is stored itself, or a node that is not shadowed holds the same. -/
def Evident (w : Contents) (g : Graph) (shadowed : NodeId → Bool) (n : NodeId) : Prop :=
  n ∈ g.nodes ∨ ∃ m ∈ g.nodes, shadowed m = false ∧ (w.node m).alike (w.node n) = true

def located (w : Contents) (g : Graph) (n : NodeId) : Option Nat :=
  (g.rowOf? n).or (g.indexed? (w.node n))

namespace Tidy

theorem indexed?_iff (h : Tidy w g shadowed) {c : Entity} {r : Nat} :
    g.indexed? c = some r ↔ ∃ row, g.row? r = some row ∧
      (w.node row.node).alike c = true ∧ shadowed row.node = false := by
  constructor
  · intro hc
    obtain ⟨row, k, hr, hk, ha⟩ := h.sound.indexed.row_of_indexed? hc
    obtain ⟨k', hk', hfresh⟩ := h.fresh hr
    obtain rfl := Option.some.inj (hk.symm.trans hk')
    have ha : (w.node row.node).alike c = true := Entity.alike_trans (Entity.alike_symm hfresh) ha
    refine ⟨row, hr, ha, (h.entered hr).mp ?_⟩
    rw [indexed?_congr ha, hc]
  · rintro ⟨row, hr, ha, hs⟩
    rw [← indexed?_congr ha]
    exact (h.entered hr).mpr hs

theorem outcome_refresh (h : Tidy w g shadowed) (hw : w.Hashable) {r : Nat} {row : Row}
    (hr : g.row? r = some row) : outcome (refresh w r) g = (.ok (w.node row.node), g) := by
  obtain ⟨c, hk, ha⟩ := h.fresh hr
  rw [Graph.outcome_refresh hr hk, Entity.hashed_of_isHashable (hw.node _)]
  simp only [Entity.alike_symm ha, if_true]

/-- Looking a node up is reading the rows and the index. -/
theorem outcome_find (h : Tidy w g shadowed) (hw : w.Hashable) (n : NodeId) :
    outcome (find w n) g = (.ok (g.located w n), g) := by
  cases hrow : g.rowOf? n with
  | some r =>
    obtain ⟨row, hr, -⟩ := row_of_rowOf? hrow
    rw [outcome_find_stored h.sound.indexed hrow, outcome_bind_ok (h.outcome_refresh hw hr),
      outcome_pure, located, hrow]
    rfl
  | none =>
    rw [located, hrow, Option.none_or]
    cases hd : g.indexed? (w.node n) with
    | none => exact outcome_find_unindexed h.sound.indexed hrow (hw.node n) hd
    | some r =>
      obtain ⟨row, hr, ha, -⟩ := h.indexed?_iff.mp hd
      rw [outcome_find_indexed h.sound.indexed hrow (hw.node n) hd,
        outcome_bind_ok (h.outcome_refresh hw hr), outcome_pure, if_pos ha]

theorem isSome_located_iff (h : Tidy w g shadowed) :
    (g.located w n).isSome = true ↔ Evident w g shadowed n := by
  rw [Evident, located, Option.isSome_or, Bool.or_eq_true]
  refine or_congr ?_ ?_
  · rw [Option.isSome_iff_ne_none, ne_eq, rowOf?_eq_none_iff, not_not]
  · rw [Option.isSome_iff_exists]
    constructor
    · rintro ⟨r, hr⟩
      obtain ⟨row, hr, ha, hs⟩ := h.indexed?_iff.mp hr
      exact ⟨row.node, mem_nodes.mpr ⟨r, row, hr, rfl⟩, hs, ha⟩
    · rintro ⟨m, hm, hs, ha⟩
      obtain ⟨r, row, hr, rfl⟩ := mem_nodes.mp hm
      exact ⟨r, h.indexed?_iff.mpr ⟨row, hr, ha, hs⟩⟩

theorem row_of_located (h : Tidy w g shadowed) {r : Nat} (hr : g.located w n = some r) :
    ∃ row, g.row? r = some row := by
  rcases Option.or_eq_some_iff.mp hr with hr | ⟨-, hr⟩
  · obtain ⟨row, hrow, -⟩ := row_of_rowOf? hr
    exact ⟨row, hrow⟩
  · obtain ⟨row, hrow, -⟩ := h.indexed?_iff.mp hr
    exact ⟨row, hrow⟩

end Tidy

theorem located_eq_none_iff :
    g.located w n = none ↔ n ∉ g.nodes ∧ g.indexed? (w.node n) = none := by
  rw [located, Option.or_eq_none_iff, rowOf?_eq_none_iff]

def clear (g : Graph) (shadowed : NodeId → Bool) (n : NodeId) : Bool :=
  shadowed n && decide (n ∈ g.nodes)

theorem clear_clear (h : ∀ n ∈ g.nodes, n ∈ g'.nodes) :
    g'.clear (g.clear shadowed) = g.clear shadowed := by
  funext n
  unfold clear
  by_cases hn : n ∈ g.nodes
  · simp [hn, h n hn]
  · simp [hn]

def Extends {α : Type} (w : Contents) (g : Graph) (shadowed : NodeId → Bool)
    (x : Except Fault α × Graph) : Prop :=
  ∃ a g', x = (.ok a, g') ∧ Tidy w g' (g.clear shadowed) ∧ ∀ n ∈ g.nodes, n ∈ g'.nodes

namespace Tidy

theorem clear (h : Tidy w g shadowed) : Tidy w g (g.clear shadowed) :=
  h.congr fun n hn => by simp [Graph.clear, hn]

theorem inserted (h : Tidy w g shadowed) (hn : n ∉ g.nodes) (hd : g.indexed? (w.node n) = none) :
    Tidy w (g.inserted n (w.node n)) (g.clear shadowed) := by
  refine ⟨h.sound.inserted hn _, ?_, ?_⟩
  · intro r row hr
    rcases row?_inserted_cases hr with ⟨rfl, rfl⟩ | hr
    · exact ⟨w.node n, by rw [key?_inserted, if_pos rfl], Entity.alike_refl _⟩
    · obtain ⟨c, hk, ha⟩ := h.fresh hr
      exact ⟨c, key?_inserted_of_key? h.sound.indexed hk, ha⟩
  · intro r row hr
    unfold Graph.clear
    rw [indexed?_inserted]
    rcases row?_inserted_cases hr with ⟨rfl, rfl⟩ | hr
    · simp [hn, Entity.alike_refl]
    · have hmem : row.node ∈ g.nodes := mem_nodes.mpr ⟨r, row, hr, rfl⟩
      have hlt := row?_lt hr
      rw [decide_eq_true hmem, Bool.and_true, ← h.entered hr]
      split
      · next ha =>
        -- the content of a row that was entered is not the one of the new row
        rw [← indexed?_congr ha, hd]
        simp only [Option.some.injEq, reduceCtorEq, iff_false]
        omega
      · rfl

theorem dropRow (h : Tidy w g shadowed) {r : Nat} {row : Row} (hr : g.row? r = some row) :
    Tidy w (g.dropRow r) (g.clear shadowed) := by
  refine ⟨h.sound.dropRow hr, ?_, ?_⟩
  · intro s row' hs
    obtain ⟨hne, old, hold, rfl⟩ := row?_of_row?_dropRow hr hs
    obtain ⟨c, hk, ha⟩ := h.fresh hold
    exact ⟨c, by rw [key?_dropRow, if_neg hne, hk], ha⟩
  · intro s row' hs
    obtain ⟨hne, old, hold, rfl⟩ := row?_of_row?_dropRow hr hs
    have hmem : old.node ∈ g.nodes := mem_nodes.mpr ⟨s, old, hold, rfl⟩
    obtain ⟨c, hk, -⟩ := h.fresh hr
    show (g.dropRow r).indexed? (w.node old.node) = some s ↔ g.clear shadowed old.node = false
    rw [Graph.clear, decide_eq_true hmem, Bool.and_true, ← h.entered hold, indexed?_dropRow hk]
    split
    · next ha =>
      -- the entry that is lost was one of the row that is dropped
      rw [← indexed?_congr ha.1, ha.2]
      simp only [Option.some.injEq, reduceCtorEq, false_iff]
      exact fun he => hne he.symm
    · rfl

theorem changeChildren (h : Tidy w g shadowed) {r : Nat}
    {change : List (Nat × List EdgeId) → List (Nat × List EdgeId)}
    (hs : (g.changeChildren r change).Sound) : Tidy w (g.changeChildren r change) shadowed := by
  cases hr : g.row? r with
  | none =>
    have he : g.changeChildren r change = g := by rw [Graph.changeChildren, hr]
    rwa [he]
  | some row =>
    refine ⟨hs, ?_, ?_⟩
    · intro s row' hs
      obtain ⟨old, hold, hn, -⟩ := row?_of_row?_changeChildren hr hs
      rw [key?_changeChildren, hn]
      exact h.fresh hold
    · intro s row' hs
      obtain ⟨old, hold, hn, -⟩ := row?_of_row?_changeChildren hr hs
      rw [hn, indexed?_changeChildren hr]
      exact h.entered hold

theorem outcome_addNode (h : Tidy w g shadowed) (hw : w.Hashable) (n : NodeId) :
    outcome (addNode w n) g =
      if (g.located w n).isSome then (.ok false, g) else (.ok true, g.inserted n (w.node n)) := by
  unfold addNode
  rw [outcome_bind_ok (h.outcome_find hw n)]
  split
  · rfl
  · rw [outcome_bind_ok (insertRow_ok (hw.node n)), outcome_pure]

theorem outcome_removeNode (h : Tidy w g shadowed) (hw : w.Hashable) (n : NodeId) :
    outcome (removeNode w n) g = match g.located w n with
      | some r => (.ok true, g.dropRow r)
      | none => (.ok false, g) := by
  unfold removeNode
  rw [outcome_bind_ok (h.outcome_find hw n)]
  cases hl : g.located w n with
  | none => rfl
  | some r =>
    obtain ⟨row, hr⟩ := h.row_of_located hl
    exact outcome_bind_ok (outcome_removeRow h.sound.indexed hr)

theorem outcome_findPart (h : Tidy w g shadowed) (hw : w.Hashable) (p : Option NodeId) :
    outcome (findPart w p) g = (.ok (p.bind (g.located w)), g) := by
  cases p with
  | none => rfl
  | some n => exact h.outcome_find hw n

theorem unchanged (h : Tidy w g shadowed) {α : Type} (a : α) : Extends w g shadowed (.ok a, g) :=
  ⟨a, g, rfl, h.clear, fun _ hn => hn⟩

theorem extends_insertRow (h : Tidy w g shadowed) (hw : w.Hashable) (hl : g.located w n = none) :
    Extends w g shadowed (outcome (do return some (← insertRow w n)) g) := by
  obtain ⟨hn, hd⟩ := located_eq_none_iff.mp hl
  refine ⟨some g.rows.length, g.inserted n (w.node n), ?_, h.inserted hn hd, ?_⟩
  · rw [outcome_bind_ok (insertRow_ok (hw.node n)), outcome_pure]
  · intro m hm
    rw [nodes_inserted]
    exact List.mem_append_left _ hm

theorem extends_ensureMain (h : Tidy w g shadowed) (hw : w.Hashable) (p : Option NodeId) :
    Extends w g shadowed (outcome (ensureMain w (p.bind (g.located w)) p) g) := by
  cases p with
  | none => exact h.unchanged none
  | some n =>
    rw [Option.bind_some]
    cases hl : g.located w n with
    | some r => exact h.unchanged (some r)
    | none => exact h.extends_insertRow hw hl

theorem extends_ensureSubject (h : Tidy w g shadowed) (hw : w.Hashable) (o : Option Nat)
    (p : Option NodeId) : Extends w g shadowed (outcome (ensureSubject w o p) g) := by
  unfold ensureSubject
  split
  · next n =>
    rw [outcome_bind_ok (h.outcome_find hw n)]
    cases hl : g.located w n with
    | some r => exact h.unchanged (some r)
    | none => exact h.extends_insertRow hw hl
  · exact h.unchanged _

end Tidy

theorem joined_ok (hw : w.Hashable) {a : Option Nat}
    (ha : ∀ ⦃r⦄, a = some r → ∃ row, g.row? r = some row) (b : Option Nat) (i : Option EdgeId) :
    ∃ j, outcome (joined w a b i) g = (.ok j, g) := by
  unfold joined
  split
  · obtain ⟨row, hr⟩ := ha rfl
    rw [outcome_bind_ok (edgePosition_of_hashable hw hr _ _)]
    exact ⟨_, rfl⟩
  · exact ⟨false, rfl⟩

theorem join_changes (a b : Option Nat) (i : Option EdgeId) (g : Graph) :
    (outcome (join a b i) g).2 = g ∨
      ∃ r change, (outcome (join a b i) g).2 = g.changeChildren r change := by
  rcases a with _ | r <;> rcases b with _ | s <;> rcases i with _ | i
  case some.some.some =>
    cases hr : g.row? r with
    | none =>
      refine Or.inl ?_
      unfold join editChildren rowAt
      rw [outcome_bind, outcome_bind, outcome_bind_ok (outcome_get g), hr]
      rfl
    | some row =>
      rw [Graph.outcome_join hr]
      exact Or.inr ⟨r, _, rfl⟩
  all_goals exact Or.inl rfl

namespace Tidy

theorem addTriplet (h : Tidy w g shadowed) (hw : w.Hashable) (t : PartialTriplet) :
    Tidy w (outcome (Graph.addTriplet w t) g).2 (g.clear shadowed) := by
  have hsound : (outcome (Graph.addTriplet w t) g).2.Sound := (addTriplet_safe h.sound rfl).sound
  unfold Graph.addTriplet at hsound ⊢
  rw [outcome_bind_ok (h.outcome_findPart hw _),
    outcome_bind_ok (h.outcome_findPart hw _)] at hsound ⊢
  have hlive : ∀ ⦃r⦄, t.main.bind (g.located w) = some r → ∃ row, g.row? r = some row := by
    intro r hr
    obtain ⟨n, -, hl⟩ := Option.bind_eq_some_iff.mp hr
    exact h.row_of_located hl
  obtain ⟨j, hj⟩ := joined_ok hw hlive (t.subject.bind (g.located w)) t.edge
  rw [outcome_bind_ok hj] at hsound ⊢
  cases j with
  | true => exact h.clear
  | false =>
    obtain ⟨main, g₁, hmain, h₁, hmem₁⟩ := h.extends_ensureMain hw t.main
    obtain ⟨subject, g₂, hsubject, h₂, -⟩ :=
      h₁.extends_ensureSubject hw (t.subject.bind (g.located w)) t.subject
    rw [clear_clear hmem₁] at h₂
    simp only [Bool.false_eq_true, if_false] at hsound ⊢
    rw [outcome_bind_ok hmain, outcome_bind_ok hsubject, outcome_bind_snd] at hsound ⊢
    rcases join_changes main subject t.edge g₂ with he | ⟨r, change, he⟩
    · rwa [he]
    · rw [he] at hsound ⊢
      exact h₂.changeChildren hsound

theorem removeEdge (h : Tidy w g shadowed) (hw : w.Hashable) (t : PartialTriplet) :
    Tidy w (outcome (Graph.removeEdge w t) g).2 (g.clear shadowed) := by
  have hsound : (outcome (Graph.removeEdge w t) g).2.Sound := (removeEdge_safe h.sound rfl).sound
  rcases t with ⟨_ | main, _ | subject, _ | i⟩
  case some.some.some =>
    unfold Graph.removeEdge at hsound ⊢
    dsimp only at hsound ⊢
    rw [outcome_bind_ok (h.outcome_find hw main),
      outcome_bind_ok (h.outcome_find hw subject)] at hsound ⊢
    rcases hr : g.located w main with _ | r
    · exact h.clear
    rcases hs : g.located w subject with _ | s
    · exact h.clear
    rw [hr, hs] at hsound
    dsimp only at hsound ⊢
    obtain ⟨row, hrow⟩ := h.row_of_located hr
    rw [outcome_bind_ok (edgePosition_of_hashable hw hrow s i)] at hsound ⊢
    rcases hp : (g.edgesBetween r s).findIdx? fun j => (w.edge j).alike (w.edge i) with _ | position
    · exact h.clear
    · obtain ⟨hlt, -⟩ := List.findIdx?_eq_some_iff_getElem.mp hp
      rw [hp] at hsound
      dsimp only at hsound ⊢
      rw [outcome_bind_ok (outcome_removeEdgeAt hrow hlt)] at hsound ⊢
      exact h.clear.changeChildren hsound
  all_goals exact h.clear

theorem perform (h : Tidy w g shadowed) (hw : w.Hashable) (c : Change) :
    Tidy w (outcome (c.perform w) g).2 (g.clear shadowed) := by
  cases c with
  | addNode n =>
    show Tidy w (outcome (Graph.addNode w n) g).2 (g.clear shadowed)
    rw [h.outcome_addNode hw]
    cases hl : g.located w n with
    | some r => exact h.clear
    | none =>
      obtain ⟨hn, hd⟩ := located_eq_none_iff.mp hl
      exact h.inserted hn hd
  | removeNode n =>
    show Tidy w (outcome (Graph.removeNode w n) g).2 (g.clear shadowed)
    rw [h.outcome_removeNode hw]
    cases hl : g.located w n with
    | none => exact h.clear
    | some r =>
      obtain ⟨row, hr⟩ := h.row_of_located hl
      exact h.dropRow hr
  | addTriplet t => exact h.addTriplet hw t
  | removeEdge t => exact h.removeEdge hw t

end Tidy

/-- What is shadowed once a stored node has been edited and looked up: the node itself has an entry,
and the nodes with its new content have lost theirs to it. -/
def overtake (w : Contents) (n : NodeId) (e : Entity) (shadowed : NodeId → Bool) (m : NodeId) :
    Bool :=
  if e.alike (w.node n) then shadowed m else m != n && (shadowed m || e.alike (w.node m))

namespace Tidy

theorem of_alike {w' : Contents} (h : Tidy w g shadowed)
    (he : ∀ n ∈ g.nodes, (w'.node n).alike (w.node n) = true) : Tidy w' g shadowed := by
  have ha {r : Nat} {row : Row} (hr : g.row? r = some row) :=
    he row.node (mem_nodes.mpr ⟨r, row, hr, rfl⟩)
  refine ⟨h.sound, ?_, ?_⟩
  · intro r row hr
    obtain ⟨c, hk, hfresh⟩ := h.fresh hr
    exact ⟨c, hk, Entity.alike_trans hfresh (Entity.alike_symm (ha hr))⟩
  · intro r row hr
    rw [indexed?_congr (ha hr)]
    exact h.entered hr

theorem setNode_alike (h : Tidy w g shadowed) {e : Entity} (he : e.alike (w.node n) = true) :
    Tidy (w.setNode n e) g shadowed := by
  refine h.of_alike fun m _ => ?_
  by_cases hm : m = n
  · simpa [Contents.setNode, hm] using he
  · simp [Contents.setNode, hm, Entity.alike_refl]

theorem setNode_other (h : Tidy w g shadowed) (hn : n ∉ g.nodes) (e : Entity) :
    Tidy (w.setNode n e) g shadowed := by
  refine h.of_alike fun m hm => ?_
  have hne : m ≠ n := fun he => hn (he ▸ hm)
  simp [Contents.setNode, hne, Entity.alike_refl]

theorem setNode_rekeyed (h : Tidy w g shadowed) {e old : Entity} {r : Nat} {row : Row}
    (hr : g.row? r = some row) (hk : g.key? r = some old)
    (he : ¬e.alike (w.node row.node) = true) :
    Tidy (w.setNode row.node e) (g.rekeyed r old e) (overtake w row.node e shadowed) := by
  have hother {s : Nat} {row' : Row} (hs : g.row? s = some row') (hne : s ≠ r) :
      row'.node ≠ row.node := fun hn => hne (h.sound.linked.distinct hs hr hn)
  refine ⟨h.sound.of_rows (h.sound.indexed.rekeyed hk e) rfl, ?_, ?_⟩
  · intro s row' (hs : g.row? s = some row')
    rw [key?_rekeyed]
    by_cases hsr : s = r
    · subst hsr
      obtain rfl := Option.some.inj (hr.symm.trans hs)
      exact ⟨e, if_pos rfl, by simp [Contents.setNode, Entity.alike_refl]⟩
    · rw [if_neg hsr]
      simpa [Contents.setNode, hother hs hsr] using h.fresh hs
  · intro s row' (hs : g.row? s = some row')
    by_cases hsr : s = r
    · subst hsr
      obtain rfl := Option.some.inj (hr.symm.trans hs)
      rw [indexed?_rekeyed]
      simp [Contents.setNode, overtake, he, Entity.alike_refl]
    · have hne := hother hs hsr
      have hnode : (w.setNode row.node e).node row'.node = w.node row'.node := by
        simp [Contents.setNode, hne]
      have hshadow : overtake w row.node e shadowed row'.node =
          (shadowed row'.node || e.alike (w.node row'.node)) := by
        simp [overtake, he, hne]
      have hentered := h.entered hs
      rw [hnode, hshadow, indexed?_rekeyed]
      by_cases ha : e.alike (w.node row'.node) = true
      · -- the entry of the other row now is the one of the edited row
        have hrs : ¬r = s := fun hrs => hsr hrs.symm
        simp [ha, hrs]
      · have ha' : e.alike (w.node row'.node) = false := by simpa using ha
        rw [if_neg ha, ha', Bool.or_false]
        by_cases hl : old.alike (w.node row'.node) = true ∧ g.indexed? old = some r
        · -- the entry that is given up had been taken from the other row before
          rw [if_pos hl, ← hentered, ← indexed?_congr hl.1, hl.2]
          simpa using fun hrs : r = s => hsr hrs.symm
        · rwa [if_neg hl]

/-- A stored node that is edited is looked up by its row, which is brought up to date. -/
theorem edited (h : Tidy w g shadowed) (hn : n ∈ g.nodes) {e : Entity} (he : e.isHashable = true) :
    Tidy (w.setNode n e) (outcome (find (w.setNode n e) n) g).2 (overtake w n e shadowed) := by
  obtain ⟨r, hrow⟩ := Option.ne_none_iff_exists'.mp (mt rowOf?_eq_none_iff.mp (not_not_intro hn))
  obtain ⟨row, hr, rfl⟩ := row_of_rowOf? hrow
  obtain ⟨old, hk, hfresh⟩ := h.fresh hr
  have hnode : (w.setNode row.node e).node row.node = e := by simp [Contents.setNode]
  have hrefresh := Graph.outcome_refresh (w := w.setNode row.node e) hr hk
  rw [hnode, Entity.hashed_of_isHashable he] at hrefresh
  rw [outcome_find_stored h.sound.indexed hrow, outcome_bind_ok hrefresh, outcome_pure]
  dsimp only
  have hsame : e.alike old = e.alike (w.node row.node) := by
    rw [Entity.alike_comm, Entity.alike_congr hfresh, Entity.alike_comm]
  rw [hsame]
  by_cases ha : e.alike (w.node row.node) = true
  · rw [if_pos ha]
    refine (h.setNode_alike ha).congr fun m _ => ?_
    rw [overtake, if_pos ha]
  · rw [if_neg ha]
    exact h.setNode_rekeyed hr hk ha

end Tidy

def Event.Hashable : Event → Prop
  | .editNode _ e => e.isHashable = true
  | .editEdge _ e => e.isHashable = true
  | _ => True

/-- A stored node is edited to what another stored node holds. -/
def Event.Clashes (s : World) : Event → Prop
  | .editNode n e => n ∈ s.graph.nodes ∧
      ∃ m ∈ s.graph.nodes, m ≠ n ∧ e.alike (s.contents.node m) = true
  | _ => False

/-- A node that is edited is looked up at once. -/
def World.attend (s : World) : Event → World
  | .editNode n e => (s.next (.editNode n e)).next (.lookup n)
  | e => s.next e

def Event.shadow (s : World) (shadowed : NodeId → Bool) : Event → NodeId → Bool
  | .change _ => s.graph.clear shadowed
  | .editNode n e =>
    if n ∈ s.graph.nodes then overtake s.contents n e shadowed else shadowed
  | _ => shadowed

structure Watched where
  world : World
  shadowed : NodeId → Bool

namespace Watched

variable {s : Watched} {e : Event} {es : List Event}

def next (s : Watched) (e : Event) : Watched := ⟨s.world.attend e, e.shadow s.world s.shadowed⟩

def init (w : Contents) : Watched := ⟨⟨w, empty⟩, fun _ => false⟩

def run (s : Watched) (es : List Event) : Watched := es.foldl next s

/-- No stored node is ever edited to what another one holds at that time. -/
def Calm (s : Watched) : List Event → Prop
  | [] => True
  | e :: es => ¬e.Clashes s.world ∧ (s.next e).Calm es

structure Valid (s : Watched) : Prop where
  hashable : s.world.contents.Hashable
  tidy : Tidy s.world.contents s.world.graph s.shadowed

theorem valid_init {w : Contents} (hw : w.Hashable) : (init w).Valid := ⟨hw, tidy_empty w _⟩

theorem hashable_next (h : s.world.contents.Hashable) (he : e.Hashable) :
    (s.next e).world.contents.Hashable := by
  cases e with
  | change c => exact h
  | lookup n => exact h
  | editNode n e =>
    refine ⟨fun m => ?_, h.edge⟩
    show (if m = n then e else s.world.contents.node m).isHashable = true
    split
    · exact he
    · exact h.node m
  | editEdge i e =>
    refine ⟨h.node, fun j => ?_⟩
    show (if j = i then e else s.world.contents.edge j).isHashable = true
    split
    · exact he
    · exact h.edge j

theorem valid_next (h : s.Valid) (he : e.Hashable) : (s.next e).Valid := by
  refine ⟨hashable_next h.hashable he, ?_⟩
  cases e with
  | change c => exact h.tidy.perform h.hashable c
  | lookup n =>
    show Tidy s.world.contents (outcome (find s.world.contents n) s.world.graph).2 s.shadowed
    rw [h.tidy.outcome_find h.hashable]
    exact h.tidy
  | editNode n e =>
    by_cases hn : n ∈ s.world.graph.nodes
    · have hshadow : (Event.editNode n e).shadow s.world s.shadowed =
          overtake s.world.contents n e s.shadowed := if_pos hn
      show Tidy _ _ ((Event.editNode n e).shadow s.world s.shadowed)
      rw [hshadow]
      exact h.tidy.edited hn he
    · have hshadow : (Event.editNode n e).shadow s.world s.shadowed = s.shadowed := if_neg hn
      have ht := h.tidy.setNode_other hn e
      show Tidy _ (outcome (find (s.world.contents.setNode n e) n) s.world.graph).2
        ((Event.editNode n e).shadow s.world s.shadowed)
      rw [hshadow, ht.outcome_find (hashable_next h.hashable he)]
      exact ht
  | editEdge i e => exact h.tidy.of_alike fun m _ => Entity.alike_refl _

theorem valid_run (h : s.Valid) (hes : ∀ e ∈ es, e.Hashable) : (s.run es).Valid := by
  induction es generalizing s with
  | nil => exact h
  | cons e es ih =>
    rw [List.forall_mem_cons] at hes
    exact ih (valid_next h hes.1) hes.2

/-- Without a clash no stored node comes to be shadowed. -/
theorem unshadowed_next (h : s.Valid) (hc : ¬e.Clashes s.world)
    (hs : ∀ m ∈ s.world.graph.nodes, s.shadowed m = false) :
    ∀ m ∈ (s.next e).world.graph.nodes, (s.next e).shadowed m = false := by
  intro m hm
  cases e with
  | change c =>
    show s.world.graph.clear s.shadowed m = false
    by_cases hmem : m ∈ s.world.graph.nodes
    · simp [Graph.clear, hs m hmem]
    · simp [Graph.clear, hmem]
  | lookup n =>
    change m ∈ (outcome (find s.world.contents n) s.world.graph).2.nodes at hm
    rw [h.tidy.outcome_find h.hashable] at hm
    exact hs m hm
  | editNode n e =>
    have hm : m ∈ s.world.graph.nodes := by
      have hf := (find_safe (w := s.world.contents.setNode n e) (n := n) h.tidy.sound rfl).2.1
      rwa [← nodes_of_rows hf]
    show (if n ∈ s.world.graph.nodes then overtake s.world.contents n e s.shadowed else s.shadowed)
      m = false
    split
    · next hn =>
      unfold overtake
      split
      · exact hs m hm
      · by_cases hmn : m = n
        · simp [hmn]
        · have ha : ¬e.alike (s.world.contents.node m) = true :=
            fun ha => hc ⟨hn, m, hm, hmn, ha⟩
          simp [hs m hm, ha]
    · exact hs m hm
  | editEdge i e => exact hs m hm

theorem unshadowed_run (h : s.Valid) (hes : ∀ e ∈ es, e.Hashable) (hc : s.Calm es)
    (hs : ∀ m ∈ s.world.graph.nodes, s.shadowed m = false) :
    ∀ m ∈ (s.run es).world.graph.nodes, (s.run es).shadowed m = false := by
  induction es generalizing s with
  | nil => exact hs
  | cons e es ih =>
    rw [List.forall_mem_cons] at hes
    exact ih (valid_next h hes.1) hes.2 hc.2 (unshadowed_next h hc.1 hs)

end Watched

structure Discerns (w : Contents) (g : Graph) (shadowed : NodeId → Bool) : Prop where
  contains : ∀ n, ∃ b, outcome (contains w n) g = (.ok b, g) ∧
    (b = true ↔ Evident w g shadowed n)
  addNode : ∀ n, ∃ b g', outcome (addNode w n) g = (.ok b, g') ∧
    (b = true ↔ ¬Evident w g shadowed n) ∧ g'.nodes = if b then g.nodes ++ [n] else g.nodes

theorem Tidy.discerns (h : Tidy w g shadowed) (hw : w.Hashable) : Discerns w g shadowed where
  contains := by
    intro n
    refine ⟨(g.located w n).isSome, ?_, h.isSome_located_iff⟩
    unfold Graph.contains
    rw [outcome_bind_ok (h.outcome_find hw n), outcome_pure]
  addNode := by
    intro n
    have hrun := h.outcome_addNode hw n
    have hiff := h.isSome_located_iff (n := n)
    cases hl : (g.located w n).isSome with
    | true =>
      rw [if_pos hl] at hrun
      refine ⟨false, g, hrun, ?_, rfl⟩
      simpa using hiff.mp hl
    | false =>
      rw [hl] at hrun hiff
      refine ⟨true, g.inserted n (w.node n), hrun, ?_, nodes_inserted g n _⟩
      simpa using hiff

/-- Nodes that all have entries differ in content. -/
theorem Tidy.apart (h : Tidy w g fun _ => false) :
    g.nodes.Pairwise fun a b => (w.node a).alike (w.node b) = false := by
  refine h.sound.linked.nodup_nodes.pairwise_of_forall_ne ?_
  intro a ha b hb hab
  obtain ⟨r, row, hr, rfl⟩ := mem_nodes.mp ha
  obtain ⟨s, row', hs, rfl⟩ := mem_nodes.mp hb
  by_contra halike
  have halike : (w.node row.node).alike (w.node row'.node) = true := by simpa using halike
  have hrs : some r = some s := by
    rw [← (h.entered hr).mpr rfl, indexed?_congr halike, (h.entered hs).mpr rfl]
  obtain rfl := Option.some.inj hrs
  rw [hr] at hs
  exact hab (congrArg Row.node (Option.some.inj hs))

/-- In a graph whose nodes are looked up after every edit, a node is found if it is stored or if a
stored node that is not shadowed holds the same. As long as no node is edited to what another one
holds, none is shadowed, and no two stored nodes come to hold the same. -/
theorem discerns_watched {w : Contents} {es : List Event} (hw : w.Hashable)
    (hes : ∀ e ∈ es, e.Hashable) :
    let s := (Watched.init w).run es
    Discerns s.world.contents s.world.graph s.shadowed ∧
      ((Watched.init w).Calm es → Discerns s.world.contents s.world.graph (fun _ => false) ∧
        s.world.graph.nodes.Pairwise fun a b =>
          (s.world.contents.node a).alike (s.world.contents.node b) = false) := by
  intro s
  have hinit := Watched.valid_init hw
  have hs : s.Valid := Watched.valid_run hinit hes
  refine ⟨hs.tidy.discerns hs.hashable, ?_⟩
  intro hcalm
  have hshadow := Watched.unshadowed_run hinit hes hcalm fun m hm => absurd hm List.not_mem_nil
  have ht : Tidy s.world.contents s.world.graph fun _ => false :=
    hs.tidy.congr fun m hm => (hshadow m hm).symm
  exact ⟨ht.discerns hs.hashable, ht.apart⟩

def twins : Contents := ⟨fun n => ⟨if n = 0 then "a" else "b", []⟩, fun _ => ⟨"e", []⟩⟩

theorem hashable_twins : twins.Hashable := ⟨fun _ => rfl, fun _ => rfl⟩

def retyped (types : List String) : List Event :=
  [.change (.addNode 0), .change (.addNode 1)] ++ types.map fun t => .editNode 0 ⟨t, []⟩

theorem hashable_retyped (types : List String) : ∀ e ∈ retyped types, e.Hashable := by
  intro e he
  rcases List.mem_append.mp he with he | he
  · rcases List.mem_pair.mp he with rfl | rfl <;> trivial
  · obtain ⟨t, -, rfl⟩ := List.mem_map.mp he
    rfl

theorem discerns_retyped :
    (Watched.init twins).Calm (retyped ["c"]) ∧
      let s := ((Watched.init twins).run (retyped ["c"])).world
      s.graph.nodes = [0, 1] ∧ Discerns s.contents s.graph fun _ => false := by
  have hnodes : ((Watched.init twins).run (retyped [])).world.graph.nodes = [0, 1] := rfl
  have hcalm : (Watched.init twins).Calm (retyped ["c"]) := by
    refine ⟨id, id, ?_, trivial⟩
    rintro ⟨-, m, hm, hne, ha⟩
    have hm : m ∈ [0, 1] := hnodes ▸ hm
    obtain rfl : m = 1 := by simpa [hne] using hm
    exact absurd ha (by decide +kernel)
  obtain ⟨-, h⟩ := discerns_watched hashable_twins (hashable_retyped ["c"])
  exact ⟨hcalm, rfl, (h hcalm).1⟩

def parted : World := ((Watched.init twins).run (retyped ["b", "c"])).world

/-- Node 1 is stored then, but a node that holds the same is not found, and is added. -/
theorem twin_lost :
    twins.Hashable ∧ (∀ e ∈ retyped ["b", "c"], e.Hashable) ∧ parted.graph.nodes = [0, 1] ∧
      (parted.contents.node 1).alike (parted.contents.node 2) = true ∧
      (outcome (contains parted.contents 2) parted.graph).1 = .ok false ∧
      (outcome (addNode parted.contents 2) parted.graph).1 = .ok true ∧
      ¬Discerns parted.contents parted.graph fun _ => false := by
  have hnodes : parted.graph.nodes = [0, 1] := rfl
  have halike : (parted.contents.node 1).alike (parted.contents.node 2) = true :=
    Entity.alike_refl _
  have hcontains : (outcome (contains parted.contents 2) parted.graph).1 = .ok false := by
    decide +kernel
  have hevident : Evident parted.contents parted.graph (fun _ => false) 2 := by
    refine Or.inr ⟨1, ?_, rfl, halike⟩
    simp [hnodes]
  refine ⟨hashable_twins, hashable_retyped _, hnodes, halike, hcontains, by decide +kernel, ?_⟩
  intro h
  obtain ⟨b, hrun, hb⟩ := h.contains 2
  rw [hrun, hb.mpr hevident] at hcontains
  simp at hcontains

end GraphTemplate.Graph
