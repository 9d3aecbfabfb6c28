import GraphTemplate.Proofs.Graph.Attended
import GraphTemplate.Proofs.Graph.Places

/-! Histories without edits in place. However often operations fail on the way, no two nodes of such
a graph hold the same, and the index has an entry for each of them. -/
namespace GraphTemplate.Graph

variable {w : Contents} {g g' : Graph} {n : NodeId} {r : Nat} {row : Row}

/-- A graph that has seen what its nodes hold, and has an entry for each of them. -/
structure Current (w : Contents) (g : Graph) : Prop where
  tidy : Tidy w g fun _ => false
  hashable : ∀ ⦃r row⦄, g.row? r = some row → (w.node row.node).isHashable = true

theorem Tidy.cleared (h : Tidy w g' (g.clear fun _ => false)) : Tidy w g' fun _ => false :=
  h.congr fun _ _ => (Bool.false_and _).symm

namespace Current

theorem sole (h : Current w g) (n : NodeId) : Sole w g n := by
  refine Or.inr ?_
  intro a ha b hb han hbn
  obtain ⟨r, row, hr, rfl⟩ := mem_nodes.mp ha
  obtain ⟨s, row', hs, rfl⟩ := mem_nodes.mp hb
  have hrs : some r = some s := by
    rw [← (h.tidy.entered hr).mpr rfl, ← (h.tidy.entered hs).mpr rfl, indexed?_congr han,
      indexed?_congr hbn]
  obtain rfl := Option.some.inj hrs
  exact congrArg Row.node (Option.some.inj (hr.symm.trans hs))

theorem find (h : Current w g) {x : Except Fault (Option Nat)}
    (hf : outcome (Graph.find w n) g = (x, g')) : g' = g := by
  rcases find_changes h.tidy.sound.indexed hf with he | ⟨r, row, old, hr, hk, hstale, -⟩
  · exact he
  · obtain ⟨c, hc, ha⟩ := h.tidy.fresh hr
    obtain rfl := Option.some.inj (hk.symm.trans hc)
    exact absurd (Entity.alike_symm ha) hstale

theorem inserted (h : Current w g) (hn : Missing w g n) :
    Current w (g.inserted n (w.node n)) where
  tidy := (h.tidy.inserted hn.outside hn.unindexed).cleared
  hashable := by
    intro r row hr
    rcases row?_inserted_cases hr with ⟨-, rfl⟩ | hr
    · exact hn.hashable
    · exact h.hashable hr

theorem dropRow (h : Current w g) (hr : g.row? r = some row) : Current w (g.dropRow r) where
  tidy := (h.tidy.dropRow hr).cleared
  hashable := by
    intro s row' hs
    obtain ⟨-, old, hold, rfl⟩ := row?_of_row?_dropRow hr hs
    have hh := h.hashable hold
    exact hh

theorem changeChildren {change : List (Nat × List EdgeId) → List (Nat × List EdgeId)}
    (h : Current w g) (hs : (g.changeChildren r change).Sound) :
    Current w (g.changeChildren r change) where
  tidy := h.tidy.changeChildren hs
  hashable := by
    intro s row' hrow
    cases hr : g.row? r with
    | none =>
      rw [Graph.changeChildren, hr] at hrow
      exact h.hashable hrow
    | some row =>
      obtain ⟨old, hold, hn, -⟩ := row?_of_row?_changeChildren hr hrow
      rw [hn]
      exact h.hashable hold

theorem findPart (h : Current w g) {p : Option NodeId} {x : Except Fault (Option Nat)}
    (hf : outcome (Graph.findPart w p) g = (x, g')) :
    g' = g ∧ (∀ ⦃r⦄, x = .ok (some r) → ∃ row, g.row? r = some row) ∧
      ∀ ⦃n⦄, p = some n → x = .ok none → Missing w g n := by
  obtain ⟨-, -, hlive, -⟩ := findPart_cases h.tidy.sound hf
  cases p with
  | none =>
    obtain ⟨-, rfl⟩ := Prod.mk.inj hf
    exact ⟨rfl, hlive, fun _ hn => nomatch hn⟩
  | some m =>
    obtain rfl := h.find hf
    refine ⟨rfl, hlive, ?_⟩
    rintro n hn rfl
    obtain rfl := Option.some.inj hn
    exact missing_of_find h.tidy.sound.indexed hf

/-- A lookup changes nothing, so that what comes after it decides. -/
theorem after_find {α : Type} (h : Current w g) {m : Option Nat → Action α}
    (hfound : ∀ ⦃r row⦄, g.row? r = some row → Current w (outcome (m (some r)) g).2)
    (hmissing : Missing w g n → Current w (outcome (m none) g).2) :
    Current w (outcome (Graph.find w n >>= m) g).2 := by
  rcases hf : outcome (Graph.find w n) g with ⟨f | o, g'⟩
  · rw [outcome_bind_error hf]
    obtain rfl := h.find hf
    exact h
  · rw [outcome_bind_ok hf]
    obtain rfl := h.find hf
    cases o with
    | none => exact hmissing (missing_of_find h.tidy.sound.indexed hf)
    | some r =>
      obtain ⟨-, -, hlive⟩ := find_safe h.tidy.sound hf
      obtain ⟨row, hr⟩ := hlive rfl
      exact hfound hr

theorem addNode (h : Current w g) (n : NodeId) : Current w (outcome (Graph.addNode w n) g).2 := by
  refine h.after_find (fun _ _ _ => h) fun hn => ?_
  simp only [Option.isSome_none, Bool.false_eq_true, if_false]
  rw [outcome_bind_ok (insertRow_ok hn.hashable)]
  exact h.inserted hn

theorem removeNode (h : Current w g) (n : NodeId) :
    Current w (outcome (Graph.removeNode w n) g).2 := by
  refine h.after_find (fun r row hr => ?_) fun _ => h
  dsimp only
  rw [outcome_bind_ok (outcome_removeRow h.tidy.sound.indexed hr)]
  exact h.dropRow hr

theorem ensureMain (h : Current w g) {o : Option Nat} {p : Option NodeId}
    (hp : ∀ ⦃n⦄, p = some n → o = none → Missing w g n) :
    ∃ o' g', outcome (Graph.ensureMain w o p) g = (.ok o', g') ∧ Current w g' := by
  rcases o with _ | r
  · rcases p with _ | n
    · exact ⟨_, _, rfl, h⟩
    · exact ⟨_, _, outcome_ensureMain_missing (hp rfl rfl).hashable, h.inserted (hp rfl rfl)⟩
  · exact ⟨_, _, rfl, h⟩

theorem ensureSubject (h : Current w g) (o : Option Nat) (p : Option NodeId) :
    Current w (outcome (Graph.ensureSubject w o p) g).2 := by
  rcases o with _ | r
  · rcases p with _ | n
    · exact h
    · refine h.after_find (fun _ _ _ => h) fun hn => ?_
      dsimp only
      rw [outcome_bind_ok (insertRow_ok hn.hashable)]
      exact h.inserted hn
  · exact h

theorem addTriplet (h : Current w g) (t : PartialTriplet) :
    Current w (outcome (Graph.addTriplet w t) g).2 := by
  have hsound : (outcome (Graph.addTriplet w t) g).2.Sound :=
    (addTriplet_safe h.tidy.sound rfl).sound
  unfold Graph.addTriplet at hsound ⊢
  rcases hm : outcome (Graph.findPart w t.main) g with ⟨f | main, g₁⟩
  · rw [outcome_bind_error hm]
    obtain ⟨rfl, -⟩ := h.findPart hm
    exact h
  obtain ⟨rfl, hlive, hmain⟩ := h.findPart hm
  have hlive : ∀ ⦃r⦄, main = some r → ∃ row, g₁.row? r = some row :=
    fun _ hr => hlive (congrArg _ hr)
  rw [outcome_bind_ok hm] at hsound ⊢
  rcases hs : outcome (Graph.findPart w t.subject) g₁ with ⟨f | subject, g₂⟩
  · rw [outcome_bind_error hs]
    obtain ⟨rfl, -⟩ := h.findPart hs
    exact h
  obtain ⟨rfl, -⟩ := h.findPart hs
  rw [outcome_bind_ok hs] at hsound ⊢
  rcases hj : outcome (joined w main subject t.edge) g₂ with ⟨f | j, g₃⟩
  · rw [outcome_bind_error hj]
    obtain ⟨rfl, -⟩ := joined_cases hlive hj
    exact h
  obtain ⟨rfl, -⟩ := joined_cases hlive hj
  rw [outcome_bind_ok hj] at hsound ⊢
  cases j
  case true => exact h
  simp only [Bool.false_eq_true, if_false] at hsound ⊢
  obtain ⟨main', g₄, hmain', h₄⟩ := h.ensureMain fun n hn hnone => hmain hn (congrArg _ hnone)
  rw [outcome_bind_ok hmain'] at hsound ⊢
  have h₅ := h₄.ensureSubject subject t.subject
  rcases hs' : outcome (Graph.ensureSubject w subject t.subject) g₄ with ⟨f | subject', g₅⟩
  · rw [outcome_bind_error hs']
    rwa [hs'] at h₅
  rw [hs'] at h₅
  rw [outcome_bind_ok hs', outcome_bind_snd] at hsound ⊢
  rcases join_changes main' subject' t.edge g₅ with he | ⟨r, change, he⟩
  · rwa [he]
  · rw [he] at hsound ⊢
    exact h₅.changeChildren hsound

theorem removeEdge (h : Current w g) (t : PartialTriplet) :
    Current w (outcome (Graph.removeEdge w t) g).2 := by
  rcases t with ⟨_ | main, _ | subject, _ | i⟩
  case some.some.some =>
    refine h.after_find (fun r row hr => ?_) fun _ => h.after_find (fun _ _ _ => h) fun _ => h
    refine h.after_find (fun s _ _ => ?_) fun _ => h
    dsimp only
    rcases hp : outcome (edgePosition w r s i) g with ⟨f | o, g'⟩
    · rw [outcome_bind_error hp]
      obtain ⟨rfl, -⟩ := edgePosition_cases hr hp
      exact h
    · rw [outcome_bind_ok hp]
      obtain ⟨rfl, ⟨f, he, -⟩ | he⟩ := edgePosition_cases hr hp
      · exact nomatch he
      cases o with
      | none => exact h
      | some p =>
        obtain ⟨hlt, -⟩ := List.findIdx?_eq_some_iff_getElem.mp (Except.ok.inj he).symm
        dsimp only
        rw [outcome_bind_ok (outcome_removeEdgeAt hr hlt)]
        exact h.changeChildren (h.tidy.sound.dropped hr s p)
  all_goals exact h

theorem perform (h : Current w g) (c : Change) : Current w (outcome (c.perform w) g).2 := by
  cases c with
  | addNode n => exact h.addNode n
  | removeNode n => exact h.removeNode n
  | addTriplet t => exact h.addTriplet t
  | removeEdge t => exact h.removeEdge t

end Current

/-- What operations on an empty graph come to while nothing is edited in place. -/
inductive Unedited : World → Prop where
  | init (w : Contents) : Unedited ⟨w, empty⟩
  | change {s : World} (c : Change) : Unedited s → Unedited (s.next (.change c))
  | lookup {s : World} (n : NodeId) : Unedited s → Unedited (s.next (.lookup n))

theorem Unedited.current {s : World} (h : Unedited s) : Current s.contents s.graph := by
  induction h with
  | init w => exact ⟨tidy_empty w _, fun _ _ hr => nomatch hr⟩
  | change c _ ih => exact ih.perform c
  | @lookup s n _ ih =>
    rcases hf : outcome (find s.contents n) s.graph with ⟨x, g'⟩
    have hg : (s.next (.lookup n)).graph = s.graph := (congrArg Prod.snd hf).trans (ih.find hf)
    show Current s.contents (s.next (.lookup n)).graph
    rw [hg]
    exact ih

end GraphTemplate.Graph
