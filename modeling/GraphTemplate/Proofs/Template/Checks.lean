import GraphTemplate.Template

/-! What the parts of a check ask for. A check that goes through a list passes if nothing in the
list is found to be wrong, in whatever order it looks. -/
namespace GraphTemplate

namespace Check

theorem bind_eq_ok_iff {α β : Type} {c : Check α} {k : α → Check β} {b : β} :
    (c >>= k) = .ok b ↔ ∃ a, c = .ok a ∧ k a = .ok b := by
  cases c with
  | error e =>
    constructor
    · intro h
      exact nomatch h
    · rintro ⟨a, h, -⟩
      exact nomatch h
  | ok a =>
    constructor
    · intro h
      exact ⟨a, rfl, h⟩
    · rintro ⟨a', ha, h⟩
      obtain rfl := Except.ok.inj ha
      exact h

theorem seq_eq_ok_iff {α : Type} {c : Check Unit} {c' : Check α} {a : α} :
    (c >>= fun _ => c') = .ok a ↔ c = .ok () ∧ c' = .ok a := by
  rw [bind_eq_ok_iff]
  constructor
  · rintro ⟨_, hc, hc'⟩
    exact ⟨hc, hc'⟩
  · rintro ⟨hc, hc'⟩
    exact ⟨(), hc, hc'⟩

theorem seq_eq_error_iff {α : Type} {c : Check Unit} {c' : Check α} {e : Failure} :
    (c >>= fun _ => c') = .error e ↔ c = .error e ∨ c = .ok () ∧ c' = .error e := by
  cases c with
  | error e' => simp [bind, Except.bind]
  | ok a => simp [bind, Except.bind]

theorem lift_bind_eq_violation {α β : Type} {c : Except Fault α} {k : α → Check β} {x : Violation}
    (h : (lift c >>= k) = .error (.violation x)) :
    ∃ a, c = .ok a ∧ k a = .error (.violation x) := by
  cases c with
  | error f => exact nomatch h
  | ok a => exact ⟨a, rfl, h⟩

section

variable {α : Type} {f : α → Check Unit} {l : List α}

theorem forM_eq_ok_iff : forM l f = .ok () ↔ ∀ a ∈ l, f a = .ok () := by
  induction l with
  | nil => simp [pure, Except.pure]
  | cons a l ih => rw [List.forM_cons, seq_eq_ok_iff, ih, List.forall_mem_cons]

/-- The element that a traversal ends with, everything before it being passed. -/
theorem exists_of_forM_eq_error {e : Failure} (h : forM l f = .error e) :
    ∃ before a after, l = before ++ a :: after ∧ (∀ b ∈ before, f b = .ok ()) ∧
      f a = .error e := by
  induction l with
  | nil => exact nomatch h
  | cons a l ih =>
    rw [List.forM_cons, seq_eq_error_iff] at h
    rcases h with h | ⟨ha, h⟩
    · exact ⟨[], a, l, rfl, by simp, h⟩
    · obtain ⟨before, b, after, rfl, hbefore, hb⟩ := ih h
      exact ⟨a :: before, b, after, rfl, List.forall_mem_cons.mpr ⟨ha, hbefore⟩, hb⟩

end

end Check

namespace Template

variable {t : Template} {w : Contents}

theorem checkTriplet_eq_ok_iff {main subject edge : Entity} :
    t.checkTriplet ⟨some main, some subject, some edge⟩ = .ok () ↔
      (t.rule? main.typeName subject.typeName edge.typeName).isSome = true ∧
        t.checkNode main = .ok () ∧ t.checkNode subject = .ok () ∧ t.checkEdge edge = .ok () := by
  have hrun : t.checkTriplet ⟨some main, some subject, some edge⟩ =
      if (t.rule? main.typeName subject.typeName edge.typeName).isNone then
        Check.violated (.undeclared ⟨main.typeName, subject.typeName, edge.typeName⟩)
      else Check.within "Main node of triplet" (t.checkNode main) >>= fun _ =>
        Check.within "Subject node of triplet" (t.checkNode subject) >>= fun _ =>
          Check.within "Edge of triplet" (t.checkEdge edge) := by
    unfold checkTriplet
    simp only [present, bind, Except.bind]
    split <;> rfl
  rw [hrun]
  cases t.rule? main.typeName subject.typeName edge.typeName with
  | none =>
    constructor
    · intro h
      exact nomatch h
    · intro h
      exact nomatch h.1
  | some rule =>
    rw [if_neg (by rw [Option.isNone_some]; exact Bool.false_ne_true)]
    rw [Check.seq_eq_ok_iff, Check.seq_eq_ok_iff, Check.within_eq_ok, Check.within_eq_ok,
      Check.within_eq_ok]
    exact ⟨fun h => ⟨rfl, h⟩, fun h => h.2⟩

theorem checkChildren_eq_ok_iff {cs : List (NodeId × EdgeId)} :
    t.checkChildren w cs = .ok () ↔
      ∀ c ∈ cs, t.checkEdge (w.edge c.2) = .ok () ∧ t.checkNode (w.node c.1) = .ok () := by
  induction cs with
  | nil => exact ⟨fun _ c hc => absurd hc List.not_mem_nil, fun _ => rfl⟩
  | cons c cs ih =>
    unfold checkChildren
    rw [Check.seq_eq_ok_iff, Check.seq_eq_ok_iff, ih, List.forall_mem_cons, and_assoc]

theorem checkLinks_eq_ok_iff {main : String} {counted seen links : List Link} :
    t.checkLinks main counted seen links = .ok () ↔
      ∀ link ∈ links, link ∉ seen →
        ∃ rule, t.rule? main link.1 link.2 = some rule ∧
          rule.allows (counted.count link) = true := by
  induction links generalizing seen with
  | nil => exact ⟨fun _ c hc => absurd hc List.not_mem_nil, fun _ => rfl⟩
  | cons link links ih =>
    unfold checkLinks
    rw [List.forall_mem_cons, List.contains_eq_mem]
    by_cases hs : link ∈ seen
    · rw [decide_eq_true hs, if_pos rfl, ih]
      exact ⟨fun h => ⟨fun hn => absurd hs hn, h⟩, fun h => h.2⟩
    · rw [decide_eq_false hs, if_neg Bool.false_ne_true]
      cases hr : t.rule? main link.1 link.2 with
      | none =>
        refine ⟨fun h => (nomatch h), fun h => ?_⟩
        obtain ⟨rule, hrule, -⟩ := h.1 hs
        exact nomatch hrule
      | some rule =>
        dsimp only
        rw [Check.seq_eq_ok_iff, Rule.checkCount_eq_ok_iff, ih]
        constructor
        · rintro ⟨ha, h⟩
          refine ⟨fun _ => ⟨rule, rfl, ha⟩, fun l hl hn => ?_⟩
          -- a link that is the one just counted has been allowed with it
          by_cases he : l = link
          · subst he
            exact ⟨rule, hr, ha⟩
          · exact h l hl (List.not_mem_cons_of_ne_of_not_mem he hn)
        · rintro ⟨hlink, h⟩
          obtain ⟨_, hrule, ha⟩ := hlink hs
          obtain rfl := Option.some.inj hrule
          exact ⟨ha, fun l hl hn => h l hl (List.not_mem_of_not_mem_cons hn)⟩

theorem checkUnused_eq_ok_iff {links : List Link} {rules : List Rule} :
    checkUnused links rules = .ok () ↔
      ∀ rule ∈ rules, (rule.subject, rule.edge) ∉ links → rule.allows 0 = true := by
  induction rules with
  | nil => exact ⟨fun _ c hc => absurd hc List.not_mem_nil, fun _ => rfl⟩
  | cons rule rules ih =>
    unfold checkUnused
    rw [List.forall_mem_cons, ← ih, List.contains_eq_mem]
    by_cases hl : (rule.subject, rule.edge) ∈ links
    · rw [decide_eq_true hl]
      exact ⟨fun h => ⟨fun hn => absurd hl hn, h⟩, fun h => h.2⟩
    · rw [decide_eq_false hl]
      show (rule.checkCount 0 >>= fun _ => checkUnused links rules) = .ok () ↔ _
      rw [Check.seq_eq_ok_iff, Rule.checkCount_eq_ok_iff]
      exact ⟨fun h => ⟨fun _ => h.1, h.2⟩, fun h => ⟨h.1 hl, h.2⟩⟩

end Template

end GraphTemplate
