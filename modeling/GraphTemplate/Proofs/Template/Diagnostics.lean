import GraphTemplate.Proofs.Template.Verdicts
import GraphTemplate.Proofs.Template.WellFormed

/-! What is told of a graph whose edges do not fit. The check goes from node to node and tells of
the first that something is wrong about; what it tells of the edges of that node is so. -/
namespace GraphTemplate

def Violation.Cause.triple? : Violation.Cause → Option Triple
  | undeclared triple => some triple
  | belowMinimum triple _ _ => some triple
  | aboveMaximum triple _ _ => some triple
  | _ => none

theorem Rule.cases_of_checkCount {r : Rule} {count : Int} {e : Failure}
    (h : r.checkCount count = .error e) :
    count < r.min ∧ e = .violation ⟨.belowMinimum r.triple count r.min, []⟩ ∨
      (r.min ≤ count ∧ r.max ≠ -1 ∧ r.max < count) ∧
        e = .violation ⟨.aboveMaximum r.triple count r.max, []⟩ := by
  unfold checkCount at h
  split at h
  · next hmin => exact .inl ⟨hmin, (Except.error.inj h).symm⟩
  · next hmin =>
    split at h
    · exact nomatch h
    · next hmax =>
      rw [allows_iff] at hmax
      refine .inr ⟨?_, (Except.error.inj h).symm⟩
      omega

namespace Template

open GraphTemplate.Graph

variable {t : Template} {w : Contents} {g : Graph} {n : NodeId} {v : Violation}

theorem Told.triple?_eq_none {kind : EntityKind} {e : Entity} {cause : Violation.Cause}
    (h : t.Told kind e cause) : cause.triple? = none := by
  cases h with
  | unknownType => rfl
  | entity ht h =>
    cases h with
    | keys extra missing => rfl
    | property hp h => cases h <;> rfl

/-- A violation of an entity is none of a rule for edges. -/
theorem triple?_of_checkEntity (ht : t.WellFormed) {kind : EntityKind} {e : Entity}
    (h : t.checkEntity kind e = .error (.violation v)) : v.cause.triple? = none :=
  (ht.told_checkEntity kind e v h).triple?_eq_none

theorem triple?_of_checkChildren (ht : t.WellFormed) {cs : List (NodeId × EdgeId)}
    (h : t.checkChildren w cs = .error (.violation v)) : v.cause.triple? = none := by
  induction cs with
  | nil => exact nomatch h
  | cons c cs ih =>
    rw [checkChildren, Check.seq_eq_error_iff, Check.seq_eq_error_iff] at h
    rcases h with h | ⟨-, h | ⟨-, h⟩⟩
    · exact triple?_of_checkEntity ht h
    · exact triple?_of_checkEntity ht h
    · exact ih h

theorem cases_of_checkLinks {main : String} {counted seen links : List Link} {e : Failure}
    (h : t.checkLinks main counted seen links = .error e) :
    ∃ link ∈ links,
      t.rule? main link.1 link.2 = none ∧
          e = .violation ⟨.undeclared ⟨main, link.1, link.2⟩, []⟩ ∨
        ∃ r, t.rule? main link.1 link.2 = some r ∧
          r.checkCount (counted.count link) = .error e := by
  induction links generalizing seen with
  | nil => exact nomatch h
  | cons link links ih =>
    have hrest : ∀ {seen}, t.checkLinks main counted seen links = .error e → _ :=
      fun h => (ih h).imp fun _ hl => hl.imp_left (List.mem_cons_of_mem link)
    unfold checkLinks at h
    split at h
    · exact hrest h
    · split at h
      · next r hr =>
        rw [Check.seq_eq_error_iff] at h
        rcases h with h | ⟨-, h⟩
        · exact ⟨link, List.mem_cons_self, .inr ⟨r, hr, h⟩⟩
        · exact hrest h
      · next hr => exact ⟨link, List.mem_cons_self, .inl ⟨hr, (Except.error.inj h).symm⟩⟩

theorem cases_of_checkUnused {links : List Link} {rules : List Rule} {e : Failure}
    (h : checkUnused links rules = .error e) :
    ∃ r ∈ rules, (r.subject, r.edge) ∉ links ∧ r.checkCount 0 = .error e := by
  induction rules with
  | nil => exact nomatch h
  | cons r rules ih =>
    unfold checkUnused at h
    by_cases hl : (r.subject, r.edge) ∈ links
    · have hrest : checkUnused links rules = .error e := by simpa [hl] using h
      exact (ih hrest).imp fun _ hr => hr.imp_left (List.mem_cons_of_mem r)
    · have hrest : (r.checkCount 0 >>= fun _ => checkUnused links rules) = .error e := by
        simpa [hl] using h
      rw [Check.seq_eq_error_iff] at hrest
      rcases hrest with h | ⟨-, h⟩
      · exact ⟨r, List.mem_cons_self, hl, h⟩
      · exact (ih h).imp fun _ hr => hr.imp_left (List.mem_cons_of_mem r)

/-- What is wrong about the edges of a node: one that no rule is for, or too few or too many for a
rule. -/
inductive Offends (t : Template) (w : Contents) (g : Graph) (n : NodeId) :
    Violation.Cause → Prop where
  | undeclared {u : Triplet NodeId EdgeId} (hu : u ∈ g.triplets) (hn : u.main = n)
      (hr : t.rule? (w.node n).typeName (w.node u.subject).typeName (w.edge u.edge).typeName =
        none) :
      Offends t w g n (.undeclared
        ⟨(w.node n).typeName, (w.node u.subject).typeName, (w.edge u.edge).typeName⟩)
  | belowMinimum {subject edge : String} {r : Rule}
      (hr : t.rule? (w.node n).typeName subject edge = some r)
      (hmin : count w g n subject edge < r.min) :
      Offends t w g n (.belowMinimum ⟨(w.node n).typeName, subject, edge⟩
        (count w g n subject edge) r.min)
  | aboveMaximum {subject edge : String} {r : Rule}
      (hr : t.rule? (w.node n).typeName subject edge = some r)
      (hmin : r.min ≤ count w g n subject edge) (hbound : r.max ≠ -1)
      (hmax : r.max < count w g n subject edge) :
      Offends t w g n (.aboveMaximum ⟨(w.node n).typeName, subject, edge⟩
        (count w g n subject edge) r.max)

theorem Offends.main_eq {cause : Violation.Cause} {triple : Triple} (h : Offends t w g n cause)
    (hc : cause.triple? = some triple) : (w.node n).typeName = triple.main := by
  cases h <;> exact congrArg Triple.main (Option.some.inj hc)

/-- A number of edges that a rule refuses is told with the rule's own names. -/
theorem offends_of_checkCount (hp : t.rules.Placed) {subject edge : String} {r : Rule} {c : Int}
    (hr : t.rule? (w.node n).typeName subject edge = some r)
    (hc : c = count w g n subject edge) (h : r.checkCount c = .error (.violation v)) :
    Offends t w g n v.cause ∧ v.contexts = [] := by
  subst hc
  obtain ⟨hmain, hsubject, hedge⟩ := hp hr
  have htriple : r.triple = ⟨(w.node n).typeName, subject, edge⟩ := by
    rw [Rule.triple, hmain, hsubject, hedge]
  rcases Rule.cases_of_checkCount h with ⟨hmin, he⟩ | ⟨⟨hmin, hbound, hmax⟩, he⟩
  · obtain rfl := Failure.violation.inj he
    rw [htriple]
    exact ⟨.belowMinimum hr hmin, rfl⟩
  · obtain rfl := Failure.violation.inj he
    rw [htriple]
    exact ⟨.aboveMaximum hr hmin hbound hmax, rfl⟩

/-- A check of a node that tells of its edges has found nothing wrong before. -/
theorem offends_of_survey (ht : t.WellFormed) (hp : t.rules.Placed)
    (h : t.survey w g n = .error (.violation v)) (hv : v.cause.triple? ≠ none) :
    t.checkNode (w.node n) = .ok () ∧
      (∀ u ∈ g.outgoing n,
        t.checkEdge (w.edge u.edge) = .ok () ∧ t.checkNode (w.node u.subject) = .ok ()) ∧
      Offends t w g n v.cause ∧ v.contexts = [] := by
  simp only [survey, Check.seq_eq_error_iff, checkChildren_eq_ok_iff] at h
  rcases h with h | ⟨hnode, h | ⟨hchildren, h⟩⟩
  · exact absurd (triple?_of_checkEntity ht h) hv
  · exact absurd (triple?_of_checkChildren ht h) hv
  refine ⟨hnode, fun u hu => hchildren _ (List.mem_map_of_mem hu), ?_⟩
  rcases h with h | ⟨-, h⟩
  · obtain ⟨link, hlink, ⟨hr, he⟩ | ⟨r, hr, h⟩⟩ := cases_of_checkLinks h
    · obtain ⟨u, hu, rfl⟩ := List.mem_map.mp hlink
      obtain ⟨hu, hn⟩ := mem_outgoing.mp hu
      obtain rfl := Failure.violation.inj he
      exact ⟨.undeclared hu hn hr, rfl⟩
    · apply offends_of_checkCount hp hr _ h
      rw [count_links, ← degree_eq_count]
  · obtain ⟨r, hr, hlink, h⟩ := cases_of_checkUnused h
    obtain ⟨hr, hmain⟩ := hp.mem_ofMain_iff.mp hr
    have hrule : t.rule? (w.node n).typeName r.subject r.edge = some r := by
      rw [← hmain]
      exact hp.mem_toList_iff.mp hr
    apply offends_of_checkCount hp hrule _ h
    rw [← degree_eq_count, degree_eq_zero_iff.mpr]
    · rfl
    · intro u hu he
      exact hlink (List.mem_map.mpr ⟨u, hu, he⟩)

/-- What is told of the edges in a graph is so, of the first node that something is wrong about. -/
theorem judgeGraph_offends {d : Document} {s : World} {triple : Triple}
    (ht : (Build.ofDocument d).result = .ok t) (hs : Reachable s)
    (hh : ∀ n ∈ s.graph.nodes, (s.contents.node n).isHashable = true)
    (hv : (t.judgeGraph s.contents s.graph).1 = .ok (.invalid v))
    (hc : v.cause.triple? = some triple) :
    ∃ before m after, s.graph.nodes = before ++ m :: after ∧
      (∀ n ∈ before, Conforms t s.contents s.graph n) ∧
      t.checkNode (s.contents.node m) = .ok () ∧
      (∀ u ∈ s.graph.triplets, u.main = m →
        t.checkEdge (s.contents.edge u.edge) = .ok () ∧
          t.checkNode (s.contents.node u.subject) = .ok ()) ∧
      (s.contents.node m).typeName = triple.main ∧
      Offends t s.contents s.graph m v.cause ∧ v.contexts = [] := by
  have hp : t.rules.Placed := by
    obtain ⟨hd, rfl⟩ := Build.clean_of_result ht
    exact hd.placed
  have hsurvey : forM s.graph.nodes (t.survey s.contents s.graph) = .error (.violation v) := by
    rw [judgeGraph_eq_survey (reachable_sound hs) hh] at hv
    rcases h : forM s.graph.nodes (t.survey s.contents s.graph) with (v' | f) | _ <;>
      simp_all [Verdict.ofCheck]
  obtain ⟨before, m, after, hnodes, hbefore, hm⟩ := Check.exists_of_forM_eq_error hsurvey
  obtain ⟨hnode, hends, hoffends, hcontexts⟩ :=
    offends_of_survey (Build.wellFormed_of_result ht).1 hp hm (by simp [hc])
  refine ⟨before, m, after, hnodes, fun n hn => survey_eq_ok_iff.mp (hbefore n hn), hnode, ?_,
    hoffends.main_eq hc, hoffends, hcontexts⟩
  intro u hu hmain
  exact hends u (mem_outgoing.mpr ⟨hu, hmain⟩)

def exclusive : Document where
  labels := .empty
  nodes := .ofList [("m", ⟨[], .empty, .ofList [("n", [⟨"e", 0, 1⟩])]⟩),
    ("n", ⟨[], .ofList [("name", ⟨"string", ⟨[], [], [], []⟩⟩)], .empty⟩)]
  edges := .ofList [("e", ⟨.empty⟩)]

def named (name : String) : Entity := ⟨"n", [(.text "name", .text name)]⟩

def crowded : World :=
  World.next (World.next (World.next
    ⟨⟨fun n => if n = 0 then ⟨"m", []⟩ else named (toString n), fun _ => ⟨"e", []⟩⟩, Graph.empty⟩
    (.change (.addNode 1)))
    (.change (.addTriplet ⟨some 0, some 1, some 0⟩)))
    (.change (.addTriplet ⟨some 0, some 2, some 1⟩))

theorem judgeGraph_crowded :
    (Build.ofDocument exclusive).result = .ok exclusive.template ∧ Reachable crowded ∧
      (∀ n ∈ crowded.graph.nodes, (crowded.contents.node n).isHashable = true) ∧
      (exclusive.template.judgeGraph crowded.contents crowded.graph).1 =
        .ok (.invalid ⟨.aboveMaximum ⟨"m", "n", "e"⟩ 2 1, []⟩) ∧
      ∃ before m after, crowded.graph.nodes = before ++ m :: after ∧
        (∀ n ∈ before, Conforms exclusive.template crowded.contents crowded.graph n) ∧
        Offends exclusive.template crowded.contents crowded.graph m
          (.aboveMaximum ⟨"m", "n", "e"⟩ 2 1) := by
  have ht : (Build.ofDocument exclusive).result = .ok exclusive.template :=
    Build.result_of_no_defects (by decide) (by decide)
  have hs : Reachable crowded := .step _ (.step _ (.step _ (.init _)))
  have hh : ∀ n ∈ crowded.graph.nodes, (crowded.contents.node n).isHashable = true := by
    have hnodes : crowded.graph.nodes = [1, 0, 2] := by decide +kernel
    rw [hnodes]
    decide
  have hv : (exclusive.template.judgeGraph crowded.contents crowded.graph).1 =
      .ok (.invalid ⟨.aboveMaximum ⟨"m", "n", "e"⟩ 2 1, []⟩) := by decide +kernel
  obtain ⟨before, m, after, hnodes, hbefore, -, -, -, hoffends, -⟩ :=
    judgeGraph_offends ht hs hh hv rfl
  exact ⟨ht, hs, hh, hv, before, m, after, hnodes, hbefore, hoffends⟩

end Template

end GraphTemplate
