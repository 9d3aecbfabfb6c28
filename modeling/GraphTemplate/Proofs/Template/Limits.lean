import GraphTemplate.Proofs.Template.Faults
import GraphTemplate.Proofs.Template.Unknown
import GraphTemplate.Proofs.Template.Verdicts

/-! What keeps a template from a verdict: an integer too long to be written, a fraction too large
for a floating-point number, or a moment that universal time has no date for. Whatever is within
these limits is judged. -/
namespace GraphTemplate

open Check

/-- None of the limits can be left out: some property has no verdict on a value beyond it. -/
theorem Value.Beyond.exists_property {v : Value} {f : Fault} (h : v.Beyond f) :
    ∃ p : Property, p.WellFormed ∧ p.check v = .error (.fault f) := by
  have hdefined (s : Scalar) : Descriptor.scalar s ≠ .undefined := nofun
  have hplain (s : Scalar) : (Property.mk "p" (.scalar s) [] []).WellFormed :=
    ⟨hdefined s, Descriptor.read_text (hdefined s), by simp, by simp, by simp⟩
  cases h with
  | @integer _ n hn hl =>
    -- A text is wanted where there is none, and the message cannot show what there is.
    have htyped : Datum.ofValue? .string v = .ok none := by
      cases v with
      | text s => exact absurd hn List.not_mem_nil
      | _ => rfl
    have hunread := (writes_toText v).of_not_short hn hl
    refine ⟨⟨"p", .scalar .string, [], []⟩, hplain _, ?_⟩
    simp [Property.check, Property.checkScalar, Property.hasType, Property.wrongType, htyped,
      hunread, Check.lift, bind, Except.bind, pure, Except.pure]
  | @fraction n d hd h =>
    have htyped : Datum.ofValue? .float (.fraction n d) =
        .error (.outOfRange "number too large to convert to float") := by
      have hinf : (Binary64.ofRatio (decide (n < 0)) n.natAbs d).isInfinite = true :=
        Binary64.isInfinite_ofRatio.mpr ⟨hd, h⟩
      simp [Datum.ofValue?, Datum.floatOfRatio, hinf, Except.map]
    refine ⟨⟨"p", .scalar .float, [], []⟩, hplain _, ?_⟩
    simp [Property.check, Property.checkScalar, Property.hasType, htyped, Check.lift, bind,
      Except.bind]
  | @moment m h =>
    have hmeets : Datum.toUniversal m = .error Datum.calendarOverflow := by
      rw [Datum.toUniversal, Moment.toUniversal?_eq_none_iff.mpr h]
    have htyped : Datum.ofValue? .datetime (.moment m) = .ok (some (.datetime m)) := rfl
    refine ⟨⟨"p", .scalar .datetime, [⟨.datetime, false, .equals (.datetime m), "m"⟩], []⟩,
      ⟨hdefined _, Descriptor.read_text (hdefined _), ?_, by simp, ?_⟩, ?_⟩
    · intro r hr
      obtain rfl := List.mem_singleton.mp hr
      exact ⟨rfl, rfl⟩
    · intro r hr d hd
      obtain rfl := List.mem_singleton.mp hr
      obtain rfl := Demand.equals.inj hd
      rfl
    · simp [Property.check, Property.checkScalar, Property.hasType, Property.checkRestrictions,
        Property.anyAccepts, Restriction.accepts, Datum.meets, htyped, hmeets, Check.lift, bind,
        Except.bind, pure, Except.pure, Except.map]

namespace Subject

def Complete : Subject → Prop
  | triplet t => t.main.isSome = true ∧ t.subject.isSome = true ∧ t.edge.isSome = true
  | duplet n e => n.isSome = true ∧ e.isSome = true
  | _ => True

def entries : Subject → List (Value × Value)
  | node e | edge e => e.properties
  | triplet t => (t.main.toList ++ t.subject.toList ++ t.edge.toList).flatMap Entity.properties
  | duplet n e => (n.toList ++ e.toList).flatMap Entity.properties
  | unknown v => v.fields?.getD []

def Exceeds (s : Subject) : Fault → Prop := EntriesExceed s.entries

end Subject

theorem Entity.Exceeds.flatMap {e : Entity} {es : List Entity} {f : Fault} (h : e.Exceeds f)
    (he : e ∈ es) : EntriesExceed (es.flatMap Entity.properties) f := by
  obtain ⟨x, hx, hf⟩ := h
  exact ⟨x, List.mem_flatMap.mpr ⟨e, he, hx⟩, hf⟩

namespace Template

variable {t : Template}

theorem fails_checkEntity (t : Template) (kind : EntityKind) (e : Entity) :
    Fails e.Exceeds (t.checkEntity kind e) := by
  simp only [checkEntity]
  cases (t.typesOf kind).get? e.typeName with
  | none => exact fails_violated _
  | some type => exact (type.fails_check e.properties).within

theorem fails_checkTriplet (main subject edge : Entity) :
    Fails (Subject.triplet ⟨some main, some subject, some edge⟩).Exceeds
      (t.checkTriplet ⟨some main, some subject, some edge⟩) := by
  have hpart (kind : EntityKind) (e : Entity) (he : e ∈ [main, subject, edge]) :
      Fails (Subject.triplet ⟨some main, some subject, some edge⟩).Exceeds (t.checkEntity kind e) :=
    (t.fails_checkEntity kind e).mono fun f hf => hf.flatMap he
  have hparts : Fails (Subject.triplet ⟨some main, some subject, some edge⟩).Exceeds
      (Check.within "Main node of triplet" (t.checkNode main) >>= fun _ =>
        Check.within "Subject node of triplet" (t.checkNode subject) >>= fun _ =>
          Check.within "Edge of triplet" (t.checkEdge edge)) := by
    refine (hpart .node main (by simp)).within.bind fun _ => ?_
    refine (hpart .node subject (by simp)).within.bind fun _ => ?_
    exact (hpart .edge edge (by simp)).within
  simp only [checkTriplet, present, bind, Except.bind]
  split
  · exact fails_violated _
  · exact hparts

theorem fails_checkDuplet (node edge : Entity) :
    Fails (Subject.duplet (some node) (some edge)).Exceeds
      (t.checkDuplet (some node) (some edge)) := by
  have hpart (kind : EntityKind) (e : Entity) (he : e ∈ [node, edge]) :
      Fails (Subject.duplet (some node) (some edge)).Exceeds (t.checkEntity kind e) :=
    (t.fails_checkEntity kind e).mono fun f hf => hf.flatMap he
  have hparts : Fails (Subject.duplet (some node) (some edge)).Exceeds
      (Check.within "Node of duplet" (t.checkNode node) >>= fun _ =>
        Check.within "Edge of duplet" (t.checkEdge edge)) := by
    refine (hpart .node node (by simp)).within.bind fun _ => ?_
    exact (hpart .edge edge (by simp)).within
  simp only [checkDuplet, present, bind, Except.bind]
  split
  · exact hparts
  · exact fails_violated _

theorem exceed_of_complaint {kind : EntityKind} {candidate : Option Candidate}
    {fields : List (Value × Value)} {f : Fault}
    (h : Candidate.complaint kind candidate fields = .error f) : EntriesExceed fields f := by
  cases candidate with
  | none => exact nomatch h
  | some c =>
    simp only [Candidate.complaint] at h
    split at h
    · cases h
    · cases h
    · next f' hc =>
      obtain rfl := Except.error.inj h
      obtain ⟨e, he, hf⟩ := (c.type.fails_check (c.properties fields)).within _ hc
      exact ⟨e, (List.mem_filter.mp he).1, hf⟩

theorem fails_checkUnknown (t : Template) (v : Value) :
    Fails (Subject.unknown v).Exceeds (t.checkUnknown v) := by
  cases hv : v.fields? with
  | none =>
    simp only [checkUnknown, hv]
    exact fails_violated _
  | some fields =>
    have hentries : (Subject.unknown v).entries = fields := by
      simp only [Subject.entries, hv, Option.getD_some]
    have hcomplaint (kind : EntityKind) : Fails (EntriesExceed fields)
        (Check.lift (Candidate.complaint kind (t.candidate? kind v fields) fields)) :=
      fails_lift fun _ => exceed_of_complaint
    rw [checkUnknown_eq hv, Subject.Exceeds, hentries]
    split
    · exact fails_violated _
    · refine (hcomplaint .node).bind fun asNode => (hcomplaint .edge).bind fun asEdge => ?_
      cases asNode <;> cases asEdge
      · exact fails_ok _
      · exact fails_ok _
      · exact fails_ok _
      · exact fails_violated _

/-- A check that meets faults of some sort only comes to a verdict or to one of them. -/
theorem verdict_of_fails {α : Type} {P : Fault → Prop} {c : Check α} (h : Fails P c)
    (pass : α → Verdict) :
    (∃ verdict, Verdict.ofCheck pass c = .ok verdict) ∨
      ∃ f, Verdict.ofCheck pass c = .error f ∧ P f := by
  rcases c with (violation | f) | a
  · exact .inl ⟨.invalid violation, rfl⟩
  · exact .inr ⟨f, rfl, h f rfl⟩
  · exact .inl ⟨pass a, rfl⟩

theorem judge_cases (t : Template) {s : Subject} (hs : s.Complete) :
    (∃ verdict, t.judge s = .ok verdict) ∨ ∃ f, t.judge s = .error f ∧ s.Exceeds f := by
  cases s with
  | node e => exact verdict_of_fails (t.fails_checkEntity .node e) _
  | edge e => exact verdict_of_fails (t.fails_checkEntity .edge e) _
  | triplet r =>
    obtain ⟨_ | main, _ | subject, _ | edge⟩ := r
    case triplet.some.some.some => exact verdict_of_fails (fails_checkTriplet main subject edge) _
    all_goals simp [Subject.Complete] at hs
  | duplet n e =>
    rcases n with _ | node
    · simp [Subject.Complete] at hs
    · rcases e with _ | edge
      · simp [Subject.Complete] at hs
      · exact verdict_of_fails (fails_checkDuplet node edge) _
  | unknown v => exact verdict_of_fails (t.fails_checkUnknown v) _

open GraphTemplate.Graph

def ContentsExceed (w : Contents) (g : Graph) (f : Fault) : Prop :=
  (∃ n ∈ g.nodes, (w.node n).Exceeds f) ∨ ∃ u ∈ g.triplets, (w.edge u.edge).Exceeds f

section

variable {P : Fault → Prop} {w : Contents} {g : Graph} {n : NodeId}

theorem fails_checkChildren {children : List (NodeId × EdgeId)}
    (h : ∀ c ∈ children, ∀ f, (w.node c.1).Exceeds f ∨ (w.edge c.2).Exceeds f → P f) :
    Fails P (t.checkChildren w children) := by
  induction children with
  | nil => exact fails_ok ()
  | cons c children ih =>
    rw [List.forall_mem_cons] at h
    have hedge : Fails P (t.checkEdge (w.edge c.2)) :=
      (t.fails_checkEntity .edge _).mono fun f hf => h.1 f (.inr hf)
    have hnode : Fails P (t.checkNode (w.node c.1)) :=
      (t.fails_checkEntity .node _).mono fun f hf => h.1 f (.inl hf)
    exact hedge.bind fun _ => hnode.bind fun _ => ih h.2

theorem fails_checkCount (r : Rule) (count : Int) : Fails P (r.checkCount count) := by
  simp only [Rule.checkCount]
  split
  · exact fails_violated _
  · split
    · exact fails_ok ()
    · exact fails_violated _

theorem fails_checkLinks (main : String) (counted seen links : List Link) :
    Fails P (t.checkLinks main counted seen links) := by
  induction links generalizing seen with
  | nil => exact fails_ok ()
  | cons link links ih =>
    simp only [checkLinks]
    split
    · exact ih seen
    · split
      · exact (fails_checkCount _ _).bind fun _ => ih _
      · exact fails_violated _

theorem fails_checkUnused (links : List Link) (rules : List Rule) :
    Fails P (checkUnused links rules) := by
  induction rules with
  | nil => exact fails_ok ()
  | cons rule rules ih =>
    simp only [checkUnused]
    split
    · exact ih
    · exact (fails_checkCount rule 0).bind fun _ => ih

theorem fails_survey (hg : g.Linked) (hn : n ∈ g.nodes) :
    Fails (ContentsExceed w g) (t.survey w g n) := by
  have hnode : Fails (ContentsExceed w g) (t.checkNode (w.node n)) :=
    (t.fails_checkEntity .node _).mono fun f hf => .inl ⟨n, hn, hf⟩
  have hchildren : Fails (ContentsExceed w g)
      (t.checkChildren w ((g.outgoing n).map fun u => (u.subject, u.edge))) := by
    refine fails_checkChildren fun c hc f hf => ?_
    obtain ⟨u, hu, rfl⟩ := List.mem_map.mp hc
    have hu := (mem_outgoing.mp hu).1
    rcases hf with hf | hf
    · exact .inl ⟨u.subject, (hg.ends_mem_nodes hu).2, hf⟩
    · exact .inr ⟨u, hu, hf⟩
  refine hnode.bind fun _ => hchildren.bind fun _ => ?_
  exact (fails_checkLinks _ _ _ _).bind fun _ => fails_checkUnused _ _

theorem judgeGraph_cases (t : Template) (hg : g.Sound)
    (hh : ∀ n ∈ g.nodes, (w.node n).isHashable = true) :
    (∃ verdict, (t.judgeGraph w g).1 = .ok verdict) ∨
      ∃ f, (t.judgeGraph w g).1 = .error f ∧ ContentsExceed w g f := by
  rw [judgeGraph_eq_survey hg hh]
  apply verdict_of_fails
  intro f hf
  obtain ⟨before, n, after, hns, -, hn⟩ := exists_of_forM_eq_error hf
  have hmem : n ∈ g.nodes := by simp [hns]
  exact fails_survey hg.linked hmem f hn

end

/-- Every subject and every graph is judged, unless a value in it is beyond a limit. -/
theorem judged_within_limits (t : Template) :
    (∀ s : Subject, s.Complete →
      (∃ verdict, t.judge s = .ok verdict) ∨ ∃ f, t.judge s = .error f ∧ s.Exceeds f) ∧
    ∀ s : World, Reachable s →
      (∀ n ∈ s.graph.nodes, (s.contents.node n).isHashable = true) →
      (∃ verdict, (t.judgeGraph s.contents s.graph).1 = .ok verdict) ∨
        ∃ f, (t.judgeGraph s.contents s.graph).1 = .error f ∧
          ContentsExceed s.contents s.graph f :=
  ⟨fun _ => t.judge_cases, fun _ hs => t.judgeGraph_cases (reachable_sound hs)⟩

def lapsing : Document where
  labels := .empty
  nodes := .ofList [("n", ⟨[], .ofList [("at", ⟨"datetime", ⟨[], [""], [], []⟩⟩)], .empty⟩)]
  edges := .ofList [("e", ⟨.empty⟩)]

theorem result_of_lapsing : (Build.ofDocument lapsing).result = .ok lapsing.template :=
  Build.result_of_no_defects (by decide) (by decide)

def lastSecond (offset : Option Offset) : Moment :=
  ⟨⟨9999, 12, 31, by decide, by decide, by decide, by decide, by decide, by decide⟩,
    ⟨23, 59, 59, 0, by decide, by decide, by decide, by decide⟩, offset⟩

def lapse (offset : Option Offset) : Entity :=
  ⟨"n", [(.text "at", .moment (lastSecond offset))]⟩

def lapses : World :=
  World.next ⟨⟨fun _ => lapse none, fun _ => ⟨"e", []⟩⟩, Graph.empty⟩ (.change (.addNode 0))

theorem judged_lapse :
    (Build.ofDocument lapsing).result = .ok lapsing.template ∧
      (∃ verdict, lapsing.template.judge (.node (lapse none)) = .ok verdict) ∧
      ∃ verdict, (lapsing.template.judgeGraph lapses.contents lapses.graph).1 = .ok verdict := by
  have hexceeds (f : Fault) : ¬(lapse none).Exceeds f := by
    rintro ⟨e, he, hf⟩
    obtain rfl := List.mem_singleton.mp he
    rcases hf with ⟨u, hu, hf⟩ | ⟨u, hu, hf⟩
    · obtain rfl := List.mem_singleton.mp hu
      cases hf with
      | integer hn => exact nomatch hn
    · obtain rfl := List.mem_singleton.mp hu
      cases hf with
      | integer hn => exact nomatch hn
      | moment h => exact h ⟨by decide, by decide⟩
  obtain ⟨hsubjects, hgraphs⟩ := judged_within_limits lapsing.template
  refine ⟨result_of_lapsing, ?_, ?_⟩
  · rcases hsubjects (.node (lapse none)) trivial with h | ⟨f, -, hf⟩
    · exact h
    · exact absurd hf (hexceeds f)
  · rcases hgraphs lapses (.step _ (.init _)) fun _ _ => rfl with h | ⟨f, -, hf⟩
    · exact h
    · rcases hf with ⟨n, -, hf⟩ | ⟨u, -, e, he, -⟩
      · exact absurd hf (hexceeds f)
      · exact nomatch he

theorem unjudged_lapse :
    (Build.ofDocument lapsing).result = .ok lapsing.template ∧
      (Subject.node (lapse (Offset.ofMicros? (-60000000)))).Complete ∧
      lapsing.template.judge (.node (lapse (Offset.ofMicros? (-60000000)))) =
        .error Datum.calendarOverflow :=
  ⟨result_of_lapsing, trivial, by decide +kernel⟩

end Template

end GraphTemplate
