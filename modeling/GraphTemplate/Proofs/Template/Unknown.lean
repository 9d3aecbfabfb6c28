import GraphTemplate.Verdict
import GraphTemplate.Proofs.Template.PropertyKeys
import GraphTemplate.Proofs.Template.WellFormed

/-! Values of unknown shape against nodes and edges that are named as such. A value is meant for an
entity of the type that its class is named after, or else of the first type that one of its fields
names; it passes as what that entity passes as, and fails with what is wrong about that entity. -/
namespace GraphTemplate.Template

open EntityType

variable {t : Template} {kind : EntityKind} {v : Value}

def settled : Option String → Option String → Check Match
  | none, none => .ok .both
  | none, some _ => .ok .node
  | some _, none => .ok .edge
  | some asNode, some asEdge => Check.violated (.neither asNode asEdge)

theorem complaint_eq_ok_none {c : Candidate} {fields : List (Value × Value)}
    (h : Candidate.complaint kind (some c) fields = .ok none) : c.check kind fields = .ok () := by
  unfold Candidate.complaint at h
  dsimp only at h
  split at h
  · next hc => exact hc
  · exact nomatch h
  · exact nomatch h

theorem settled_as_node_iff {asNode asEdge : Option String} :
    settled asNode asEdge = .ok .node ∨ settled asNode asEdge = .ok .both ↔ asNode = none := by
  cases asNode <;> cases asEdge <;> simp [settled, Check.violated]

theorem settled_as_edge_iff {asNode asEdge : Option String} :
    settled asNode asEdge = .ok .edge ∨ settled asNode asEdge = .ok .both ↔ asEdge = none := by
  cases asNode <;> cases asEdge <;> simp [settled, Check.violated]

theorem settled_ne_noMatchingType (asNode asEdge : Option String) :
    settled asNode asEdge ≠ Check.violated .noMatchingType := by
  cases asNode <;> cases asEdge <;> simp [settled, Check.violated]

theorem settled_neither_iff {asNode asEdge : Option String} {n e : String} :
    settled asNode asEdge = Check.violated (.neither n e) ↔ asNode = some n ∧ asEdge = some e := by
  cases asNode <;> cases asEdge <;> simp [settled, Check.violated]

theorem checkUnknown_eq {fields : List (Value × Value)} (h : v.fields? = some fields) :
    t.checkUnknown v =
      if (t.candidate? .node v fields).isNone && (t.candidate? .edge v fields).isNone then
        Check.violated .noMatchingType
      else
        Check.lift (Candidate.complaint .node (t.candidate? .node v fields) fields) >>= fun n =>
        Check.lift (Candidate.complaint .edge (t.candidate? .edge v fields) fields) >>=
          settled n := by
  unfold checkUnknown
  rw [h]
  dsimp only
  split
  · rfl
  · rfl

variable {fields : NameTable Value}

/-- The entity that a value with some fields is meant for. A class without a name says as little as
a class of generic containers. -/
inductive Means (t : Template) (kind : EntityKind) (v : Value) (fields : NameTable Value) :
    Entity → Prop where
  | ofClass {name : String} (hc : v.className? = some name) (hne : name ≠ "")
      (hn : name ∈ (t.typesOf kind).names) : Means t kind v fields ⟨name, textEntries fields⟩
  | ofField {name key : String} {before after : List (String × Value)}
      (hc : ∀ n, v.className? = some n → n ≠ "" → n ∉ (t.typesOf kind).names)
      (hf : fields.entries = before ++ (key, .text name) :: after)
      (hn : name ∈ (t.typesOf kind).names)
      (hfirst : ∀ e ∈ before, ∀ s, e.2 = .text s → s ∉ (t.typesOf kind).names) :
      Means t kind v fields ⟨name, textEntries (fields.erase key)⟩

theorem get?_eq_none_iff {α : Type} {types : NameTable α} {name : String} :
    types.get? name = none ↔ name ∉ types.names := by
  rw [NameTable.mem_names_iff, Option.eq_none_iff_forall_ne_some, not_exists]

def ofClass? (t : Template) (kind : EntityKind) (v : Value) : Option EntityType :=
  (v.className?.filter (!·.isEmpty)).bind (t.typesOf kind).get?

theorem ofClass?_eq_some_iff {type : EntityType} :
    t.ofClass? kind v = some type ↔
      ∃ name, v.className? = some name ∧ name ≠ "" ∧ (t.typesOf kind).get? name = some type := by
  unfold ofClass?
  simp only [Option.bind_eq_some_iff, Option.filter_eq_some_iff, Bool.not_eq_true',
    and_assoc, String.isEmpty_eq_false_iff]

theorem ofClass?_eq_none_iff :
    t.ofClass? kind v = none ↔
      ∀ n, v.className? = some n → n ≠ "" → n ∉ (t.typesOf kind).names := by
  rw [Option.eq_none_iff_forall_ne_some]
  simp only [Ne, ofClass?_eq_some_iff, ← get?_eq_none_iff]
  constructor
  · intro h n hc hne
    rw [Option.eq_none_iff_forall_ne_some]
    intro type ht
    exact h type ⟨n, hc, hne, ht⟩
  · rintro h type ⟨n, hc, hne, ht⟩
    rw [h n hc hne] at ht
    exact nomatch ht

def ofField? (types : NameTable EntityType) (e : String × Value) : Option Candidate :=
  match e.2 with
  | .text name => (types.get? name).map fun type => ⟨type, some (.text e.1)⟩
  | _ => none

theorem ofField?_eq_some_iff {types : NameTable EntityType} {e : String × Value} {c : Candidate} :
    ofField? types e = some c ↔
      ∃ name type, e.2 = .text name ∧ types.get? name = some type ∧
        c = ⟨type, some (.text e.1)⟩ := by
  unfold ofField?
  split
  · next name hv =>
    simp only [Option.map_eq_some_iff, hv, Value.text.injEq]
    constructor
    · rintro ⟨type, ht, rfl⟩
      exact ⟨name, type, rfl, ht, rfl⟩
    · rintro ⟨_, type, rfl, ht, rfl⟩
      exact ⟨type, ht, rfl⟩
  · next hn =>
    constructor
    · intro h
      cases h
    · rintro ⟨name, -, hv, -⟩
      exact absurd hv (hn name)

theorem ofField?_eq_none_iff {types : NameTable EntityType} {e : String × Value} :
    ofField? types e = none ↔ ∀ name, e.2 = .text name → name ∉ types.names := by
  rw [Option.eq_none_iff_forall_ne_some]
  simp only [Ne, ofField?_eq_some_iff, ← get?_eq_none_iff]
  constructor
  · intro h name hv
    rw [Option.eq_none_iff_forall_ne_some]
    intro type ht
    exact h _ ⟨name, type, hv, ht, rfl⟩
  · rintro h c ⟨name, type, hv, ht, -⟩
    rw [h name hv] at ht
    exact nomatch ht

theorem ofFields?_textEntries (types : NameTable EntityType) (fields : NameTable Value) :
    Candidate.ofFields? types (textEntries fields) = fields.entries.findSome? (ofField? types) := by
  unfold textEntries
  induction fields.entries with
  | nil => rfl
  | cons e entries ih =>
    obtain ⟨key, v⟩ := e
    rw [List.map_cons, List.findSome?_cons, ← ih]
    unfold ofField?
    cases v with
    | text name =>
      dsimp only
      rw [Candidate.ofFields?]
      cases types.get? name <;> rfl
    | _ => rfl

theorem candidate?_eq (t : Template) (kind : EntityKind) (v : Value) (fields : NameTable Value) :
    t.candidate? kind v (textEntries fields) = match t.ofClass? kind v with
      | some type => some ⟨type, none⟩
      | none => fields.entries.findSome? (ofField? (t.typesOf kind)) := by
  rw [← ofFields?_textEntries]
  rfl

theorem properties_textEntries (type : EntityType) (fields : NameTable Value) :
    Candidate.properties ⟨type, none⟩ (textEntries fields) = textEntries fields :=
  List.filter_eq_self.mpr fun _ _ => rfl

theorem properties_erase (type : EntityType) (fields : NameTable Value) (key : String) :
    Candidate.properties ⟨type, some (.text key)⟩ (textEntries fields) =
      textEntries (fields.erase key) := by
  have homitted (k : String) : Value.isOmitted (some (.text key)) (.text k) = (k == key) := by
    rw [← PropertyKeys.sameKey_text]
    rfl
  unfold Candidate.properties textEntries NameTable.erase
  rw [List.filter_map]
  simp only [Function.comp_def, homitted]
  rfl

inductive Blames (t : Template) (kind : EntityKind) (v : Value) (fields : NameTable Value) :
    String → Prop where
  | noType (h : ∀ e, ¬t.Means kind v fields e) :
      Blames t kind v fields ("there is no such " ++ kind.name ++ " type in template")
  | violation {e : Entity} {violation : Violation} (h : t.Means kind v fields e)
      (hv : t.checkEntity kind e = .error (.violation violation)) :
      Blames t kind v fields violation.message

def Finds (t : Template) (kind : EntityKind) (v : Value) (fields : NameTable Value) :
    Option String → Prop
  | none => ∃ e, t.Means kind v fields e ∧ t.checkEntity kind e = .ok ()
  | some text => (∀ e, t.Means kind v fields e → t.checkEntity kind e ≠ .ok ()) ∧
      t.Blames kind v fields text

theorem Finds.eq_none_iff {found : Option String} (h : t.Finds kind v fields found) :
    found = none ↔ ∃ e, t.Means kind v fields e ∧ t.checkEntity kind e = .ok () := by
  cases found with
  | none => exact ⟨fun _ => h, fun _ => rfl⟩
  | some text =>
    constructor
    · intro hn
      exact nomatch hn
    · rintro ⟨e, he, hok⟩
      exact absurd hok (h.1 e he)

section

variable (hnames : ∀ name type, (t.typesOf kind).get? name = some type → type.name = name)

include hnames

/-- A candidate is checked as the entity that the value is meant for. -/
theorem candidate?_of_means {e : Entity} (h : t.Means kind v fields e) :
    ∃ c, t.candidate? kind v (textEntries fields) = some c ∧
      c.check kind (textEntries fields) = t.checkEntity kind e := by
  cases h with
  | @ofClass name hc hne hname =>
    obtain ⟨type, ht⟩ := NameTable.mem_names_iff.mp hname
    have hclass : t.ofClass? kind v = some type := ofClass?_eq_some_iff.mpr ⟨name, hc, hne, ht⟩
    refine ⟨⟨type, none⟩, by rw [candidate?_eq, hclass], ?_⟩
    rw [Candidate.check, checkEntity, ht, hnames name type ht, properties_textEntries]
  | @ofField name key before after hc hf hname hfirst =>
    obtain ⟨type, ht⟩ := NameTable.mem_names_iff.mp hname
    have hclass : t.ofClass? kind v = none := ofClass?_eq_none_iff.mpr hc
    refine ⟨⟨type, some (.text key)⟩, ?_, ?_⟩
    · rw [candidate?_eq, hclass]
      refine List.findSome?_eq_some_iff.mpr ⟨before, (key, .text name), after, hf, ?_, ?_⟩
      · exact ofField?_eq_some_iff.mpr ⟨name, type, rfl, ht, rfl⟩
      · intro e he
        exact ofField?_eq_none_iff.mpr (hfirst e he)
    · rw [Candidate.check, checkEntity, ht, hnames name type ht, properties_erase]

theorem means_of_candidate? {c : Candidate}
    (h : t.candidate? kind v (textEntries fields) = some c) :
    ∃ e, t.Means kind v fields e ∧ c.check kind (textEntries fields) = t.checkEntity kind e := by
  have hmeans : ∃ e, t.Means kind v fields e := by
    rw [candidate?_eq] at h
    cases hclass : t.ofClass? kind v with
    | some type =>
      obtain ⟨name, hc, hne, ht⟩ := ofClass?_eq_some_iff.mp hclass
      exact ⟨_, .ofClass hc hne (NameTable.mem_names_iff.mpr ⟨type, ht⟩)⟩
    | none =>
      rw [hclass] at h
      obtain ⟨before, ⟨key, w⟩, after, hf, hfield, hfirst⟩ := List.findSome?_eq_some_iff.mp h
      obtain ⟨name, type, rfl, ht, -⟩ := ofField?_eq_some_iff.mp hfield
      refine ⟨_, .ofField (ofClass?_eq_none_iff.mp hclass) hf
        (NameTable.mem_names_iff.mpr ⟨type, ht⟩) fun e he => ?_⟩
      exact ofField?_eq_none_iff.mp (hfirst e he)
  obtain ⟨e, he⟩ := hmeans
  obtain ⟨c', hc', hcheck⟩ := candidate?_of_means hnames he
  obtain rfl := Option.some.inj (h.symm.trans hc')
  exact ⟨e, he, hcheck⟩

theorem finds_complaint
    (hfault : ∀ e, t.Means kind v fields e → ∀ f, t.checkEntity kind e ≠ .error (.fault f)) :
    ∃ found, Candidate.complaint kind (t.candidate? kind v (textEntries fields))
      (textEntries fields) = .ok found ∧ t.Finds kind v fields found := by
  cases hc : t.candidate? kind v (textEntries fields) with
  | none =>
    have hnone (e : Entity) (he : t.Means kind v fields e) : False := by
      obtain ⟨c, hc', -⟩ := candidate?_of_means hnames he
      exact nomatch hc.symm.trans hc'
    exact ⟨_, rfl, fun e he => (hnone e he).elim, .noType hnone⟩
  | some c =>
    obtain ⟨e, he, hcheck⟩ := means_of_candidate? hnames hc
    have hsame (e' : Entity) (he' : t.Means kind v fields e') :
        t.checkEntity kind e' = t.checkEntity kind e := by
      obtain ⟨c', hc', hcheck'⟩ := candidate?_of_means hnames he'
      obtain rfl := Option.some.inj (hc.symm.trans hc')
      exact hcheck'.symm.trans hcheck
    unfold Candidate.complaint
    dsimp only
    rw [hcheck]
    cases hv : t.checkEntity kind e with
    | ok _ => exact ⟨none, rfl, e, he, hv⟩
    | error failure =>
      cases failure with
      | fault f => exact absurd hv (hfault e he f)
      | violation violation =>
        refine ⟨_, rfl, fun e' he' => ?_, .violation he hv⟩
        rw [hsame e' he', hv]
        exact nofun

theorem candidate?_eq_none_iff :
    t.candidate? kind v (textEntries fields) = none ↔ ∀ e, ¬t.Means kind v fields e := by
  constructor
  · intro hc e he
    obtain ⟨c, hc', -⟩ := candidate?_of_means hnames he
    exact nomatch hc.symm.trans hc'
  · intro h
    rw [Option.eq_none_iff_forall_ne_some]
    intro c hc
    obtain ⟨e, he, -⟩ := means_of_candidate? hnames hc
    exact h e he

end

/-- A value of unknown shape is told to match no type, or settled by what is found about it. -/
theorem checkUnknown_cases
    (hnames : ∀ kind name type, (t.typesOf kind).get? name = some type → type.name = name)
    (hv : v.fields? = some (textEntries fields))
    (hfault : ∀ kind e, t.Means kind v fields e → ∀ f, t.checkEntity kind e ≠ .error (.fault f)) :
    (t.checkUnknown v = Check.violated .noMatchingType ∧ ∀ kind e, ¬t.Means kind v fields e) ∨
      ∃ asNode asEdge, t.checkUnknown v = settled asNode asEdge ∧
        (∃ kind e, t.Means kind v fields e) ∧ t.Finds .node v fields asNode ∧
        t.Finds .edge v fields asEdge := by
  obtain ⟨asNode, hnode, hn⟩ := finds_complaint (hnames .node) (hfault .node)
  obtain ⟨asEdge, hedge, he⟩ := finds_complaint (hnames .edge) (hfault .edge)
  rw [checkUnknown_eq hv, hnode, hedge]
  have hnone : ((t.candidate? .node v (textEntries fields)).isNone &&
      (t.candidate? .edge v (textEntries fields)).isNone) = true ↔
        ∀ kind e, ¬t.Means kind v fields e := by
    rw [Bool.and_eq_true, Option.isNone_iff_eq_none, Option.isNone_iff_eq_none,
      candidate?_eq_none_iff (hnames .node), candidate?_eq_none_iff (hnames .edge)]
    constructor
    · rintro ⟨hn, he⟩ (_ | _)
      · exact hn
      · exact he
    · intro h
      exact ⟨h .node, h .edge⟩
  split
  · next h => exact .inl ⟨rfl, hnone.mp h⟩
  · next h =>
    rw [hnone] at h
    push Not at h
    exact .inr ⟨asNode, asEdge, rfl, h, hn, he⟩

/-- Values of unknown shape are judged as the nodes and edges that they are meant for. -/
theorem checkUnknown_textEntries {d : Document} (ht : (Build.ofDocument d).result = .ok t)
    (hv : v.fields? = some (textEntries fields))
    (hfault : ∀ kind e, t.Means kind v fields e → ∀ f, t.checkEntity kind e ≠ .error (.fault f)) :
    (t.checkUnknown v = .ok .node ∨ t.checkUnknown v = .ok .both ↔
        ∃ e, t.Means .node v fields e ∧ t.checkNode e = .ok ()) ∧
      (t.checkUnknown v = .ok .edge ∨ t.checkUnknown v = .ok .both ↔
        ∃ e, t.Means .edge v fields e ∧ t.checkEdge e = .ok ()) ∧
      (t.checkUnknown v = Check.violated .noMatchingType ↔ ∀ kind e, ¬t.Means kind v fields e) ∧
      ((∃ asNode asEdge, t.checkUnknown v = Check.violated (.neither asNode asEdge)) ↔
        (∃ kind e, t.Means kind v fields e) ∧
          ∀ kind e, t.Means kind v fields e → t.checkEntity kind e ≠ .ok ()) ∧
      ∀ asNode asEdge, t.checkUnknown v = Check.violated (.neither asNode asEdge) →
        t.Blames .node v fields asNode ∧ t.Blames .edge v fields asEdge := by
  have hnames (kind : EntityKind) (name : String) (type : EntityType)
      (h : (t.typesOf kind).get? name = some type) : type.name = name :=
    (Build.wellFormed_of_result ht).1.types h
  rcases checkUnknown_cases hnames hv hfault with ⟨hc, hnone⟩ | ⟨n, e, hc, hsome, hn, he⟩
  · have hno (kind : EntityKind) : ¬∃ e, t.Means kind v fields e ∧ t.checkEntity kind e = .ok () :=
      fun ⟨e, he, _⟩ => hnone kind e he
    rw [hc]
    refine ⟨iff_of_false (by simp [Check.violated]) (hno .node),
      iff_of_false (by simp [Check.violated]) (hno .edge), iff_of_true rfl hnone,
      iff_of_false (by simp [Check.violated]) ?_, fun _ _ h => ?_⟩
    · rintro ⟨⟨kind, e, he⟩, -⟩
      exact hnone kind e he
    · simp [Check.violated] at h
  · rw [hc]
    simp only [settled_neither_iff]
    refine ⟨settled_as_node_iff.trans hn.eq_none_iff, settled_as_edge_iff.trans he.eq_none_iff,
      iff_of_false (settled_ne_noMatchingType n e) ?_, ?_, ?_⟩
    · intro hnone
      obtain ⟨kind, e, he⟩ := hsome
      exact hnone kind e he
    · constructor
      · rintro ⟨asNode, asEdge, rfl, rfl⟩
        refine ⟨hsome, fun kind => ?_⟩
        cases kind with
        | node => exact hn.1
        | edge => exact he.1
      · rintro ⟨-, hfail⟩
        have hnone (kind : EntityKind) :
            ¬∃ e, t.Means kind v fields e ∧ t.checkEntity kind e = .ok () :=
          fun ⟨e, he, hok⟩ => hfail kind e he hok
        obtain ⟨asNode, rfl⟩ := Option.ne_none_iff_exists'.mp (mt hn.eq_none_iff.mp (hnone .node))
        obtain ⟨asEdge, rfl⟩ := Option.ne_none_iff_exists'.mp (mt he.eq_none_iff.mp (hnone .edge))
        exact ⟨asNode, asEdge, rfl, rfl⟩
    · rintro asNode asEdge ⟨rfl, rfl⟩
      exact ⟨hn.2, he.2⟩

def crossed : Document where
  labels := .empty
  nodes := .ofList [("n", ⟨[], .ofList [("link", ⟨"string", ⟨[], [], [], []⟩⟩),
    ("size", ⟨"int", ⟨[], [], [], []⟩⟩)], .empty⟩)]
  edges := .ofList [("e", ⟨.ofList [("kind", ⟨"string", ⟨[], [], [], []⟩⟩),
    ("size", ⟨"int", ⟨[], [], [], []⟩⟩)]⟩)]

def crossing : NameTable Value :=
  .ofList [("kind", .text "n"), ("link", .text "e"), ("size", .int 3)]

theorem checkUnknown_crossing :
    (Build.ofDocument crossed).result = .ok crossed.template ∧
      crossed.template.checkUnknown (.mapping .plain (textEntries crossing)) = .ok .both := by
  have ht : (Build.ofDocument crossed).result = .ok crossed.template :=
    Build.result_of_no_defects (by decide) (by decide)
  have hnames (kind : EntityKind) (name : String) (type : EntityType)
      (h : (crossed.template.typesOf kind).get? name = some type) : type.name = name :=
    (Build.wellFormed_of_result ht).1.types h
  have hok (kind : EntityKind) (e : Entity)
      (h : crossed.template.Means kind (.mapping .plain (textEntries crossing)) crossing e) :
      crossed.template.checkEntity kind e = .ok () := by
    obtain ⟨c, hc, hcheck⟩ := candidate?_of_means (hnames kind) h
    have hpass : Candidate.complaint kind (crossed.template.candidate? kind
        (.mapping .plain (textEntries crossing)) (textEntries crossing)) (textEntries crossing) =
          .ok none := by
      cases kind <;> decide +kernel
    rw [hc] at hpass
    rw [← hcheck, complaint_eq_ok_none hpass]
  have hfault (kind : EntityKind) (e : Entity)
      (h : crossed.template.Means kind (.mapping .plain (textEntries crossing)) crossing e)
      (f : Fault) : crossed.template.checkEntity kind e ≠ .error (.fault f) := by
    rw [hok kind e h]
    intro hf
    cases hf
  have hnode : crossed.template.Means .node (.mapping .plain (textEntries crossing)) crossing
      ⟨"n", textEntries (crossing.erase "kind")⟩ :=
    @Means.ofField _ _ _ _ "n" "kind" [] _ (by decide) rfl (by decide)
      fun _ he => absurd he List.not_mem_nil
  have hedge : crossed.template.Means .edge (.mapping .plain (textEntries crossing)) crossing
      ⟨"e", textEntries (crossing.erase "link")⟩ := by
    refine @Means.ofField _ _ _ _ "e" "link" [("kind", .text "n")] _ (by decide) rfl (by decide) ?_
    intro e he s hs
    obtain rfl := List.mem_singleton.mp he
    obtain rfl := Value.text.inj hs
    decide
  obtain ⟨hasNode, hasEdge, -⟩ := checkUnknown_textEntries ht rfl hfault
  refine ⟨ht, ?_⟩
  rcases hasNode.mpr ⟨_, hnode, hok _ _ hnode⟩ with h | h
  · rcases hasEdge.mpr ⟨_, hedge, hok _ _ hedge⟩ with h' | h'
    · cases h.symm.trans h'
    · exact h'
  · exact h

def nameless : Document where
  labels := .empty
  nodes := .ofList [("", ⟨[], .empty, .empty⟩)]
  edges := .ofList [("e", ⟨.empty⟩)]

theorem nameless_class_unmatched :
    (Build.ofDocument nameless).result = .ok nameless.template ∧
      (Value.record .object "" 0 []).fields? = some (textEntries .empty) ∧
      (Value.record .object "" 0 []).className? = some "" ∧
      "" ∈ nameless.template.nodes.names ∧
      nameless.template.checkNode ⟨"", textEntries .empty⟩ = .ok () ∧
      nameless.template.checkUnknown (.record .object "" 0 []) =
        Check.violated .noMatchingType :=
  ⟨Build.result_of_no_defects (by decide) (by decide), rfl, rfl, by decide, by decide +kernel,
    by decide +kernel⟩

end GraphTemplate.Template
