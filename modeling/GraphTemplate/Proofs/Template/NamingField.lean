import GraphTemplate.Proofs.Template.Unknown
import GraphTemplate.Proofs.Value.Keys

/-! Mappings of which a field names a type, under keys of all kinds. The field is left out when the
others are judged as properties, but for two kinds of keys: null also stands for no field at all,
and a number that is not even equal to itself is never found to be the one to leave out. -/
namespace GraphTemplate

def Match.ofKind : EntityKind → Match
  | .node => .node
  | .edge => .edge

namespace Value

theorem isOmitted_some {k key : Value} (hk : k ≠ .null) :
    isOmitted (some k) key = (!key.isNaN && key.sameKey k) := by
  unfold isOmitted
  split
  · next h => exact nomatch h
  · next h => exact absurd (Option.some.inj h) hk
  · next h =>
    obtain rfl := Option.some.inj h
    rfl

end Value

namespace Candidate

variable {types : NameTable EntityType} {type : EntityType} {name : String} {key v : Value}
  {before after : List (Value × Value)}

theorem ofFields?_append (ht : types.get? name = some type)
    (hfirst : ∀ e ∈ before, ∀ s, e.2 = .text s → s ∉ types.names) :
    ofFields? types (before ++ (key, .text name) :: after) = some ⟨type, some key⟩ := by
  induction before with
  | nil => rw [List.nil_append, ofFields?, ht]
  | cons e before ih =>
    rw [List.forall_mem_cons] at hfirst
    obtain ⟨k, w⟩ := e
    rw [List.cons_append]
    cases w with
    | text s =>
      rw [ofFields?, Template.get?_eq_none_iff.mpr (hfirst.1 s rfl)]
      exact ih hfirst.2
    | _ => exact ih hfirst.2

/-- A key that is neither null nor a number other than itself is left out, and no other key is. -/
theorem properties_leaveOut (hkey : Value.Key key) (hnull : key ≠ .null) (hnan : key.isNaN = false)
    (hother : ∀ e ∈ before ++ after, e.1.sameKey key = false) :
    properties ⟨type, some key⟩ (before ++ (key, v) :: after) = before ++ after := by
  have hself : Value.isOmitted (some key) key = true := by
    rw [Value.isOmitted_some hnull, hnan, hkey.sameKey_of_alike hkey (Value.alike_refl key)]
    rfl
  have hkept : ∀ e ∈ before ++ after, (!Value.isOmitted (some key) e.1) = true := by
    intro e he
    rw [Value.isOmitted_some hnull, hother e he, Bool.and_false]
    rfl
  unfold properties
  rw [List.filter_append, List.filter_cons_of_neg (by simp [hself]), ← List.filter_append]
  exact List.filter_eq_self.mpr hkept

theorem properties_keep (hkept : key = .null ∨ key.isNaN = true)
    (hother : ∀ e ∈ before ++ after, e.1.sameKey key = false) :
    properties ⟨type, some key⟩ (before ++ (key, v) :: after) = before ++ (key, v) :: after := by
  refine List.filter_eq_self.mpr fun e he => ?_
  rcases hkept with rfl | hnan
  · rfl
  · -- The key itself stays because it is no number like itself, the others because they differ.
    have hnull : key ≠ .null := by
      rintro rfl
      exact nomatch hnan
    have hcases : e = (key, v) ∨ e ∈ before ++ after := by
      simp only [List.mem_append, List.mem_cons] at he ⊢
      tauto
    rw [Value.isOmitted_some hnull]
    rcases hcases with rfl | he
    · rw [hnan]
      rfl
    · rw [hother e he, Bool.and_false]
      rfl

theorem complaint_eq_none_iff {kind : EntityKind} {c : Candidate} {fields : List (Value × Value)} :
    complaint kind (some c) fields = .ok none ↔ c.type.check (c.properties fields) = .ok () := by
  have hcheck : c.check kind fields = .ok () ↔ c.type.check (c.properties fields) = .ok () :=
    Check.within_eq_ok
  rw [← hcheck]
  constructor
  · exact Template.complaint_eq_ok_none
  · intro h
    unfold complaint
    dsimp only
    rw [h]

end Candidate

namespace Template

variable {t : Template} {kind : EntityKind} {v : Value} {fields : List (Value × Value)}

def PassesAs (t : Template) (kind : EntityKind) (v : Value)
    (fields : List (Value × Value)) : Prop :=
  Candidate.complaint kind (t.candidate? kind v fields) fields = .ok none

/-- A value is found to be an entity of a kind if it passes as one, and what is wrong about it as an
entity of the other kind, if anything, can be told. -/
theorem checkUnknown_eq_ofKind_iff (hv : v.fields? = some fields)
    (hc : t.candidate? kind v fields ≠ none) :
    t.checkUnknown v = .ok (.ofKind kind) ∨ t.checkUnknown v = .ok .both ↔
      t.PassesAs kind v fields ∧
        ∀ k f, Candidate.complaint k (t.candidate? k v fields) fields ≠ .error f := by
  have hsome : ((t.candidate? .node v fields).isNone &&
      (t.candidate? .edge v fields).isNone) ≠ true := by
    intro hnone
    obtain ⟨hnode, hedge⟩ := Bool.and_eq_true_iff.mp hnone
    rw [Option.isNone_iff_eq_none] at hnode hedge
    cases kind with
    | node => exact hc hnode
    | edge => exact hc hedge
  rw [checkUnknown_eq hv, if_neg hsome]
  cases hn : Candidate.complaint .node (t.candidate? .node v fields) fields with
  | error f =>
    refine iff_of_false ?_ fun h => h.2 .node f hn
    rintro (h | h) <;> cases h
  | ok asNode =>
    cases he : Candidate.complaint .edge (t.candidate? .edge v fields) fields with
    | error f =>
      refine iff_of_false ?_ fun h => h.2 .edge f he
      rintro (h | h) <;> cases h
    | ok asEdge =>
      have hfault : ∀ k f, Candidate.complaint k (t.candidate? k v fields) fields ≠ .error f := by
        intro k f h
        cases k with
        | node => exact nomatch hn.symm.trans h
        | edge => exact nomatch he.symm.trans h
      rw [and_iff_left hfault, PassesAs]
      cases kind with
      | node =>
        rw [hn, Except.ok.injEq]
        exact settled_as_node_iff
      | edge =>
        rw [he, Except.ok.injEq]
        exact settled_as_edge_iff

/-- A mapping, in which no other entry is under the same key, passes as the type that its first
naming field names just if that type takes the other entries; but under null and under a number
other than itself the naming field is judged with them. -/
theorem passesAs_iff_check {m : MappingKind} {before after : List (Value × Value)} {key : Value}
    {name : String} {type : EntityType}
    (hv : v = .mapping m (before ++ (key, .text name) :: after)) (hclass : v.className? = none)
    (hkey : Value.Key key) (hother : ∀ e ∈ before ++ after, e.1.sameKey key = false)
    (htype : (t.typesOf kind).get? name = some type)
    (hfirst : ∀ e ∈ before, ∀ s, e.2 = .text s → s ∉ (t.typesOf kind).names) :
    (key ≠ .null → key.isNaN = false →
        (t.PassesAs kind v (before ++ (key, .text name) :: after) ↔
          type.check (before ++ after) = .ok ())) ∧
      (key = .null ∨ key.isNaN = true →
        (t.PassesAs kind v (before ++ (key, .text name) :: after) ↔
          type.check (before ++ (key, .text name) :: after) = .ok ())) ∧
      (t.checkUnknown v = .ok (.ofKind kind) ∨ t.checkUnknown v = .ok .both ↔
        t.PassesAs kind v (before ++ (key, .text name) :: after) ∧
          ∀ k f, Candidate.complaint k (t.candidate? k v (before ++ (key, .text name) :: after))
            (before ++ (key, .text name) :: after) ≠ .error f) := by
  have hcandidate : t.candidate? kind v (before ++ (key, .text name) :: after) =
      some ⟨type, some key⟩ := by
    unfold candidate? Candidate.find?
    rw [hclass]
    exact Candidate.ofFields?_append htype hfirst
  refine ⟨fun hnull hnan => ?_, fun hkept => ?_, ?_⟩
  · rw [PassesAs, hcandidate, Candidate.complaint_eq_none_iff,
      Candidate.properties_leaveOut hkey hnull hnan hother]
  · rw [PassesAs, hcandidate, Candidate.complaint_eq_none_iff,
      Candidate.properties_keep hkept hother]
  · refine checkUnknown_eq_ofKind_iff (hv ▸ rfl) ?_
    rw [hcandidate]
    exact nofun

def bare : Document where
  labels := .empty
  nodes := .ofList [("n", ⟨[], .empty, .empty⟩)]
  edges := .ofList [("e", ⟨.empty⟩)]

/-- Without the entry that names the type nothing is left to judge, and the type takes that; under
null and under a number other than itself the entry is judged. -/
theorem null_field_judged :
    (Build.ofDocument bare).result = .ok bare.template ∧
      bare.template.nodes.get? "n" = some ⟨"n", .empty⟩ ∧
      (⟨"n", .empty⟩ : EntityType).check [] = .ok () ∧
      ∀ key ∈ [Value.null, .float Binary64.nan 0],
        ¬(bare.template.checkUnknown (.mapping .plain [(key, .text "n")]) = .ok .node ∨
          bare.template.checkUnknown (.mapping .plain [(key, .text "n")]) = .ok .both) := by
  have hextra (key : Value) (shown : String)
      (hc : bare.template.candidate? .node (.mapping .plain [(key, .text "n")]) [(key, .text "n")] =
        some ⟨⟨"n", .empty⟩, some key⟩)
      (hp : (⟨"n", .empty⟩ : EntityType).check
        (Candidate.properties ⟨⟨"n", .empty⟩, some key⟩ [(key, .text "n")]) =
          Check.violated (.keys [shown] [])) :
      ¬(bare.template.checkUnknown (.mapping .plain [(key, .text "n")]) = .ok .node ∨
        bare.template.checkUnknown (.mapping .plain [(key, .text "n")]) = .ok .both) := by
    intro h
    have hsome : bare.template.candidate? .node (.mapping .plain [(key, .text "n")])
        [(key, .text "n")] ≠ none := by
      rw [hc]
      exact nofun
    have hpasses : bare.template.PassesAs .node _ [(key, .text "n")] :=
      ((checkUnknown_eq_ofKind_iff rfl hsome).mp h).1
    rw [PassesAs, hc, Candidate.complaint_eq_none_iff, hp] at hpasses
    exact nomatch hpasses
  refine ⟨Build.result_of_no_defects (by decide) (by decide), by rfl, by decide +kernel, ?_⟩
  refine List.forall_mem_cons.mpr ⟨?_, List.forall_mem_singleton.mpr ?_⟩
  · exact hextra .null "None" (by rfl) (by decide +kernel)
  · exact hextra (.float Binary64.nan 0) "nan" (by rfl) (by decide +kernel)

def numbered : Document where
  labels := .empty
  nodes := .ofList [("n", ⟨[], .ofList [("1", ⟨"string", ⟨[], [], [], []⟩⟩),
    ("size", ⟨"int", ⟨[], [], [], []⟩⟩)], .empty⟩)]
  edges := .ofList [("e", ⟨.empty⟩)]

def numberedType : EntityType :=
  ⟨"n", .ofList [("1", ⟨"1", .scalar .string, [], []⟩), ("size", ⟨"size", .scalar .int, [], []⟩)]⟩

def pairKey : Value := .sequence .tuple [.int 1, .float Binary64.nan 7]

def pairNamed : Value :=
  .mapping .ordered [(.int 1, .text "x"), (pairKey, .text "n"), (.text "size", .int 3)]

theorem passesAs_pairNamed :
    (Build.ofDocument numbered).result = .ok numbered.template ∧
      (numbered.template.checkUnknown pairNamed = .ok .node ∨
        numbered.template.checkUnknown pairNamed = .ok .both) := by
  have ht : (Build.ofDocument numbered).result = .ok numbered.template :=
    Build.result_of_no_defects (by decide) (by decide)
  have htype : (numbered.template.typesOf .node).get? "n" = some numberedType := by rfl
  have hkey : Value.Key pairKey := by
    refine .tuple (List.forall_mem_cons.mpr ⟨.atom rfl rfl, ?_⟩)
    exact List.forall_mem_singleton.mpr (.atom rfl rfl)
  have hother : ∀ e ∈ [(Value.int 1, Value.text "x")] ++ [(Value.text "size", Value.int 3)],
      e.1.sameKey pairKey = false := by
    refine List.forall_mem_cons.mpr ⟨by decide +kernel, ?_⟩
    exact List.forall_mem_singleton.mpr (by decide +kernel)
  have hfirst : ∀ e ∈ [(Value.int 1, Value.text "x")], ∀ s, e.2 = .text s →
      s ∉ (numbered.template.typesOf .node).names := by
    refine List.forall_mem_singleton.mpr ?_
    intro s hs
    obtain rfl := Value.text.inj hs
    decide
  have hcheck : numberedType.check
      ([(.int 1, .text "x")] ++ [(.text "size", .int 3)]) = .ok () := by decide +kernel
  obtain ⟨hiff, -, hunknown⟩ :=
    passesAs_iff_check (v := pairNamed) rfl rfl hkey hother htype hfirst
  have hpasses := (hiff (fun h => Value.noConfusion h) rfl).mpr hcheck
  refine ⟨ht, hunknown.mpr ⟨hpasses, fun k f hf => ?_⟩⟩
  cases k with
  | node => cases hpasses.symm.trans hf
  | edge => cases hf

end Template

end GraphTemplate
