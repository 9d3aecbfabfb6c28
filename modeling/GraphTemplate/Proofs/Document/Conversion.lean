import GraphTemplate.Proofs.Document.Converts

/-! The shape of a document and its conversion agree. Both follow the data by recursions of their
own; kind by kind, the values of the right shape are those of the grammar, and they are converted to
what they stand for unless a bound has too many digits. -/
namespace GraphTemplate

namespace Shape

def restrictions : Shape :=
  closed [("values", list text), ("regexps", list text), ("key_values", list text),
    ("key_regexps", list text)]

def property : Shape := closed [("type", text), ("restrictions", restrictions)]

def ratio : Shape := closed [("min", integer), ("max", integer)]

def connection : Shape := closed [("edge", text), ("ratio", ratio)]

def edge : Shape := closed [("properties", properties)]

def label : Shape := closed [("properties", properties), ("connections", connections)]

def node : Shape :=
  closed [("labels", list text), ("properties", properties), ("connections", connections)]

end Shape

namespace Grammar

variable {δ α β : Type}

theorem converts_text :
    Converts Value.Loaded Shape.text.Fits (fun v => .ok (Document.textOf v)) fun _ => text :=
  .total (fun _ => Shape.fits_text_iff) (by rintro v s rfl; rfl)

theorem mapM_ok (f : δ → α) (vs : List δ) :
    vs.mapM (fun v => (.ok (f v) : Except Fault α)) = .ok (vs.map f) :=
  List.mapM_pure

theorem tableOfM_ok (f : Value → α) (v : Value) :
    Document.tableOfM (fun v => .ok (f v)) v = .ok (Document.tableOf f v) := by
  have hm := mapM_ok (fun e : String × Value => (e.1, f e.2)) (Document.fieldsOf v)
  exact congrArg (fun es => es >>= fun es => .ok (NameTable.ofList es)) hm

theorem converts_texts : Converts Value.Loaded (Shape.list .text).Fits
    (fun v => .ok (Document.textsOf v)) fun _ => list text :=
  (Converts.list converts_text).congr fun v => (mapM_ok Document.textOf (Document.itemsOf v)).symm

theorem integerOf_chars (p : Spelling) (shown : String) :
    Datum.integerOf p.chars shown =
      if p.digits.length ≤ digitLimit then .ok p.value
      else .error (.integerTooLong (some p.digits.length)) := by
  unfold Datum.integerOf
  rw [p.readInteger_chars]
  by_cases hp : p.digits.length ≤ digitLimit
  · rw [if_pos hp, if_pos hp]
  · rw [if_neg hp, if_neg hp]

theorem boundOf_chars (p : Spelling) : Document.boundOf (.text (String.ofList p.chars)) =
    if p.digits.length ≤ digitLimit then .ok p.value
    else .error (.integerTooLong (some p.digits.length)) := by
  rw [Document.boundOf, String.toList_ofList, integerOf_chars]

theorem isIntegerText_iff {s : String} :
    Shape.isIntegerText s = true ↔ ∃ p : Spelling, s = String.ofList p.chars := by
  have hs : (∃ p : Spelling, s = String.ofList p.chars) ↔ ∃ p : Spelling, s.toList = p.chars := by
    refine exists_congr fun p => ⟨?_, ?_⟩
    · rintro rfl
      exact String.toList_ofList
    · intro h
      rw [← h, String.ofList_toList]
  rw [hs, exists_spelling_iff]
  show (!(withoutLineBreak (spanSign s.toList).2).isEmpty && _) = true ↔ _
  simp [withoutLineBreak]

theorem converts_bound :
    Converts Value.Loaded Shape.integer.Fits Document.boundOf bound where
  passes_iff := by
    intro v hv
    rw [Shape.fits_integer_iff]
    constructor
    · rintro ⟨s, rfl, hs⟩
      obtain ⟨p, rfl⟩ := isIntegerText_iff.mp hs
      exact ⟨p.value, p, rfl, trivial, rfl⟩
    · rintro ⟨n, p, rfl, -, -⟩
      exact ⟨_, rfl, isIntegerText_iff.mpr ⟨p, rfl⟩⟩
  converted := by
    rintro v n hv ⟨p, rfl, -, rfl⟩
    rw [boundOf_chars]
    by_cases hp : p.digits.length ≤ digitLimit
    · rw [if_pos hp]
      exact Or.inl ⟨rfl, p, rfl, hp, rfl⟩
    · rw [if_neg hp]
      refine Or.inr ⟨⟨_, Nat.lt_of_not_le hp, rfl⟩, ?_⟩
      rintro m ⟨q, hq, hfits, -⟩
      have hread := boundOf_chars q
      rw [if_pos (show q.digits.length ≤ digitLimit from hfits), ← hq, boundOf_chars p,
        if_neg hp] at hread
      exact nomatch hread
  weaken := fun ⟨p, hp, _, hn⟩ => ⟨p, hp, trivial, hn⟩

theorem converts_restrictions : Converts Value.Loaded Shape.restrictions.Fits
    (fun v => .ok (Document.restrictionsOf v)) fun _ => restrictions := by
  have h := ((Converts.field converts_texts "values" rfl).cons <|
    (Converts.field converts_texts "regexps" rfl).cons <|
      (Converts.field converts_texts "key_values" rfl).cons
        (Converts.field converts_texts "key_regexps" rfl)).closed.map
      (fun t => (⟨t.1, t.2.1, t.2.2.1, t.2.2.2⟩ : RestrictionTexts))
      (fun r => (r.values, r.regexps, r.keyValues, r.keyRegexps)) (fun _ => rfl) (fun _ => rfl)
  exact h

theorem converts_property : Converts Value.Loaded Shape.property.Fits
    (fun v => .ok (Document.propertyOf v)) fun _ => property := by
  have h := ((Converts.field converts_text "type" rfl).cons
    (Converts.field converts_restrictions "restrictions" rfl)).closed.map
      (fun t => (⟨t.1, t.2⟩ : PropertyEntry)) (fun p => (p.type, p.restrictions))
      (fun _ => rfl) (fun _ => rfl)
  exact h

theorem converts_properties : Converts Value.Loaded Shape.properties.Fits
    (fun v => .ok (Document.propertiesOf v)) fun _ => table property :=
  (Converts.table converts_property).congr fun v => (tableOfM_ok Document.propertyOf v).symm

theorem converts_ratio : Converts Value.Loaded Shape.ratio.Fits
    (fun v => do return (← Document.boundOf (Document.part "min" v),
      ← Document.boundOf (Document.part "max" v))) ratio :=
  ((Converts.field converts_bound "min" rfl).cons (Converts.field converts_bound "max" rfl)).closed

theorem converts_connection :
    Converts Value.Loaded Shape.connection.Fits Document.connectionOf connection := by
  have h := ((Converts.field converts_text "edge" rfl).cons
    (Converts.field converts_ratio "ratio" rfl)).closed.map
      (fun t => (⟨t.1, t.2.1, t.2.2⟩ : ConnectionEntry)) (fun c => (c.edge, c.min, c.max))
      (fun _ => rfl) (fun _ => rfl)
  refine h.congr fun v => ?_
  unfold Document.connectionOf
  dsimp only
  cases Document.boundOf (Document.part "min" (Document.part "ratio" v)) with
  | error f => rfl
  | ok least => cases Document.boundOf (Document.part "max" (Document.part "ratio" v)) <;> rfl

theorem converts_connections : Converts Value.Loaded Shape.connections.Fits
    Document.connectionsOf fun fits => table (list (connection fits)) :=
  (Converts.list converts_connection).table

theorem converts_edge : Converts Value.Loaded Shape.edge.Fits
    (fun v => .ok (Document.edgeOf v)) fun _ => edge := by
  have h := (Converts.field converts_properties "properties" rfl).closed.map
    (fun t => (⟨t⟩ : EdgeEntry)) (fun e => e.properties) (fun _ => rfl) (fun _ => rfl)
  exact h

theorem converts_label : Converts Value.Loaded Shape.label.Fits Document.labelOf label := by
  have h := ((Converts.field converts_properties "properties" rfl).cons
    (Converts.field converts_connections "connections" rfl)).closed.map
      (fun t => (⟨t.1, t.2⟩ : LabelEntry)) (fun l => (l.properties, l.connections))
      (fun _ => rfl) (fun _ => rfl)
  refine h.congr fun v => ?_
  unfold Document.labelOf
  cases Document.connectionsOf (Document.part "connections" v) <;> rfl

theorem converts_node : Converts Value.Loaded Shape.node.Fits Document.nodeOf node := by
  have h := ((Converts.field converts_texts "labels" rfl).cons <|
    (Converts.field converts_properties "properties" rfl).cons
      (Converts.field converts_connections "connections" rfl)).closed.map
      (fun t => (⟨t.1, t.2.1, t.2.2⟩ : NodeEntry))
      (fun n => (n.labels, n.properties, n.connections)) (fun _ => rfl) (fun _ => rfl)
  refine h.congr fun v => ?_
  unfold Document.nodeOf
  cases Document.connectionsOf (Document.part "connections" v) <;> rfl

theorem converts_edges : Converts Value.Loaded (Shape.table Shape.edge).Fits
    (fun v => .ok (Document.tableOf Document.edgeOf v)) fun _ => table edge :=
  (Converts.table converts_edge).congr fun v => (tableOfM_ok Document.edgeOf v).symm

theorem converts_document :
    Converts Value.Loaded Shape.document.Fits Document.ofShaped document := by
  have h := (((Converts.table converts_label).field "labels" rfl).cons <|
    ((Converts.table converts_node).field "nodes" rfl).cons
      (Converts.field converts_edges "edges" rfl)).closed.map
      (fun t => (⟨t.1, t.2.1, t.2.2⟩ : Document)) (fun d => (d.labels, d.nodes, d.edges))
      (fun _ => rfl) (fun _ => rfl)
  refine h.congr fun v => ?_
  unfold Document.ofShaped
  dsimp only
  cases Document.tableOfM Document.labelOf (Document.part "labels" v) with
  | error f => rfl
  | ok labels => cases Document.tableOfM Document.nodeOf (Document.part "nodes" v) <;> rfl

end Grammar

namespace Document

variable {v : Value} {d : Document}

theorem ofValue_eq_ok_iff (hv : v ≠ .null) :
    ofValue v = .ok d ↔ Shape.document.Fits v ∧ ofShaped v = .ok d := by
  unfold ofValue Shape.Fits
  split
  · exact absurd rfl hv
  · cases hc : Shape.document.complaint? v with
    | some c => cases hm : c.message <;> simp [hm]
    | none => cases ofShaped v <;> simp

theorem not_document_null (fits : Nat → Prop) : ¬Grammar.document fits .null d := by
  rintro ⟨hk | ⟨t, ht, -⟩, -⟩
  · exact nomatch hk
  · exact nomatch ht

/-- Data is made into a document just if it is nothing at all or follows the grammar with bounds
that can be read, and then into the one that it stands for. Data of the right shape, which is data
that follows the grammar with any bounds, is converted unless it takes a bound that cannot be read.
-/
theorem ofValue_grammar (hv : v.Loaded) :
    (∀ d, ofValue v = .ok d ↔ v = .null ∧ d = empty ∨ Grammar.document Grammar.Readable v d) ∧
      (Shape.document.complaint? v = none ↔ ∃ d, Grammar.document Grammar.Any v d) ∧
      (Shape.document.complaint? v = none → (∃ d, ofShaped v = .ok d) ∨
        Grammar.TooLong (ofShaped v) ∧ ∀ d, ¬Grammar.document Grammar.Readable v d) := by
  have h := Grammar.converts_document
  refine ⟨fun d => ?_, h.passes_iff hv, ?_⟩
  · by_cases hnull : v = .null
    · subst hnull
      rw [or_iff_left (not_document_null _)]
      constructor
      · intro hd
        exact ⟨rfl, (Except.ok.inj hd).symm⟩
      · rintro ⟨-, rfl⟩
        rfl
    · rw [ofValue_eq_ok_iff hnull, or_iff_right fun hd => hnull hd.1]
      constructor
      · rintro ⟨hshape, hd⟩
        exact (h.eq_ok_iff hv hshape).mp hd
      · intro hd
        have hshape := h.passes_of_readable hv hd
        exact ⟨hshape, (h.eq_ok_iff hv hshape).mpr hd⟩
  · intro hshape
    obtain ⟨d, hd⟩ := (h.passes_iff hv).mp hshape
    rcases h.converted hv hd with ⟨hc, -⟩ | hlong
    · exact Or.inl ⟨d, hc⟩
    · exact Or.inr hlong

def sampleConnection : Value :=
  .ofTable ⟨[("ratio", .ofTable ⟨[("max", .text "+12\n")], by decide⟩)], by decide⟩

def sampleNode : Value :=
  .ofTable ⟨[("labels", .text ""),
    ("connections", .ofTable ⟨[("m", .sequence .list [sampleConnection, .text ""])], by decide⟩)],
    by decide⟩

def sampleData : Value :=
  .ofTable ⟨[("nodes", .ofTable ⟨[("n", sampleNode)], by decide⟩), ("edges", .text "")], by decide⟩

def sampleDocument : Document :=
  ⟨.empty, ⟨[("n", ⟨[], .empty, ⟨[("m", [⟨"", 0, 12⟩, ⟨"", 0, 0⟩])], by decide⟩⟩)], by decide⟩,
    .empty⟩

theorem loaded_sampleData : sampleData.Loaded := by
  have hconnection : sampleConnection.Loaded := by
    refine .table (List.forall_mem_singleton.mpr (.table ?_))
    exact List.forall_mem_singleton.mpr (Value.loaded_text _)
  have hnode : sampleNode.Loaded := by
    refine .table (List.forall_mem_cons.mpr ⟨Value.loaded_text _, ?_⟩)
    refine List.forall_mem_singleton.mpr (.table (List.forall_mem_singleton.mpr (.list ?_)))
    exact List.forall_mem_cons.mpr ⟨hconnection, List.forall_mem_singleton.mpr (.scalar rfl)⟩
  refine .table (List.forall_mem_cons.mpr ⟨.table ?_, ?_⟩)
  · exact List.forall_mem_singleton.mpr hnode
  · exact List.forall_mem_singleton.mpr (Value.loaded_text _)

theorem ofValue_sampleData :
    ofValue sampleData = .ok sampleDocument ∧
      Grammar.document Grammar.Readable sampleData sampleDocument := by
  have hshape : Shape.document.complaint? sampleData = none := by
    simp only [Shape.document, Shape.properties, Shape.connections, Shape.complaint?,
      Shape.fieldComplaints, Shape.field?, Shape.entryComplaints, Shape.firstItem, sampleData,
      sampleNode, sampleConnection, Value.ofTable, List.map_cons, List.map_nil, String.reduceEq,
      ↓reduceIte, Option.bind_none, Option.bind_some, Nat.zero_add, Nat.reduceAdd,
      Option.or_eq_none_iff]
    decide +kernel
  have hd : ofValue sampleData = .ok sampleDocument :=
    (ofValue_eq_ok_iff (fun h => Value.noConfusion h)).mpr ⟨hshape, by decide +kernel⟩
  have hgrammar := ((ofValue_grammar loaded_sampleData).1 _).mp hd
  exact ⟨hd, hgrammar.resolve_left fun h => Value.noConfusion h.1⟩

end Document

end GraphTemplate
