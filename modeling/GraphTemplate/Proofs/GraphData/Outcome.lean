import GraphTemplate.Proofs.Document.Complaint
import GraphTemplate.Proofs.Graph.Construction
import GraphTemplate.Proofs.GraphData
import GraphTemplate.Proofs.Value.DeepEquality
import GraphTemplate.Proofs.Value.Identity
import GraphTemplate.Proofs.Yaml.TypedData

/-! What data of any shape comes to: a graph, or an error that has a message. Connections are the
one part whose kind is not looked at: where they are something that yields nothing, such as a
number, no message tells it. -/
namespace GraphTemplate.GraphData

open Value (Plain Simple)

section

variable {α β : Type}

def Tells (x : Reading α) : Prop := ∀ e, x = .error e → ∃ message, e.message? = some message

theorem tells_ok (a : α) : Tells (.ok a) := fun _ h => nomatch h

theorem tells_error {e : GraphDataError} {message : String} (h : e.message? = some message) :
    Tells (.error e : Reading α) := by
  intro e' he
  obtain rfl := Except.error.inj he
  exact ⟨message, h⟩

theorem Tells.bind {x : Reading α} {k : α → Reading β} (h : Tells x) (hk : ∀ a, Tells (k a)) :
    Tells (x >>= k) := by
  cases x with
  | error e =>
    obtain ⟨message, hm⟩ := h e rfl
    exact tells_error hm
  | ok a => exact hk a

/-- A text is only missing where an integer is too long to be written. -/
theorem tells_toText (v : Value) : Tells (lift v.toText) := by
  cases h : v.toText with
  | ok s => exact tells_ok s
  | error f =>
    obtain ⟨rfl, -⟩ := Value.eq_integerTooLong_of_toText h
    exact tells_error rfl

theorem tells_entity {untyped misshapen : GraphDataError} {m m' : String}
    (hu : untyped.message? = some m) (hm : misshapen.message? = some m') (v : Value) :
    Tells (entity untyped misshapen v) := by
  unfold entity
  split
  · split
    · refine (tells_toText _).bind fun typeName => ?_
      split
      · exact tells_ok _
      · exact tells_ok _
      · split
        · exact tells_ok _
        · exact tells_error hm
    · exact tells_error hu
  · exact tells_error hu

theorem tells_nodeList (es : List (Value × Value)) : Tells (nodeList es) := by
  induction es with
  | nil => exact tells_ok []
  | cons p es ih =>
    exact (tells_toText p.1).bind fun _ => (tells_entity rfl rfl p.2).bind fun _ =>
      ih.bind fun _ => tells_ok _

variable {nodes : NameTable Entity}

theorem tells_endId (index : Nat) (which : End) (entries : List (Value × Value)) :
    Tells (endId nodes index which entries) := by
  refine (tells_toText _).bind fun id => ?_
  split
  · exact tells_ok id
  · exact tells_error rfl

theorem tells_connection (index : Nat) (v : Value) : Tells (connection nodes index v) := by
  unfold connection
  split
  · dsimp only
    split
    · split
      · exact tells_error rfl
      · exact (tells_endId index .main _).bind fun _ => (tells_endId index .subject _).bind fun _ =>
          (tells_entity rfl rfl _).bind fun _ => tells_ok _
    · exact tells_error rfl
  · exact tells_error rfl

theorem tells_connectionList (index : Nat) (vs : List Value) :
    Tells (connectionList nodes index vs) := by
  induction vs generalizing index with
  | nil => exact tells_ok []
  | cons v vs ih =>
    exact (tells_connection index v).bind fun _ => (ih (index + 1)).bind fun _ => tells_ok _

end

theorem entity_eq_ok (untyped misshapen : GraphDataError) {v : Value} {e : Entity}
    (h : Says v e) : entity untyped misshapen v = .ok e := by
  obtain ⟨entries, type, hv, ht, hl, hp⟩ := h
  obtain ⟨typeName, properties⟩ := e
  have hl : lift type.toText = .ok typeName := lift_eq_ok_iff.mpr hl
  unfold entity
  simp only [hv, ht, hl]
  rcases hp with ⟨hnull, rfl⟩ | ⟨p, hp, hpe⟩
  · cases hp : part? "properties" entries with
    | none => rfl
    | some p =>
      obtain rfl := hnull p hp
      rfl
  · cases p with
    | mapping =>
      obtain rfl := Option.some.inj hpe
      simp only [hp]
      rfl
    | _ => exact nomatch hpe

def NamesEntity (p : Value × Value) : Prop := ∃ id e, p.1.toText = .ok id ∧ Says p.2 e

theorem exists_nodeList_iff {es : List (Value × Value)} :
    (∃ ns, nodeList es = .ok ns) ↔ ∀ p ∈ es, NamesEntity p := by
  induction es with
  | nil => exact ⟨fun _ _ hp => absurd hp List.not_mem_nil, fun _ => ⟨[], rfl⟩⟩
  | cons p es ih =>
    obtain ⟨k, v⟩ := p
    rw [List.forall_mem_cons, ← ih]
    constructor
    · rintro ⟨ns, hns⟩
      obtain ⟨id, e, rest, hid, he, hrest, -⟩ := nodeList_cons_ok hns
      exact ⟨⟨id, e, hid, he⟩, rest, hrest⟩
    · rintro ⟨⟨id, e, hid, he⟩, rest, hrest⟩
      refine ⟨(id, e) :: rest, ?_⟩
      rw [nodeList, lift_eq_ok_iff.mpr hid, hrest]
      show entity _ _ v >>= _ = _
      rw [entity_eq_ok _ _ he]
      rfl

theorem contains_ofList_iff {es : List (Value × Value)} {ns : List (String × Entity)} {id : String}
    (h : nodeList es = .ok ns) :
    (NameTable.ofList ns).contains id = true ↔ ∃ p ∈ es, p.1.toText = .ok id := by
  unfold NameTable.contains
  rcases get?_foldl_insert h .empty id with ⟨u, e, hlast, -, hget⟩ | ⟨hnone, hget⟩
  · obtain ⟨k, hmem, hk⟩ := hlast.exists_mem
    exact iff_of_true (Option.isSome_iff_exists.mpr ⟨e, hget⟩) ⟨(k, u), hmem, hk⟩
  · refine iff_of_false (fun hc => ?_) fun ⟨p, hp, hk⟩ => hnone p hp hk
    obtain ⟨e, he⟩ := Option.isSome_iff_exists.mp hc
    exact nomatch hget.symm.trans he

def Connects (ids : String → Prop) (c : Value) : Prop :=
  ∃ entries edge e, c.entries? = some entries ∧
    (∀ which, ∃ id, endText entries which = .ok id ∧ ids id) ∧
    part? "edge" entries = some edge ∧ Says edge e

theorem Connects.imp {ids ids' : String → Prop} {c : Value} (h : Connects ids c)
    (hids : ∀ id, ids id → ids' id) : Connects ids' c := by
  obtain ⟨entries, edge, e, hc, hends, hedge, hsays⟩ := h
  refine ⟨entries, edge, e, hc, fun which => ?_, hedge, hsays⟩
  obtain ⟨id, hid, hmem⟩ := hends which
  exact ⟨id, hid, hids id hmem⟩

section

variable {nodes : NameTable Entity}

theorem endId_of_contains {which : End} {entries : List (Value × Value)} {id : String}
    (h : endText entries which = .ok id) (hc : nodes.contains id = true) (index : Nat) :
    endId nodes index which entries = .ok id := by
  have hl : lift ((part? which.name entries).getD .null).toText = .ok id := lift_eq_ok_iff.mpr h
  unfold endId
  rw [hl]
  exact if_pos hc

theorem exists_connection {c : Value} (h : Connects (fun id => nodes.contains id = true) c)
    (index : Nat) : ∃ conn, connection nodes index c = .ok conn := by
  obtain ⟨entries, edge, e, hc, hends, hedge, hsays⟩ := h
  obtain ⟨main, hmain, hm⟩ := hends .main
  obtain ⟨subject, hsubject, hs⟩ := hends .subject
  have hentity := entity_eq_ok (.untypedEdge index) (.edgeProperties index) hsays
  obtain ⟨fields, type, hf, ht, -⟩ := hsays
  refine ⟨⟨main, subject, e⟩, ?_⟩
  unfold connection
  simp only [hc, hedge, Option.getD_some, hf, ht, Option.isNone_some, Bool.false_eq_true, if_false,
    endId_of_contains hmain hm, endId_of_contains hsubject hs]
  show entity _ _ edge >>= _ = _
  rw [hentity]
  rfl

theorem exists_connectionList {cs : List Value}
    (h : ∀ c ∈ cs, Connects (fun id => nodes.contains id = true) c) (index : Nat) :
    ∃ conns, connectionList nodes index cs = .ok conns := by
  induction cs generalizing index with
  | nil => exact ⟨[], rfl⟩
  | cons c cs ih =>
    obtain ⟨hc, hcs⟩ := List.forall_mem_cons.mp h
    obtain ⟨conn, hconn⟩ := exists_connection hc index
    obtain ⟨conns, hconns⟩ := ih hcs (index + 1)
    refine ⟨conn :: conns, ?_⟩
    rw [connectionList, hconn, hconns]
    rfl

theorem ReadAs.connects {c : Value} {conn : Connection} (h : ReadAs nodes c conn) :
    Connects (fun id => nodes.contains id = true) c := by
  obtain ⟨⟨entries, edge, hc, hmain, hsubject, hedge, hsays⟩, hm, hs⟩ := h
  refine ⟨entries, edge, conn.edge, hc, fun which => ?_, hedge, hsays⟩
  cases which with
  | main => exact ⟨conn.main, hmain, hm⟩
  | subject => exact ⟨conn.subject, hsubject, hs⟩

end

inductive Single : Value → Prop
  | bool : Single (.bool true)
  | int {n : Int} (h : n ≠ 0) : Single (.int n)
  | float {x : Binary64} (h : x.isZero = false) (i : Nat) : Single (.float x i)
  | date (d : Date) : Single (.date d)
  | moment (m : Moment) : Single (.moment m)

variable {c u v : Value} {d : GraphData}

theorem single_iff (hc : c.Plain) : Single c ↔ c.isTruthy = true ∧ yielded? c = none := by
  constructor
  · intro h
    cases h with
    | int h => exact ⟨bne_iff_ne.mpr h, rfl⟩
    | float h => exact ⟨(Bool.not_eq_true' _).mpr h, rfl⟩
    | _ => exact ⟨rfl, rfl⟩
  · rintro ⟨ht, hy⟩
    cases hc with
    | simple h =>
      cases h with
      | null => exact nomatch ht
      | bool b =>
        obtain rfl : b = true := ht
        exact .bool
      | int n => exact .int (bne_iff_ne.mp ht)
      | float x i => exact .float ((Bool.not_eq_true' _).mp ht) i
      | date d => exact .date d
      | moment m => exact .moment m
      | text | bytes => exact nomatch hy
    | list | pair | set | mapping => exact nomatch hy

/-- What is nothing, zero or empty counts as a mapping without entries. -/
theorem exists_entries_orElse_iff {o : Option Value} :
    (∃ es, (orElse o (.mapping .plain [])).entries? = some es) ↔
      ∀ u, o = some u → u.isTruthy = true → ∃ es, u.entries? = some es := by
  cases o with
  | none => exact ⟨fun _ _ h => (nomatch h), fun _ => ⟨[], rfl⟩⟩
  | some u =>
    simp only [orElse]
    by_cases ht : u.isTruthy = true
    · rw [if_pos ht]
      refine ⟨fun h u' hu' _ => Option.some.inj hu' ▸ h, fun h => h u rfl ht⟩
    · rw [if_neg ht]
      refine ⟨fun _ u' hu' ht' => ?_, fun _ => ⟨[], rfl⟩⟩
      obtain rfl := Option.some.inj hu'
      exact absurd ht' ht

theorem yielded_orElse_eq_none_iff {o : Option Value} (ho : ∀ c, o = some c → c.Plain) :
    yielded? (orElse o (.sequence .list [])) = none ↔ ∃ c, o = some c ∧ Single c := by
  cases o with
  | none =>
    constructor
    · intro h
      cases h
    · rintro ⟨c, hc, -⟩
      cases hc
  | some c =>
    have hc := single_iff (ho c rfl)
    simp only [orElse]
    by_cases ht : c.isTruthy = true
    · rw [if_pos ht]
      constructor
      · exact fun hy => ⟨c, rfl, hc.mpr ⟨ht, hy⟩⟩
      · rintro ⟨c', hc', hs⟩
        obtain rfl := Option.some.inj hc'
        exact (hc.mp hs).2
    · rw [if_neg ht]
      constructor
      · intro h
        cases h
      · rintro ⟨c', hc', hs⟩
        obtain rfl := Option.some.inj hc'
        exact absurd (hc.mp hs).1 ht

/-- The nodes of data can be read; nothing, zero and what is empty stands for no nodes. -/
structure HasNodes (v : Value) : Prop where
  mapping : ∀ u, part? "nodes" (dataEntries v) = some u → u.isTruthy = true →
    ∃ es, u.entries? = some es
  named : ∀ p ∈ nodeEntries v, NamesEntity p

structure Shaped (v : Value) : Prop extends HasNodes v where
  data : v = .null ∨ ∃ es, v.entries? = some es
  listed : ∀ c, part? "connections" (dataEntries v) = some c → ¬Single c
  connected : ∀ c ∈ connectionEntries v,
    Connects (fun id => ∃ p ∈ nodeEntries v, p.1.toText = .ok id) c

/-- Data whose nodes can be read and whose connections are no list, nor anything else that yields
one value after the other. -/
structure Unlisted (v : Value) : Prop extends HasNodes v where
  single : ∃ c, part? "connections" (dataEntries v) = some c ∧ Single c

theorem dataEntries_eq {entries : List (Value × Value)} (h : v.entries? = some entries) :
    dataEntries v = entries := by
  rw [dataEntries, h]
  rfl

theorem exists_of_mem_getD {α : Type} {o : Option (List α)} {x : α} (h : x ∈ o.getD []) :
    ∃ xs, o = some xs ∧ x ∈ xs := by
  cases o with
  | none => exact absurd h List.not_mem_nil
  | some xs => exact ⟨xs, rfl, h⟩

theorem plain_of_part {key : String} (hv : v.Plain) (hu : part? key (dataEntries v) = some u) :
    u.Plain := by
  obtain ⟨k, hmem⟩ := Shape.mem_of_field? hu
  obtain ⟨entries, he, hmem⟩ := exists_of_mem_getD hmem
  exact hv.of_entries he hmem

theorem outcome_ofEntries (hv : v.Plain) :
    Unlisted v ∧ ofEntries (dataEntries v) = .error (.fault .wrongKind) ∨
      ¬Unlisted v ∧ Tells (ofEntries (dataEntries v)) := by
  have hnodes := exists_entries_orElse_iff (o := part? "nodes" (dataEntries v))
  have hplain : ∀ c, part? "connections" (dataEntries v) = some c → c.Plain :=
    fun c => plain_of_part hv
  have hyields := yielded_orElse_eq_none_iff hplain
  unfold ofEntries
  -- The cases follow the reading: what holds the nodes, each of these, then the connections.
  cases hn : (orElse (part? "nodes" (dataEntries v)) (.mapping .plain [])).entries? with
  | none =>
    refine .inr ⟨fun h => ?_, tells_error rfl⟩
    obtain ⟨es, hes⟩ := hnodes.mpr h.mapping
    exact nomatch hn.symm.trans hes
  | some es =>
    have hes : nodeEntries v = es := entries?_orElse _ hn
    simp only
    cases hns : nodeList es with
    | error e =>
      refine .inr ⟨fun h => ?_, ?_⟩
      · obtain ⟨ns, hns'⟩ := exists_nodeList_iff.mpr (hes ▸ h.named)
        exact nomatch hns.symm.trans hns'
      · obtain ⟨message, hm⟩ := tells_nodeList es e hns
        exact tells_error hm
    | ok ns =>
      have hnamed := hes.symm ▸ exists_nodeList_iff.mp ⟨ns, hns⟩
      cases hy : yielded? (orElse (part? "connections" (dataEntries v)) (.sequence .list [])) with
      | none => exact .inl ⟨⟨⟨hnodes.mp ⟨es, hn⟩, hnamed⟩, hyields.mp hy⟩, rfl⟩
      | some vs =>
        refine .inr ⟨fun h => ?_, (tells_connectionList 1 vs).bind fun _ => tells_ok _⟩
        exact nomatch hy.symm.trans (hyields.mpr h.single)

theorem ofValue_eq (h : v = .null ∨ ∃ es, v.entries? = some es) :
    ofValue v = ofEntries (dataEntries v) := by
  rcases h with rfl | ⟨es, he⟩
  · rfl
  · cases v with
    | mapping => rfl
    | _ => exact nomatch he

theorem ofValue_of_not_data (h : ¬(v = .null ∨ ∃ es, v.entries? = some es)) :
    ofValue v = .error .notMapping := by
  cases v with
  | null => exact absurd (.inl rfl) h
  | mapping k es => exact absurd (.inr ⟨es, rfl⟩) h
  | _ => rfl

theorem outcome_ofValue (hv : v.Plain) :
    Unlisted v ∧ ofValue v = .error (.fault .wrongKind) ∨ ¬Unlisted v ∧ Tells (ofValue v) := by
  by_cases hdata : v = .null ∨ ∃ es, v.entries? = some es
  · rw [ofValue_eq hdata]
    exact outcome_ofEntries hv
  · rw [ofValue_of_not_data hdata]
    refine .inr ⟨fun h => hdata (.inr ?_), tells_error rfl⟩
    obtain ⟨c, hc, -⟩ := h.single
    obtain ⟨k, hmem⟩ := Shape.mem_of_field? hc
    obtain ⟨es, hes, -⟩ := exists_of_mem_getD hmem
    exact ⟨es, hes⟩

theorem Shaped.exists_ofValue (hv : v.Plain) (h : Shaped v) : ∃ d, ofValue v = .ok d := by
  obtain ⟨es, hes⟩ := exists_entries_orElse_iff.mpr h.mapping
  have hentries : nodeEntries v = es := entries?_orElse _ hes
  obtain ⟨ns, hns⟩ := exists_nodeList_iff.mpr h.named
  cases hy : yielded? (orElse (part? "connections" (dataEntries v)) (.sequence .list [])) with
  | none =>
    obtain ⟨c, hc, hs⟩ := (yielded_orElse_eq_none_iff fun c => plain_of_part hv).mp hy
    exact absurd hs (h.listed c hc)
  | some vs =>
    have hvs : connectionEntries v = vs := yielded?_orElse _ hy
    have hcs : ∀ c ∈ vs, Connects (fun id => (NameTable.ofList ns).contains id = true) c :=
      fun c hc => (h.connected c (hvs ▸ hc)).imp fun id => (contains_ofList_iff hns).mpr
    obtain ⟨conns, hconns⟩ := exists_connectionList hcs 1
    refine ⟨⟨.ofList ns, conns⟩, ?_⟩
    rw [ofValue_eq h.data, ofEntries]
    simp only [hes, ← hentries, hns, hy]
    show connectionList (.ofList ns) 1 vs >>= _ = _
    rw [hconns]
    rfl

theorem hasNodes_of_ofValue (hd : ofValue v = .ok d) : HasNodes v := by
  obtain ⟨ns, hns, -⟩ := exists_of_ofValue hd
  refine ⟨exists_entries_orElse_iff.mp ?_, exists_nodeList_iff.mp ⟨ns, hns⟩⟩
  have hd := ofEntries_of_ofValue hd
  unfold ofEntries at hd
  cases hn : (orElse (part? "nodes" (dataEntries v)) (.mapping .plain [])).entries? with
  | some es => exact ⟨es, rfl⟩
  | none =>
    rw [hn] at hd
    exact nomatch hd

theorem shaped_of_ofValue (hv : v.Plain) (hd : ofValue v = .ok d) : Shaped v where
  toHasNodes := hasNodes_of_ofValue hd
  data := by
    by_contra hdata
    exact nomatch hd.symm.trans (ofValue_of_not_data hdata)
  listed c hc hs := by
    have hu : Unlisted v := ⟨hasNodes_of_ofValue hd, c, hc, hs⟩
    rcases outcome_ofValue hv with ⟨-, he⟩ | ⟨hnot, -⟩
    · exact nomatch hd.symm.trans he
    · exact hnot hu
  connected c hc := by
    obtain ⟨ns, hns, hnodes, hconns⟩ := exists_of_ofValue hd
    obtain ⟨i, hi⟩ := List.mem_iff_getElem?.mp hc
    obtain ⟨conn, -, hread⟩ := (getElem?_forall₂ hconns i).1 c hi
    rw [hnodes] at hread
    exact hread.connects.imp fun id => (contains_ofList_iff hns).mp

theorem isHashable_of_plain {e : Entity} (hu : u.Plain) (h : Says u e) : e.isHashable = true := by
  obtain ⟨entries, type, hv, -, -, ⟨-, hnone⟩ | ⟨p, hp, hpe⟩⟩ := h
  · rw [Entity.isHashable, hnone]
    rfl
  · have hplain := plain_of_part hu (dataEntries_eq hv ▸ hp)
    rw [Entity.isHashable_iff, Entity.content, ← hplain.eq_mapping hpe]
    exact hplain.hashFault?

theorem plain_of_mem_nodeEntries (hv : v.Plain) {p : Value × Value} (hp : p ∈ nodeEntries v) :
    p.2.Plain := by
  obtain ⟨entries, he, hmem⟩ := exists_of_mem_getD hp
  obtain ⟨u, hu, he⟩ := Option.bind_eq_some_iff.mp he
  exact (plain_of_part hv hu).of_entries he hmem

theorem plain_of_yielded {vs : List Value} (hv : v.Plain) (hy : yielded? v = some vs)
    (hu : u ∈ vs) : u.Plain := by
  cases hv with
  | simple h =>
    cases h with
    | text s =>
      obtain rfl := Option.some.inj hy
      obtain ⟨c, -, rfl⟩ := List.mem_map.mp hu
      exact .simple (.text _)
    | bytes octets =>
      obtain rfl := Option.some.inj hy
      obtain ⟨n, -, rfl⟩ := List.mem_map.mp hu
      exact .simple (.int _)
    | _ => exact nomatch hy
  | list h | pair h =>
    obtain rfl := Option.some.inj hy
    exact h u hu
  | set h =>
    obtain rfl := Option.some.inj hy
    exact .simple (h u hu)
  | mapping hk _ =>
    obtain rfl := Option.some.inj hy
    obtain ⟨e, he, rfl⟩ := List.mem_map.mp hu
    exact .simple (hk e he)

theorem plain_of_mem_connectionEntries (hv : v.Plain) (hc : c ∈ connectionEntries v) :
    c.Plain := by
  obtain ⟨vs, hvs, hmem⟩ := exists_of_mem_getD hc
  obtain ⟨u, hu, hy⟩ := Option.bind_eq_some_iff.mp hvs
  exact plain_of_yielded (plain_of_part hv hu) hy hmem

theorem isHashable_node (hv : v.Plain) (hd : ofValue v = .ok d) (n : NodeId) :
    (d.contents.node n).isHashable = true := by
  by_cases hn : n < d.nodes.size
  · obtain ⟨id, hid⟩ := exists_id hn
    obtain ⟨u, hlast, hsays⟩ := (last_of_ofValue hd).2 _ hid
    obtain ⟨k, hmem, -⟩ := hlast.exists_mem
    exact isHashable_of_plain (plain_of_mem_nodeEntries hv hmem) hsays
  · -- A number that no node has stands for an entity without properties.
    have hnone : d.nodes.values[n]? = none := by
      rw [NameTable.values, List.getElem?_eq_none_iff, List.length_map]
      exact Nat.le_of_not_lt hn
    have hnode : d.contents.node n = noEntity := by simp [contents, hnone]
    rw [hnode]
    rfl

theorem isHashable_edge (hv : v.Plain) (hd : ofValue v = .ok d) (i : EdgeId) :
    (d.contents.edge i).isHashable = true := by
  cases hi : d.connections[i]? with
  | some conn =>
    obtain ⟨ns, -, -, hconns⟩ := exists_of_ofValue hd
    obtain ⟨c, hc, hread⟩ := (getElem?_forall₂ hconns i).2 conn hi
    obtain ⟨entries, edge, he, -, -, hedge, hsays⟩ := hread.parts
    have hplain := plain_of_mem_connectionEntries hv (List.mem_of_getElem? hc)
    rw [edge_of_getElem? hi]
    exact isHashable_of_plain (plain_of_part hplain (dataEntries_eq he ▸ hedge)) hsays
  | none =>
    have hedge : d.contents.edge i = noEntity := by simp [contents, hi]
    rw [hedge]
    rfl

theorem exists_graph (hv : v.Plain) (hd : ofValue v = .ok d) : ∃ g, d.graph = .ok g := by
  have hnode := isHashable_node hv hd
  have hns : ∀ n ∈ List.range d.nodes.size, (d.contents.node n).isHashable = true :=
    fun n _ => hnode n
  have hts : ∀ t ∈ d.triplets, (Graph.Change.addTriplet t).Hashable d.contents :=
    fun t _ => ⟨fun n _ => hnode n, fun n _ => hnode n, fun i _ => isHashable_edge hv hd i⟩
  obtain ⟨g, hg, -⟩ := Graph.exists_ofParts hns hts
  exact ⟨g, hg⟩

def Loads (v : Value) : Prop := ∃ d g, ofValue v = .ok d ∧ d.graph = .ok g

def Refused (v : Value) (message : String) : Prop :=
  ∃ e, ofValue v = .error e ∧ e.message? = some message

/-- Data of the wanted shape comes to a graph, and any other is refused with a message, unless its
connections are something that yields nothing: what ends the reading then has no message. -/
theorem loads_or_refused (hv : v.Plain) :
    Shaped v ∧ Loads v ∨ ¬Shaped v ∧ ¬Unlisted v ∧ (∃ message, Refused v message) ∨
      Unlisted v ∧ ofValue v = .error (.fault .wrongKind) := by
  rcases outcome_ofValue hv with h | ⟨hu, htells⟩
  · exact .inr (.inr h)
  · cases hd : ofValue v with
    | ok d =>
      obtain ⟨g, hg⟩ := exists_graph hv hd
      exact .inl ⟨shaped_of_ofValue hv hd, d, g, hd, hg⟩
    | error e =>
      obtain ⟨message, hm⟩ := htells e hd
      refine .inr (.inl ⟨fun h => ?_, hu, message, e, hd, hm⟩)
      obtain ⟨d, hd'⟩ := h.exists_ofValue hv
      exact nomatch hd.symm.trans hd'

theorem plain_typed (typeName : String) : (typed typeName).Plain :=
  .mapping (List.forall_mem_singleton.mpr (.text "type"))
    (List.forall_mem_singleton.mpr (.simple (.text typeName)))

theorem plain_twins : twins.Plain := by
  have hnodes : (Value.mapping .plain [(.int 1, typed "a"), (.text "m", typed "a")]).Plain :=
    .mapping (by simp [Simple.int, Simple.text]) (by simp [plain_typed])
  have hconnection : (Value.mapping .plain [(.text "main", .text "m"), (.text "edge", typed "e"),
      (.text "subject", .text "1")]).Plain :=
    .mapping (by simp [Simple.text]) (by simp [plain_typed, Plain.simple (.text _)])
  exact .mapping (by simp [Simple.text])
    (by simp [hnodes, Plain.list (List.forall_mem_singleton.mpr hconnection)])

theorem loads_twins : twins.Plain ∧ Loads twins := by
  have hd : ofValue twins = .ok
      ⟨.ofList [("1", ⟨"a", []⟩), ("m", ⟨"a", []⟩)], [⟨"m", "1", ⟨"e", []⟩⟩]⟩ := by rfl
  refine ⟨plain_twins, ?_⟩
  rcases loads_or_refused plain_twins with ⟨-, h⟩ | ⟨-, -, message, e, he, -⟩ | ⟨-, he⟩
  · exact h
  · exact nomatch hd.symm.trans he
  · exact nomatch hd.symm.trans he

def numbered : String := "\x7b\"connections\": 5\x7d"

def numberedData : Value := .mapping .plain [(.text "connections", .int 5)]

theorem loadTyped_numbered : Yaml.loadTyped (.text numbered) = .ok numberedData := by
  decide +kernel

theorem numbered_untold :
    Yaml.loadTyped (.text numbered) = .ok numberedData ∧ numberedData.Plain ∧
      ¬Loads numberedData ∧ ∀ message, ¬Refused numberedData message := by
  have hplain := (Yaml.plain_iff_finite_of_loadTyped loadTyped_numbered).mpr
    (Value.finite_of_hashFault? rfl)
  have hf : ofValue numberedData = .error (.fault .wrongKind) := by rfl
  refine ⟨loadTyped_numbered, hplain, ?_, ?_⟩
  · rintro ⟨d, g, hd, -⟩
    exact nomatch hf.symm.trans hd
  · rintro message ⟨e, he, hm⟩
    obtain rfl := Except.error.inj (hf.symm.trans he)
    exact nomatch hm

end GraphTemplate.GraphData
