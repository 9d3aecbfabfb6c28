import GraphTemplate.GraphData
import GraphTemplate.Proofs.Graph.Parts
import GraphTemplate.Proofs.NameTable

/-! Graph data and the graphs that are made of it. Ids are compared as texts, so of several entries
whose ids have one text the last is kept, and an end that a connection does not state is the node
whose id has the text of nothing. Apart from that the graph has what the data says and no more. -/
namespace GraphTemplate.GraphData

def Says (v : Value) (e : Entity) : Prop :=
  ∃ entries type, v.entries? = some entries ∧ part? "type" entries = some type ∧
    type.toText = .ok e.typeName ∧
    ((∀ p, part? "properties" entries = some p → p = .null) ∧ e.properties = [] ∨
      ∃ p, part? "properties" entries = some p ∧ p.entries? = some e.properties)

def dataEntries (v : Value) : List (Value × Value) := v.entries?.getD []

def nodeEntries (v : Value) : List (Value × Value) :=
  ((part? "nodes" (dataEntries v)).bind Value.entries?).getD []

def connectionEntries (v : Value) : List Value :=
  ((part? "connections" (dataEntries v)).bind yielded?).getD []

/-- The last entry whose id has a text. -/
inductive Last (id : String) : List (Value × Value) → Value → Prop
  | here {k u : Value} {es : List (Value × Value)} (hk : k.toText = .ok id)
      (hes : ∀ p ∈ es, p.1.toText ≠ .ok id) : Last id ((k, u) :: es) u
  | later {p : Value × Value} {es : List (Value × Value)} {u : Value} (h : Last id es u) :
      Last id (p :: es) u

def endText (entries : List (Value × Value)) (which : End) : Except Fault String :=
  ((part? which.name entries).getD .null).toText

theorem lift_eq_ok_iff {α : Type} {x : Except Fault α} {a : α} : lift x = .ok a ↔ x = .ok a := by
  cases x <;> simp [lift]

theorem says_of_entity {untyped misshapen : GraphDataError} {v : Value} {e : Entity}
    (h : entity untyped misshapen v = .ok e) : Says v e := by
  unfold entity at h
  cases hv : v.entries? with
  | none => simp [hv] at h
  | some entries =>
    simp only [hv] at h
    cases ht : part? "type" entries with
    | none => simp [ht] at h
    | some type =>
      simp only [ht] at h
      obtain ⟨typeName, hl, hk⟩ := exists_of_bind_eq_ok h
      rw [lift_eq_ok_iff] at hl
      split at hk
      · next hp =>
        obtain rfl := Except.ok.inj hk
        exact ⟨entries, type, hv, ht, hl, Or.inl ⟨fun p hp' => (nomatch hp.symm.trans hp'), rfl⟩⟩
      · next hp =>
        obtain rfl := Except.ok.inj hk
        exact ⟨entries, type, hv, ht, hl,
          Or.inl ⟨fun p hp' => (Option.some.inj (hp.symm.trans hp')).symm, rfl⟩⟩
      · next p _ hp =>
        cases hpe : p.entries? with
        | none => simp [hpe] at hk
        | some properties =>
          simp only [hpe] at hk
          obtain rfl := Except.ok.inj hk
          exact ⟨entries, type, hv, ht, hl, Or.inr ⟨p, hp, hpe⟩⟩

theorem nodeList_cons_ok {k v : Value} {es : List (Value × Value)} {ns : List (String × Entity)}
    (h : nodeList ((k, v) :: es) = .ok ns) :
    ∃ id e rest, k.toText = .ok id ∧ Says v e ∧ nodeList es = .ok rest ∧ ns = (id, e) :: rest := by
  obtain ⟨id, hid, h⟩ := exists_of_bind_eq_ok h
  obtain ⟨e, he, h⟩ := exists_of_bind_eq_ok h
  obtain ⟨rest, hrest, h⟩ := exists_of_bind_eq_ok h
  exact ⟨id, e, rest, lift_eq_ok_iff.mp hid, says_of_entity he, hrest, (Except.ok.inj h).symm⟩

theorem exists_text_of_nodeList {es : List (Value × Value)} {ns : List (String × Entity)}
    (h : nodeList es = .ok ns) : ∀ p ∈ es, ∃ id, p.1.toText = .ok id := by
  induction es generalizing ns with
  | nil => exact fun p hp => absurd hp List.not_mem_nil
  | cons p es ih =>
    obtain ⟨id, e, rest, hid, -, hrest, -⟩ := nodeList_cons_ok h
    exact List.forall_mem_cons.mpr ⟨⟨id, hid⟩, ih hrest⟩

/-- Entries are entered one after the other, each in place of an earlier one with its id. -/
theorem get?_foldl_insert {es : List (Value × Value)} {ns : List (String × Entity)}
    (h : nodeList es = .ok ns) (t : NameTable Entity) (id : String) :
    (∃ u e, Last id es u ∧ Says u e ∧
        (ns.foldl (fun t n => t.insert n.1 n.2) t).get? id = some e) ∨
      (∀ p ∈ es, p.1.toText ≠ .ok id) ∧
        (ns.foldl (fun t n => t.insert n.1 n.2) t).get? id = t.get? id := by
  induction es generalizing ns t with
  | nil =>
    obtain rfl := Except.ok.inj h
    exact Or.inr ⟨fun p hp => absurd hp List.not_mem_nil, rfl⟩
  | cons p es ih =>
    obtain ⟨k, v⟩ := p
    obtain ⟨name, e, rest, hname, he, hrest, rfl⟩ := nodeList_cons_ok h
    rw [List.foldl_cons]
    rcases ih hrest (t.insert name e) with ⟨u, e', hlast, hu, hget⟩ | ⟨hnone, hget⟩
    · exact Or.inl ⟨u, e', .later hlast, hu, hget⟩
    · rw [NameTable.get?_insert] at hget
      by_cases hid : id = name
      · subst hid
        rw [if_pos rfl] at hget
        exact Or.inl ⟨v, e, .here hname hnone, he, hget⟩
      · rw [if_neg hid] at hget
        refine Or.inr ⟨List.forall_mem_cons.mpr ⟨?_, hnone⟩, hget⟩
        rw [hname]
        exact fun heq => hid (Except.ok.inj heq).symm

theorem Last.exists_mem {id : String} {es : List (Value × Value)} {u : Value} (h : Last id es u) :
    ∃ k, (k, u) ∈ es ∧ k.toText = .ok id := by
  induction h with
  | here hk _ => exact ⟨_, List.mem_cons_self, hk⟩
  | later _ ih =>
    obtain ⟨k, hmem, hk⟩ := ih
    exact ⟨k, List.mem_cons_of_mem _ hmem, hk⟩

theorem Last.unique {id : String} {es : List (Value × Value)} {u u' : Value}
    (h : Last id es u) (h' : Last id es u') : u = u' := by
  have hout {es : List (Value × Value)} {u : Value} (hes : ∀ p ∈ es, p.1.toText ≠ .ok id) :
      ¬Last id es u := by
    intro hl
    obtain ⟨k, hmem, hk⟩ := hl.exists_mem
    exact hes _ hmem hk
  induction h with
  | here hk hes =>
    cases h' with
    | here => rfl
    | later h' => exact absurd h' (hout hes)
  | later h ih =>
    cases h' with
    | here hk hes => exact absurd h (hout hes)
    | later h' => exact ih h'

theorem get?_ofList_iff {es : List (Value × Value)} {ns : List (String × Entity)}
    (h : nodeList es = .ok ns) {id : String} :
    (∀ u, Last id es u → ∃ e, Says u e ∧ (NameTable.ofList ns).get? id = some e) ∧
      ∀ e, (NameTable.ofList ns).get? id = some e → ∃ u, Last id es u ∧ Says u e := by
  rcases get?_foldl_insert h .empty id with ⟨u, e, hlast, hu, hget⟩ | ⟨hnone, hget⟩
  · refine ⟨?_, ?_⟩
    · intro u' hlast'
      rw [hlast'.unique hlast]
      exact ⟨e, hu, hget⟩
    · intro e' he'
      obtain rfl := Option.some.inj (hget.symm.trans he')
      exact ⟨u, hlast, hu⟩
  · refine ⟨?_, ?_⟩
    · intro u' hlast'
      obtain ⟨k, hmem, hk⟩ := hlast'.exists_mem
      exact absurd hk (hnone _ hmem)
    · intro e' he'
      exact nomatch hget.symm.trans he'

structure ReadAs (nodes : NameTable Entity) (v : Value) (c : Connection) : Prop where
  parts : ∃ entries edge, v.entries? = some entries ∧ endText entries .main = .ok c.main ∧
    endText entries .subject = .ok c.subject ∧ part? "edge" entries = some edge ∧ Says edge c.edge
  main : nodes.contains c.main = true
  subject : nodes.contains c.subject = true

theorem endId_ok {nodes : NameTable Entity} {index : Nat} {which : End}
    {entries : List (Value × Value)} {id : String} (h : endId nodes index which entries = .ok id) :
    endText entries which = .ok id ∧ nodes.contains id = true := by
  obtain ⟨id', hid, h⟩ := exists_of_bind_eq_ok h
  rw [lift_eq_ok_iff] at hid
  split at h
  · next hc =>
    obtain rfl := Except.ok.inj h
    exact ⟨hid, hc⟩
  · exact nomatch h

theorem readAs_of_connection {nodes : NameTable Entity} {index : Nat} {v : Value} {c : Connection}
    (h : connection nodes index v = .ok c) : ReadAs nodes v c := by
  unfold connection at h
  cases hv : v.entries? with
  | none => simp [hv] at h
  | some entries =>
    simp only [hv] at h
    cases hf : ((part? "edge" entries).getD .null).entries? with
    | none => simp [hf] at h
    | some fields =>
      simp only [hf] at h
      cases hedge : part? "edge" entries with
      | none =>
        rw [hedge] at hf
        exact nomatch hf
      | some edge =>
        rw [hedge] at h
        split at h
        · exact nomatch h
        · obtain ⟨main, hmain, h⟩ := exists_of_bind_eq_ok h
          obtain ⟨subject, hsubject, h⟩ := exists_of_bind_eq_ok h
          obtain ⟨e, he, h⟩ := exists_of_bind_eq_ok h
          obtain rfl := Except.ok.inj h
          obtain ⟨hm, hmc⟩ := endId_ok hmain
          obtain ⟨hs, hsc⟩ := endId_ok hsubject
          exact ⟨⟨entries, edge, hv, hm, hs, hedge, says_of_entity he⟩, hmc, hsc⟩

theorem getElem?_forall₂ {α β : Type} {r : α → β → Prop} {as : List α} {bs : List β}
    (h : List.Forall₂ r as bs) (i : Nat) :
    (∀ a, as[i]? = some a → ∃ b, bs[i]? = some b ∧ r a b) ∧
      ∀ b, bs[i]? = some b → ∃ a, as[i]? = some a ∧ r a b := by
  induction h generalizing i with
  | nil => simp
  | cons hr _ ih =>
    cases i with
    | zero => simpa using hr
    | succ i => simpa using ih i

theorem readAs_of_connectionList {nodes : NameTable Entity} {index : Nat} {vs : List Value}
    {cs : List Connection} (h : connectionList nodes index vs = .ok cs) :
    List.Forall₂ (ReadAs nodes) vs cs := by
  induction vs generalizing index cs with
  | nil =>
    obtain rfl := Except.ok.inj h
    exact .nil
  | cons v vs ih =>
    obtain ⟨c, hc, h⟩ := exists_of_bind_eq_ok h
    obtain ⟨rest, hrest, h⟩ := exists_of_bind_eq_ok h
    obtain rfl := Except.ok.inj h
    exact .cons (readAs_of_connection hc) (ih hrest)

theorem entries_of_not_isTruthy {v : Value} (h : v.isTruthy = false) :
    v.entries?.getD [] = [] := by
  cases v with
  | mapping => simpa [Value.isTruthy, Value.entries?] using h
  | _ => rfl

/-- Nothing, zero and what is empty yields nothing. -/
theorem yielded_of_not_isTruthy {v : Value} (h : v.isTruthy = false) :
    (yielded? v).getD [] = [] := by
  cases v with
  | text s => simpa [Value.isTruthy, yielded?] using h
  | bytes => simpa [Value.isTruthy, yielded?] using h
  | range a b s =>
    have hlen : Value.rangeLength a b s = 0 := by simpa [Value.isTruthy] using h
    simp [yielded?, Value.elements?, Value.rangeItems, hlen]
  | sequence => simpa [Value.isTruthy, yielded?, Value.elements?] using h
  | set => simpa [Value.isTruthy, yielded?] using h
  | mapping => simpa [Value.isTruthy, yielded?] using h
  | record kind =>
    cases kind with
    | namedTuple => simpa [Value.isTruthy, yielded?, Value.elements?] using h
    | _ => rfl
  | _ => rfl

theorem entries?_orElse (v : Option Value) {es : List (Value × Value)}
    (h : (orElse v (.mapping .plain [])).entries? = some es) :
    (v.bind Value.entries?).getD [] = es := by
  cases v with
  | none => exact Option.some.inj h
  | some v =>
    simp only [orElse] at h
    split at h
    · show v.entries?.getD [] = es
      rw [h]
      rfl
    · next ht =>
      obtain rfl := Option.some.inj h
      exact entries_of_not_isTruthy (Bool.not_eq_true _ ▸ ht)

theorem yielded?_orElse (v : Option Value) {vs : List Value}
    (h : yielded? (orElse v (.sequence .list [])) = some vs) : (v.bind yielded?).getD [] = vs := by
  cases v with
  | none => exact Option.some.inj h
  | some v =>
    simp only [orElse] at h
    split at h
    · show (yielded? v).getD [] = vs
      rw [h]
      rfl
    · next ht =>
      obtain rfl := Option.some.inj h
      exact yielded_of_not_isTruthy (Bool.not_eq_true _ ▸ ht)

variable {v : Value} {d : GraphData} {g : Graph}

theorem ofEntries_of_ofValue (h : ofValue v = .ok d) : ofEntries (dataEntries v) = .ok d := by
  unfold ofValue at h
  split at h
  · exact h
  · unfold dataEntries
    cases hv : v.entries? with
    | none => simp [hv] at h
    | some entries =>
      simp only [hv] at h
      exact h

/-- The nodes and the connections of data have been read entry by entry. -/
theorem exists_of_ofValue (h : ofValue v = .ok d) :
    ∃ ns, nodeList (nodeEntries v) = .ok ns ∧ d.nodes = .ofList ns ∧
      List.Forall₂ (ReadAs d.nodes) (connectionEntries v) d.connections := by
  have h := ofEntries_of_ofValue h
  unfold ofEntries at h
  cases hn : (orElse (part? "nodes" (dataEntries v)) (.mapping .plain [])).entries? with
  | none => simp [hn] at h
  | some es =>
    simp only [hn] at h
    obtain ⟨ns, hns, h⟩ := exists_of_bind_eq_ok h
    cases hc : yielded? (orElse (part? "connections" (dataEntries v)) (.sequence .list [])) with
    | none => simp [hc] at h
    | some vs =>
      simp only [hc] at h
      obtain ⟨cs, hcs, h⟩ := exists_of_bind_eq_ok h
      obtain rfl := Except.ok.inj h
      refine ⟨ns, ?_, rfl, ?_⟩
      · rw [nodeEntries, entries?_orElse _ hn, hns]
      · rw [connectionEntries, yielded?_orElse _ hc]
        exact readAs_of_connectionList hcs

theorem node_of_getElem? {n : Nat} {entry : String × Entity}
    (h : d.nodes.entries[n]? = some entry) :
    d.nodes.get? entry.1 = some (d.contents.node n) := by
  have hnode : d.contents.node n = entry.2 := by
    simp [contents, NameTable.values, h]
  rw [hnode]
  exact NameTable.get?_eq_some_iff.mpr (List.mem_of_getElem? h)

theorem exists_id {n : Nat} (h : n < d.nodes.size) :
    ∃ id, d.nodes.get? id = some (d.contents.node n) :=
  ⟨_, node_of_getElem? (List.getElem?_eq_getElem h)⟩

theorem exists_nodeId {id : String} {e : Entity} (h : d.nodes.get? id = some e) :
    ∃ n < d.nodes.size, d.nodeId id = some n ∧ d.contents.node n = e := by
  cases hn : d.nodeId id with
  | none =>
    refine absurd ?_ (List.idxOf?_eq_none_iff.mp hn)
    exact NameTable.mem_names_iff.mpr ⟨e, h⟩
  | some n =>
    obtain ⟨hlt, hname, -⟩ := List.idxOf?_eq_some_iff.mp hn
    have hlt : n < d.nodes.entries.length := by simpa [NameTable.names] using hlt
    have hget := node_of_getElem? (List.getElem?_eq_getElem hlt)
    have hid : d.nodes.entries[n].1 = id := by simpa [NameTable.names] using hname
    rw [hid, h] at hget
    exact ⟨n, hlt, rfl, (Option.some.inj hget).symm⟩

def arcs (d : GraphData) : List (Triplet NodeId EdgeId) :=
  d.connections.zipIdx.map fun c =>
    ⟨(d.nodeId c.1.main).getD 0, (d.nodeId c.1.subject).getD 0, c.2⟩

theorem mem_arcs {t : Triplet NodeId EdgeId} : t ∈ d.arcs ↔ ∃ c, d.connections[t.edge]? = some c ∧
    t.main = (d.nodeId c.main).getD 0 ∧ t.subject = (d.nodeId c.subject).getD 0 := by
  unfold arcs
  rw [List.mem_map]
  constructor
  · rintro ⟨⟨c, i⟩, hc, rfl⟩
    exact ⟨c, List.mem_zipIdx_iff_getElem?.mp hc, rfl, rfl⟩
  · rintro ⟨c, hc, hm, hs⟩
    refine ⟨(c, t.edge), List.mem_zipIdx_iff_getElem?.mpr hc, ?_⟩
    rw [← hm, ← hs]

theorem edge_of_getElem? {i : Nat} {c : Connection} (h : d.connections[i]? = some c) :
    d.contents.edge i = c.edge := by
  simp [contents, h]

theorem triplets_eq (h : ∀ c ∈ d.connections,
      d.nodes.contains c.main = true ∧ d.nodes.contains c.subject = true) :
    d.triplets = d.arcs.map Triplet.full := by
  unfold triplets arcs
  rw [List.map_map]
  refine List.map_congr_left ?_
  rintro ⟨c, i⟩ hc
  obtain ⟨hm, hs⟩ := h c (List.fst_mem_of_mem_zipIdx hc)
  obtain ⟨m, hm⟩ := Option.isSome_iff_exists.mp hm
  obtain ⟨s, hs⟩ := Option.isSome_iff_exists.mp hs
  obtain ⟨a, -, ha, -⟩ := exists_nodeId hm
  obtain ⟨b, -, hb, -⟩ := exists_nodeId hs
  simp [Triplet.full, ha, hb]

/-- An end of a triplet has the content that is declared under the id at that end of a connection.
-/
def ShowsEnd (declares : String → Value → Prop) (w : Contents) (entries : List (Value × Value))
    (which : End) (n : NodeId) : Prop :=
  ∃ id u e, endText entries which = .ok id ∧ declares id u ∧ Says u e ∧
    (w.node n).alike e = true

def Shows (declares : String → Value → Prop) (w : Contents) (c : Value)
    (t : Triplet NodeId EdgeId) : Prop :=
  ∃ entries edge e, c.entries? = some entries ∧ ShowsEnd declares w entries .main t.main ∧
    ShowsEnd declares w entries .subject t.subject ∧ part? "edge" entries = some edge ∧
    Says edge e ∧ (w.edge t.edge).alike e = true

/-- A graph has what is declared and what the connections say, and nothing else. -/
structure Exact (declares : String → Value → Prop) (v : Value) (w : Contents) (g : Graph) :
    Prop where
  nodes : ∀ id u, declares id u → ∃ e, Says u e ∧ ∃ n ∈ g.nodes, (w.node n).alike e = true
  triplets : ∀ c ∈ connectionEntries v, ∃ t ∈ g.triplets, Shows declares w c t
  fromNodes : ∀ n ∈ g.nodes, ∃ id u e, declares id u ∧ Says u e ∧ (w.node n).alike e = true
  fromTriplets : ∀ t ∈ g.triplets, ∃ c ∈ connectionEntries v, Shows declares w c t

/-- A node is declared by every entry whose id has the text. -/
def Declares (v : Value) (id : String) (u : Value) : Prop :=
  ∃ k, (k, u) ∈ nodeEntries v ∧ k.toText = .ok id

def StatesEnds (c : Value) : Prop :=
  ∃ entries, c.entries? = some entries ∧ ∀ which : End, (part? which.name entries).isSome = true

/-- Nothing is lost and nothing is put down to another entry. -/
structure Faithful (v : Value) (w : Contents) (g : Graph) : Prop where
  exact : Exact (Declares v) v w g
  named : ∀ p ∈ nodeEntries v, ∃ id, p.1.toText = .ok id
  stated : ∀ c ∈ connectionEntries v, StatesEnds c

theorem last_iff_declares {es : List (Value × Value)} {id : String} {u : Value}
    (h : es.Pairwise fun p q => p.1.toText ≠ q.1.toText) :
    Last id es u ↔ ∃ k, (k, u) ∈ es ∧ k.toText = .ok id := by
  constructor
  · exact Last.exists_mem
  · rintro ⟨k, hmem, hk⟩
    induction es with
    | nil => exact absurd hmem List.not_mem_nil
    | cons p es ih =>
      obtain ⟨hp, hes⟩ := List.pairwise_cons.mp h
      rcases List.mem_cons.mp hmem with rfl | hmem
      · refine .here hk fun q hq hq' => hp q hq ?_
        rw [hk, hq']
      · exact .later (ih hes hmem)

variable (hd : ofValue v = .ok d)

include hd

theorem last_of_ofValue {id : String} :
    (∀ u, Last id (nodeEntries v) u → ∃ e, Says u e ∧ d.nodes.get? id = some e) ∧
      ∀ e, d.nodes.get? id = some e → ∃ u, Last id (nodeEntries v) u ∧ Says u e := by
  obtain ⟨ns, hns, hnodes, -⟩ := exists_of_ofValue hd
  rw [hnodes]
  exact get?_ofList_iff hns

/-- An arc shows the entry that its connection has been read from. -/
theorem shows_arc {c : Value} {conn : Connection} (hc : ReadAs d.nodes c conn)
    {t u : Triplet NodeId EdgeId} (hconn : d.connections[t.edge]? = some conn)
    (hm : t.main = (d.nodeId conn.main).getD 0) (hs : t.subject = (d.nodeId conn.subject).getD 0)
    (hu : u.Alike d.contents t) : Shows (fun id => Last id (nodeEntries v)) d.contents c u := by
  have hend {id : String} {n k : NodeId} (hid : d.nodes.contains id = true)
      (hn : n = (d.nodeId id).getD 0)
      (ha : (d.contents.node k).alike (d.contents.node n) = true) :
      ∃ x e, Last id (nodeEntries v) x ∧ Says x e ∧ (d.contents.node k).alike e = true := by
    obtain ⟨e, he⟩ := Option.isSome_iff_exists.mp hid
    obtain ⟨n', -, hn', hcontent⟩ := exists_nodeId he
    obtain ⟨x, hx, hsays⟩ := (last_of_ofValue hd).2 e he
    rw [hn, hn', Option.getD_some, hcontent] at ha
    exact ⟨x, e, hx, hsays, ha⟩
  obtain ⟨⟨entries, edge, he, hmt, hst, hedge, hsays⟩, hmain, hsubject⟩ := hc
  obtain ⟨x, ex, hx, hxs, hxa⟩ := hend hmain hm hu.main
  obtain ⟨y, ey, hy, hys, hya⟩ := hend hsubject hs hu.subject
  have ha := hu.edge
  rw [edge_of_getElem? hconn] at ha
  exact ⟨entries, edge, conn.edge, he, ⟨_, x, ex, hmt, hx, hxs, hxa⟩,
    ⟨_, y, ey, hst, hy, hys, hya⟩, hedge, hsays, ha⟩

theorem ends_mem_arcs {t : Triplet NodeId EdgeId} (ht : t ∈ d.arcs) :
    t.main < d.nodes.size ∧ t.subject < d.nodes.size := by
  obtain ⟨ns, hns, hnodes, hconns⟩ := exists_of_ofValue hd
  obtain ⟨conn, hconn, hm, hs⟩ := mem_arcs.mp ht
  obtain ⟨c, -, hc⟩ := (getElem?_forall₂ hconns t.edge).2 conn hconn
  have hlt {id : String} (hid : d.nodes.contains id = true) :
      (d.nodeId id).getD 0 < d.nodes.size := by
    obtain ⟨e, he⟩ := Option.isSome_iff_exists.mp hid
    obtain ⟨n, hn, hname, -⟩ := exists_nodeId he
    rwa [hname]
  rw [hm, hs]
  exact ⟨hlt hc.main, hlt hc.subject⟩

theorem exact_of_graph (hg : d.graph = .ok g) :
    Exact (fun id => Last id (nodeEntries v)) v d.contents g := by
  obtain ⟨ns, hns, hnodes, hconns⟩ := exists_of_ofValue hd
  have hends : ∀ c ∈ d.connections,
      d.nodes.contains c.main = true ∧ d.nodes.contains c.subject = true := by
    intro c hc
    obtain ⟨i, hi⟩ := List.mem_iff_getElem?.mp hc
    obtain ⟨x, -, hx⟩ := (getElem?_forall₂ hconns i).2 c hi
    exact ⟨hx.main, hx.subject⟩
  have hrange : ∀ t ∈ d.arcs, t.main ∈ List.range d.nodes.size ∧
      t.subject ∈ List.range d.nodes.size := by
    intro t ht
    rw [List.mem_range, List.mem_range]
    exact ends_mem_arcs hd ht
  unfold graph at hg
  rw [triplets_eq hends] at hg
  obtain ⟨hall, honly, hallArcs, honlyArcs⟩ := Graph.ofParts_exact hrange hg
  refine ⟨?_, ?_, ?_, ?_⟩
  · intro id u hu
    obtain ⟨e, hsays, he⟩ := (last_of_ofValue hd).1 u hu
    obtain ⟨n, hn, -, hcontent⟩ := exists_nodeId he
    obtain ⟨k, hk, ha⟩ := hall n (List.mem_range.mpr hn)
    exact ⟨e, hsays, k, hk, hcontent ▸ ha⟩
  · intro c hc
    obtain ⟨i, hi⟩ := List.mem_iff_getElem?.mp hc
    obtain ⟨conn, hconn, hread⟩ := (getElem?_forall₂ hconns i).1 c hi
    obtain ⟨u, hu, ha⟩ := hallArcs ⟨_, _, i⟩ (mem_arcs.mpr ⟨conn, hconn, rfl, rfl⟩)
    exact ⟨u, hu, shows_arc hd hread hconn rfl rfl ha⟩
  · intro n hn
    obtain ⟨id, hid⟩ := exists_id (List.mem_range.mp (honly n hn))
    obtain ⟨u, hu, hsays⟩ := (last_of_ofValue hd).2 _ hid
    exact ⟨id, u, _, hu, hsays, Entity.alike_refl _⟩
  · intro u hu
    obtain ⟨t, ht, ha⟩ := honlyArcs u hu
    obtain ⟨conn, hconn, hm, hs⟩ := mem_arcs.mp ht
    obtain ⟨c, hc, hread⟩ := (getElem?_forall₂ hconns t.edge).2 conn hconn
    exact ⟨c, List.mem_of_getElem? hc, shows_arc hd hread hconn hm hs ha⟩

/-- A graph that comes of data has exactly what the last entry of every id text and the connections
say. If the texts of the ids are different and all ends are stated, nothing is lost and nothing is
put down to another entry. -/
theorem graph_exact (hg : d.graph = .ok g) :
    Exact (fun id => Last id (nodeEntries v)) v d.contents g ∧
      ((nodeEntries v).Pairwise (fun p q => p.1.toText ≠ q.1.toText) →
        (∀ c ∈ connectionEntries v, StatesEnds c) → Faithful v d.contents g) := by
  have he := exact_of_graph hd hg
  refine ⟨he, fun hdistinct hstated => ⟨?_, ?_, hstated⟩⟩
  · have hlast : (fun id => Last id (nodeEntries v)) = Declares v := by
      funext id u
      exact propext (last_iff_declares hdistinct)
    rwa [hlast] at he
  · obtain ⟨ns, hns, -⟩ := exists_of_ofValue hd
    exact exists_text_of_nodeList hns

omit hd

def typed (typeName : String) : Value := .mapping .plain [(.text "type", .text typeName)]

def twins : Value :=
  .mapping .plain [(.text "nodes", .mapping .plain [(.int 1, typed "a"), (.text "m", typed "a")]),
    (.text "connections", .sequence .list [.mapping .plain [(.text "main", .text "m"),
      (.text "edge", typed "e"), (.text "subject", .text "1")]])]

theorem faithful_twins : ∃ d g, ofValue twins = .ok d ∧ d.graph = .ok g ∧ g.nodes = [0] ∧
    g.triplets = [⟨0, 0, 0⟩] ∧ Faithful twins d.contents g := by
  have hd : ofValue twins = .ok
      ⟨.ofList [("1", ⟨"a", []⟩), ("m", ⟨"a", []⟩)], [⟨"m", "1", ⟨"e", []⟩⟩]⟩ := by rfl
  have hlists : (GraphData.graph ⟨.ofList [("1", ⟨"a", []⟩), ("m", ⟨"a", []⟩)],
      [⟨"m", "1", ⟨"e", []⟩⟩]⟩).toOption.map (fun g => (g.nodes, g.triplets)) =
        some ([0], [⟨0, 0, 0⟩]) := by decide +kernel
  obtain ⟨g, hg, hlists⟩ := exists_of_toOption_map hlists
  obtain ⟨hnodes, htriplets⟩ := Prod.mk.inj hlists
  refine ⟨_, g, hd, hg, hnodes, htriplets, (graph_exact hd hg).2 ?_ ?_⟩
  · have hkeys : (Value.int 1).toText ≠ (Value.text "m").toText := by
      intro h
      exact absurd (Except.ok.inj h) (by decide)
    exact List.pairwise_pair.mpr hkeys
  · refine List.forall_mem_singleton.mpr ⟨_, rfl, fun which => ?_⟩
    cases which <;> rfl

def colliding : Value :=
  .mapping .plain [(.text "nodes", .mapping .plain [(.int 1, typed "a"), (.text "1", typed "b")])]

def endless : Value :=
  .mapping .plain [(.text "nodes", .mapping .plain [(.null, typed "a")]),
    (.text "connections", .sequence .list [.mapping .plain [(.text "edge", typed "e")]])]

theorem typeName_of_typed {typeName : String} {e : Entity} (h : Says (typed typeName) e) :
    e.typeName = typeName := by
  obtain ⟨entries, type, he, ht, hl, -⟩ := h
  obtain rfl := Option.some.inj he
  obtain rfl := Option.some.inj ht
  exact (Except.ok.inj hl).symm

theorem unfaithful_colliding :
    (∃ d g, ofValue colliding = .ok d ∧ d.graph = .ok g ∧ ¬Faithful colliding d.contents g) ∧
      ∃ d g, ofValue endless = .ok d ∧ d.graph = .ok g ∧ ¬Faithful endless d.contents g := by
  constructor
  · have hd : ofValue colliding = .ok ⟨.ofList [("1", ⟨"a", []⟩), ("1", ⟨"b", []⟩)], []⟩ := by rfl
    have hg : GraphData.graph ⟨.ofList [("1", ⟨"a", []⟩), ("1", ⟨"b", []⟩)], []⟩ =
        .ok ⟨[some ⟨0, []⟩], [(⟨"b", []⟩, 0)], [(0, ⟨"b", []⟩)], [(0, 0)]⟩ := by rfl
    refine ⟨_, _, hd, hg, fun h => ?_⟩
    have hdeclared : Declares colliding "1" (typed "a") := ⟨.int 1, List.mem_cons_self, rfl⟩
    obtain ⟨e, hsays, n, hn, ha⟩ := h.exact.nodes "1" (typed "a") hdeclared
    obtain rfl : n = 0 := List.mem_singleton.mp hn
    have hname : "b" = e.typeName := eq_of_beq (Bool.and_eq_true_iff.mp ha).1
    rw [typeName_of_typed hsays] at hname
    exact absurd hname (by decide)
  · have hd : ofValue endless =
        .ok ⟨.ofList [("None", ⟨"a", []⟩)], [⟨"None", "None", ⟨"e", []⟩⟩]⟩ := by rfl
    have htriplets : (GraphData.graph ⟨.ofList [("None", ⟨"a", []⟩)],
        [⟨"None", "None", ⟨"e", []⟩⟩]⟩).toOption.map Graph.triplets = some [⟨0, 0, 0⟩] := by
      decide +kernel
    obtain ⟨g, hg, -⟩ := exists_of_toOption_map htriplets
    refine ⟨_, g, hd, hg, fun h => ?_⟩
    obtain ⟨entries, he, hends⟩ := h.stated _ List.mem_cons_self
    obtain rfl := Option.some.inj he
    exact absurd (hends .main) (by decide)

end GraphTemplate.GraphData
