import GraphTemplate.Fault
import GraphTemplate.Proofs.Value.Keys
import GraphTemplate.Proofs.Value.Plain
import GraphTemplate.Yaml.TypedData

/-! What documents with values of all kinds are loaded as: data, unless a collection is inside
itself. -/
namespace GraphTemplate

/-- Keys and values of entries are among those that were entered, if not together. -/
theorem Value.mem_entriesOf {pairs : List (Value × Value)} {e : Value × Value}
    (h : e ∈ entriesOf pairs) : (∃ p ∈ pairs, p.1 = e.1) ∧ ∃ p ∈ pairs, p.2 = e.2 := by
  have hfold : ∀ es : List (Value × Value),
      e ∈ pairs.foldl (fun es p => putEntry p.1 p.2 es) es →
        (∃ p ∈ es ++ pairs, p.1 = e.1) ∧ ∃ p ∈ es ++ pairs, p.2 = e.2 := by
    clear h
    induction pairs with
    | nil =>
      intro es h
      rw [List.append_nil]
      exact ⟨⟨e, h, rfl⟩, e, h, rfl⟩
    | cons p pairs ih =>
      intro es h
      obtain ⟨⟨q, hq, hkey⟩, r, hr, hvalue⟩ := ih _ h
      have hmem {x : Value × Value} (hx : x ∈ es ∨ x = p ∨ x ∈ pairs) : x ∈ es ++ p :: pairs :=
        List.mem_append.mpr (hx.imp_right List.mem_cons.mpr)
      constructor
      · rcases List.mem_append.mp hq with hq | hq
        · rcases mem_putEntry hq with hq | ⟨-, hk | ⟨q', hq', hk⟩⟩
          · exact ⟨q, hmem (Or.inl hq), hkey⟩
          · exact ⟨p, hmem (Or.inr (Or.inl rfl)), hk.symm.trans hkey⟩
          · exact ⟨q', hmem (Or.inl hq'), hk.trans hkey⟩
        · exact ⟨q, hmem (Or.inr (Or.inr hq)), hkey⟩
      · rcases List.mem_append.mp hr with hr | hr
        · rcases mem_putEntry hr with hr | ⟨hv, -⟩
          · exact ⟨r, hmem (Or.inl hr), hvalue⟩
          · exact ⟨p, hmem (Or.inr (Or.inl rfl)), hv.symm.trans hvalue⟩
        · exact ⟨r, hmem (Or.inr (Or.inr hr)), hvalue⟩
  exact hfold [] h

namespace Yaml

open Value (Simple Plain Finite)

variable {α β : Type}

theorem Loading.both_eq_ok_iff {x : Loading α} {y : Loading β} {p : α × β} :
    both x y = .ok p ↔ x = .ok p.1 ∧ y = .ok p.2 := by
  obtain ⟨a, b⟩ := p
  cases x <;> cases y <;> simp [both]

theorem exists_of_map_eq_ok {x : Except Fault α} {f : α → β} {b : β} (h : x.map f = .ok b) :
    ∃ a, x = .ok a ∧ f a = b := by
  cases x with
  | error e => exact nomatch h
  | ok a => exact ⟨a, rfl, Except.ok.inj h⟩

theorem ScalarValue.simple_of_timestamp {s : String} {v : Value} (h : timestamp s = .ok v) :
    v.Simple := by
  unfold timestamp at h
  split at h
  · unfold stampValue at h
    split at h
    · obtain ⟨d, -, h⟩ := exists_of_bind_eq_ok h
      obtain rfl := Except.ok.inj h
      exact .date d
    · obtain ⟨o, -, h⟩ := exists_of_bind_eq_ok h
      obtain ⟨d, -, h⟩ := exists_of_bind_eq_ok h
      obtain ⟨c, -, h⟩ := exists_of_bind_eq_ok h
      obtain rfl := Except.ok.inj h
      exact .moment _
  · exact nomatch h

theorem Kind.simple_of_scalarValue {kind : Kind} {s : String} {v : Value}
    (h : kind.scalarValue s = .ok (some v)) : v.Simple := by
  cases kind with
  | null =>
    obtain rfl := Option.some.inj (Except.ok.inj h)
    exact .null
  | bool =>
    obtain ⟨b, -, hb⟩ := exists_of_map_eq_ok h
    obtain rfl := Option.some.inj hb
    exact .bool b
  | int =>
    obtain ⟨n, -, hn⟩ := exists_of_map_eq_ok h
    obtain rfl := Option.some.inj hn
    exact .int n
  | float =>
    obtain ⟨x, -, hx⟩ := exists_of_map_eq_ok h
    obtain rfl := Option.some.inj hx
    exact .float x 0
  | binary =>
    obtain ⟨octets, -, rfl⟩ := Option.map_eq_some_iff.mp (Except.ok.inj h)
    exact .bytes octets
  | timestamp =>
    obtain ⟨u, hu, hv⟩ := exists_of_map_eq_ok h
    obtain rfl := Option.some.inj hv
    exact ScalarValue.simple_of_timestamp hu
  | text =>
    obtain rfl := Option.some.inj (Except.ok.inj h)
    exact .text s
  | _ => exact nomatch h

namespace Node

theorem simple_of_scalarValue {kind : Kind} {n : Node} {v : Value}
    (h : scalarValue kind n = .ok v) : v.Simple := by
  obtain ⟨text, -, h⟩ := exists_of_bind_eq_ok h
  split at h
  · exact nomatch h
  · split at h
    · next u hu =>
      obtain rfl := Except.ok.inj h
      exact Kind.simple_of_scalarValue hu
    · exact nomatch h
    · exact nomatch h

theorem atDepth_eq_ok_iff {depth : Nat} {x : Except Error α} {a : α} :
    atDepth depth x = .ok a ↔ x = .ok a := by
  cases x <;> simp [atDepth, Loading.fail]

theorem simple_of_keyValue {depth : Nat} {k : Node} {v : Value}
    (h : keyValue depth k = .ok v) : v.Simple := by
  unfold keyValue at h
  split at h
  · cases ht : k.scalarText with
    | error e =>
      rw [ht] at h
      exact nomatch h
    | ok s =>
      rw [ht] at h
      obtain rfl := Except.ok.inj h
      exact .text s
  · split at h
    · exact nomatch h
    · exact simple_of_scalarValue (atDepth_eq_ok_iff.mp h)

section

variable {load : Node → Loading Value} {depth : Nat}

theorem exists_load_of_loadItems {ns : List Node} {vs : List Value}
    (h : loadItems load ns = .ok vs) : ∀ v ∈ vs, ∃ n, load n = .ok v := by
  induction ns generalizing vs with
  | nil =>
    obtain rfl := Except.ok.inj h
    exact fun v hv => absurd hv List.not_mem_nil
  | cons n ns ih =>
    obtain ⟨⟨v, rest⟩, hboth, h⟩ := exists_of_bind_eq_ok h
    obtain rfl := Except.ok.inj h
    obtain ⟨hv, hrest⟩ := Loading.both_eq_ok_iff.mp hboth
    exact List.forall_mem_cons.mpr ⟨⟨n, hv⟩, ih hrest⟩

theorem exists_load_of_loadEntries {es : List (Node × Node)} {ps : List (Value × Value)}
    (h : loadEntries load depth es = .ok ps) :
    ∀ p ∈ ps, p.1.Simple ∧ ∃ n, load n = .ok p.2 := by
  induction es generalizing ps with
  | nil =>
    obtain rfl := Except.ok.inj h
    exact fun p hp => absurd hp List.not_mem_nil
  | cons e es ih =>
    obtain ⟨⟨p, rest⟩, hboth, h⟩ := exists_of_bind_eq_ok h
    obtain rfl := Except.ok.inj h
    obtain ⟨hp, hrest⟩ := Loading.both_eq_ok_iff.mp hboth
    obtain ⟨hk, hv⟩ := Loading.both_eq_ok_iff.mp hp
    exact List.forall_mem_cons.mpr ⟨⟨simple_of_keyValue hk, e.2, hv⟩, ih hrest⟩

theorem exists_load_of_loadMapping {es : List (Node × Node)} {ps : List (Value × Value)}
    (h : loadMapping load depth es = .ok ps) :
    ∀ p ∈ ps, p.1.Simple ∧ ∃ n, load n = .ok p.2 := by
  obtain ⟨flat, -, h⟩ := exists_of_bind_eq_ok h
  obtain ⟨pairs, hpairs, h⟩ := exists_of_bind_eq_ok h
  obtain rfl := Except.ok.inj h
  have hall := exists_load_of_loadEntries hpairs
  intro p hp
  obtain ⟨⟨q, hq, hkey⟩, r, hr, hvalue⟩ := Value.mem_entriesOf hp
  exact ⟨hkey ▸ (hall q hq).1, hvalue ▸ (hall r hr).2⟩

theorem exists_load_of_loadPair {n : Node} {p : Value × Value}
    (h : loadPair load depth n = .ok p) : (∃ k, load k = .ok p.1) ∧ ∃ m, load m = .ok p.2 := by
  unfold loadPair at h
  split at h
  · next k m =>
    obtain ⟨hk, hm⟩ := Loading.both_eq_ok_iff.mp h
    exact ⟨⟨k, hk⟩, m, hm⟩
  · exact nomatch h

theorem exists_load_of_loadPairs {ns : List Node} {vs : List Value}
    (h : loadPairs load depth ns = .ok vs) :
    ∀ v ∈ vs, ∃ a b, v = .sequence .tuple [a, b] ∧ (∃ n, load n = .ok a) ∧
      ∃ n, load n = .ok b := by
  induction ns generalizing vs with
  | nil =>
    obtain rfl := Except.ok.inj h
    exact fun v hv => absurd hv List.not_mem_nil
  | cons n ns ih =>
    obtain ⟨⟨p, rest⟩, hboth, h⟩ := exists_of_bind_eq_ok h
    obtain rfl := Except.ok.inj h
    obtain ⟨hp, hrest⟩ := Loading.both_eq_ok_iff.mp hboth
    have hpair := exists_load_of_loadPair hp
    exact List.forall_mem_cons.mpr ⟨⟨p.1, p.2, rfl, hpair⟩, ih hrest⟩

end

theorem plain_of_load {fuel depth : Nat} {n : Node} {v : Value}
    (h : load fuel depth n = .ok v) (hv : v.Finite) : v.Plain := by
  induction fuel generalizing depth n v with
  | zero => exact nomatch h
  | succ fuel ih =>
    unfold load at h
    split at h
    · next isMapping =>
      obtain rfl := Except.ok.inj h
      exact absurd (.self) (hv isMapping)
    · obtain ⟨vs, hvs, h⟩ := exists_of_bind_eq_ok h
      obtain rfl := Except.ok.inj h
      refine .list fun u hu => ?_
      obtain ⟨n, hn⟩ := exists_load_of_loadItems hvs u hu
      exact ih hn (hv.of_item hu)
    · obtain ⟨vs, hvs, h⟩ := exists_of_bind_eq_ok h
      obtain rfl := Except.ok.inj h
      refine .list fun u hu => ?_
      obtain ⟨x, y, rfl, ⟨n, hn⟩, m, hm⟩ := exists_load_of_loadPairs hvs u hu
      refine .pair (List.forall_mem_cons.mpr ⟨?_, List.forall_mem_singleton.mpr ?_⟩)
      · exact ih hn ((hv.of_item hu).of_item List.mem_cons_self)
      · have hy : y ∈ [x, y] := List.mem_cons_of_mem x List.mem_cons_self
        exact ih hm ((hv.of_item hu).of_item hy)
    · obtain ⟨es, hes, h⟩ := exists_of_bind_eq_ok h
      obtain rfl := Except.ok.inj h
      have hall := exists_load_of_loadMapping hes
      refine .mapping (fun e he => (hall e he).1) fun e he => ?_
      obtain ⟨n, hn⟩ := (hall e he).2
      exact ih hn (hv.of_entry he)
    · obtain ⟨es, hes, h⟩ := exists_of_bind_eq_ok h
      obtain rfl := Except.ok.inj h
      refine .set (List.forall_mem_map.mpr fun e he => ?_)
      exact (exists_load_of_loadMapping hes e he).1
    · split at h
      · exact nomatch h
      · exact .simple (simple_of_scalarValue (atDepth_eq_ok_iff.mp h))

end Node

/-- What is loaded is data, unless a collection is inside itself. -/
theorem plain_iff_finite_of_loadTyped {source : Source} {v : Value}
    (h : loadTyped source = .ok v) : v.Plain ↔ v.Finite := by
  refine ⟨fun hv => Value.finite_of_hashFault? hv.hashFault?, fun hv => ?_⟩
  obtain ⟨root, -, h⟩ := exists_of_bind_eq_ok h
  split at h
  · split at h
    · next u hu =>
      obtain rfl := Except.ok.inj h
      exact Node.plain_of_load hu hv
    · exact nomatch h
  · obtain rfl := Except.ok.inj h
    exact .simple .null

end Yaml

end GraphTemplate
