import GraphTemplate.Proofs.Value.Equivalence

/-! What keeps a value from being compared: a part of it, at some depth, that cannot be hashed or
that has no end. -/
namespace GraphTemplate.Value

inductive Occurs (u : Value) : Value → Prop where
  | self : Occurs u u
  | item {k : SequenceKind} {xs : List Value} {x : Value} (hx : x ∈ xs) (h : Occurs u x) :
      Occurs u (.sequence k xs)
  | element {b : Bool} {xs : List Value} {x : Value} (hx : x ∈ xs) (h : Occurs u x) :
      Occurs u (.set b xs)
  | key {k : MappingKind} {es : List (Value × Value)} {e : Value × Value} (he : e ∈ es)
      (h : Occurs u e.1) : Occurs u (.mapping k es)
  | under {k : MappingKind} {es : List (Value × Value)} {e : Value × Value} (he : e ∈ es)
      (h : Occurs u e.2) : Occurs u (.mapping k es)
  | field {name : String} {i : Nat} {fs : List (String × Value)} {f : String × Value} (hf : f ∈ fs)
      (h : Occurs u f.2) : Occurs u (.record .namedTuple name i fs)

/-- A value that cannot be hashed and is not taken apart for it. -/
inductive Unhashable : Value → Prop where
  | octets (os : List Nat) : Unhashable (.bytes true os)
  | signaling (negative : Bool) (payload : Option Nat) (i : Nat) :
      Unhashable (.decimal (.nan negative true payload) i)
  | deque (xs : List Value) : Unhashable (.sequence .deque xs)
  | dataclass (name : String) (i : Nat) (fs : List (String × Value)) :
      Unhashable (.record .dataclass name i fs)
  | nameless (name : String) (i : Nat) (fs : List (String × Value)) :
      Unhashable (.record .nameless name i fs)

/-- A part that keeps a value from being compared, and the fault that it is met with. -/
inductive Bars : Value → Fault → Prop where
  | unhashable {u : Value} (h : Unhashable u) : Bars u .wrongKind
  | endless (isMapping : Bool) : Bars (.special (.endless isMapping)) .endless

variable {u v : Value} {f : Fault}

theorem itemsFault?_eq_none_iff {xs : List Value} :
    itemsFault? xs = none ↔ ∀ x ∈ xs, x.hashFault? = none := by
  induction xs with
  | nil => simp [itemsFault?]
  | cons x xs ih => simp [itemsFault?, ih]

theorem entriesFault?_eq_none_iff {es : List (Value × Value)} :
    entriesFault? es = none ↔ ∀ e ∈ es, e.1.hashFault? = none ∧ e.2.hashFault? = none := by
  induction es with
  | nil => simp [entriesFault?]
  | cons e es ih => obtain ⟨k, v⟩ := e; simp [entriesFault?, ih, and_assoc]

theorem fieldsFault?_eq_none_iff {fs : List (String × Value)} :
    fieldsFault? fs = none ↔ ∀ f ∈ fs, f.2.hashFault? = none := by
  induction fs with
  | nil => simp [fieldsFault?]
  | cons f fs ih => obtain ⟨n, v⟩ := f; simp [fieldsFault?, ih]

theorem exists_of_itemsFault? {xs : List Value} (h : itemsFault? xs = some f) :
    ∃ x ∈ xs, x.hashFault? = some f := by
  induction xs with
  | nil => cases h
  | cons x xs ih =>
    rcases Option.or_eq_some_iff.mp h with hx | ⟨-, hxs⟩
    · exact ⟨x, List.mem_cons_self, hx⟩
    · obtain ⟨y, hy, hf⟩ := ih hxs
      exact ⟨y, List.mem_cons_of_mem x hy, hf⟩

theorem exists_of_entriesFault? {es : List (Value × Value)} (h : entriesFault? es = some f) :
    ∃ e ∈ es, e.1.hashFault? = some f ∨ e.2.hashFault? = some f := by
  induction es with
  | nil => cases h
  | cons e es ih =>
    rcases Option.or_eq_some_iff.mp h with he | ⟨-, hes⟩
    · refine ⟨e, List.mem_cons_self, ?_⟩
      rcases Option.or_eq_some_iff.mp he with hk | ⟨-, hv⟩
      · exact .inl hk
      · exact .inr hv
    · obtain ⟨e', he', hf⟩ := ih hes
      exact ⟨e', List.mem_cons_of_mem e he', hf⟩

theorem exists_of_fieldsFault? {fs : List (String × Value)} (h : fieldsFault? fs = some f) :
    ∃ g ∈ fs, g.2.hashFault? = some f := by
  induction fs with
  | nil => cases h
  | cons g fs ih =>
    rcases Option.or_eq_some_iff.mp h with hg | ⟨-, hfs⟩
    · exact ⟨g, List.mem_cons_self, hg⟩
    · obtain ⟨g', hg', hf⟩ := ih hfs
      exact ⟨g', List.mem_cons_of_mem g hg', hf⟩

theorem hashFault?_sequence {k : SequenceKind} (hk : k ≠ .deque) (xs : List Value) :
    (sequence k xs).hashFault? = itemsFault? xs := by
  cases k with
  | deque => exact absurd rfl hk
  | _ => rfl

theorem hashFault?_atom_iff (hv : v.isAtom = true) : v.hashFault? = some f ↔ v.Bars f := by
  constructor
  · intro h
    cases v with
    | bytes isMutable os =>
      cases isMutable with
      | true => exact Option.some.inj h ▸ .unhashable (.octets os)
      | false => cases h
    | decimal d i =>
      cases d with
      | nan negative signaling payload =>
        cases signaling with
        | true => exact Option.some.inj h ▸ .unhashable (.signaling negative payload i)
        | false => cases h
      | _ => cases h
    | record k name i fs =>
      cases k with
      | dataclass => exact Option.some.inj h ▸ .unhashable (.dataclass name i fs)
      | nameless => exact Option.some.inj h ▸ .unhashable (.nameless name i fs)
      | namedTuple => cases hv
      | object => cases h
    | special s =>
      cases s with
      | endless isMapping => exact Option.some.inj h ▸ .endless isMapping
      | _ => cases h
    | sequence | set | mapping => cases hv
    | _ => cases h
  · intro h
    cases h with
    | endless => rfl
    | unhashable h =>
      cases h with
      | deque => cases hv
      | _ => rfl

theorem exists_of_hashFault? (h : v.hashFault? = some f) : ∃ u, Occurs u v ∧ u.Bars f := by
  induction v using induction_on_parts with
  | atom v hv => exact ⟨v, .self, (hashFault?_atom_iff hv).mp h⟩
  | sequence k xs ih =>
    by_cases hk : k = .deque
    · subst hk
      exact ⟨_, .self, Option.some.inj h ▸ .unhashable (.deque xs)⟩
    · rw [hashFault?_sequence hk] at h
      obtain ⟨x, hx, hf⟩ := exists_of_itemsFault? h
      obtain ⟨u, hu, hb⟩ := ih x hx hf
      exact ⟨u, .item hx hu, hb⟩
  | set b xs ih =>
    obtain ⟨x, hx, hf⟩ := exists_of_itemsFault? h
    obtain ⟨u, hu, hb⟩ := ih x hx hf
    exact ⟨u, .element hx hu, hb⟩
  | mapping k es ih =>
    obtain ⟨e, he, hf | hf⟩ := exists_of_entriesFault? h
    · obtain ⟨u, hu, hb⟩ := (ih e he).1 hf
      exact ⟨u, .key he hu, hb⟩
    · obtain ⟨u, hu, hb⟩ := (ih e he).2 hf
      exact ⟨u, .under he hu, hb⟩
  | namedTuple name i fs ih =>
    obtain ⟨g, hg, hf⟩ := exists_of_fieldsFault? h
    obtain ⟨u, hu, hb⟩ := ih g hg hf
    exact ⟨u, .field hg hu, hb⟩

theorem hashFault?_ne_none_of_bars (h : v.Bars f) : v.hashFault? ≠ none := by
  cases h with
  | endless => exact nofun
  | unhashable h => cases h <;> exact nofun

theorem hashFault?_ne_none_of_occurs (h : Occurs u v) (hu : u.Bars f) : v.hashFault? ≠ none := by
  induction h with
  | self => exact hashFault?_ne_none_of_bars hu
  | @item k xs x hx _ ih =>
    by_cases hk : k = .deque
    · subst hk
      exact nofun
    · rw [hashFault?_sequence hk]
      exact fun hn => ih (itemsFault?_eq_none_iff.mp hn x hx)
  | element hx _ ih => exact fun hn => ih (itemsFault?_eq_none_iff.mp hn _ hx)
  | key he _ ih => exact fun hn => ih (entriesFault?_eq_none_iff.mp hn _ he).1
  | under he _ ih => exact fun hn => ih (entriesFault?_eq_none_iff.mp hn _ he).2
  | field hf _ ih => exact fun hn => ih (fieldsFault?_eq_none_iff.mp hn _ hf)

end GraphTemplate.Value
