import GraphTemplate.Proofs.Yaml.TextData

/-! The order in which the data of a document is constructed, and where construction stops. A path
of steps leads to everything that it would stop at; paths are compared step by step, and the keys
of a mapping, with all that is in them, come before its entries. What is reported comes first. -/
namespace GraphTemplate.Yaml.Node

inductive Stage where
  /-- The item of a sequence is constructed. -/
  | item
  /-- The key of an entry is constructed. -/
  | key
  /-- A key that is a text is compared with the keys before it. -/
  | compare
  /-- The entry is made, for which its key has to be a text. -/
  | enter
  /-- The value of the entry is constructed. -/
  | value
  deriving DecidableEq

structure Step where
  stage : Stage
  index : Nat
  deriving DecidableEq

namespace Step

/-- All keys are dealt with before the first entry is made. -/
def pass (s : Step) : Nat :=
  match s.stage with
  | .item | .key | .compare => 0
  | .enter | .value => 1

def turn (s : Step) : Nat :=
  match s.stage with
  | .item | .key | .enter => 2 * s.index
  | .compare | .value => 2 * s.index + 1

instance : LT Step := ⟨fun s t => s.pass < t.pass ∨ s.pass = t.pass ∧ s.turn < t.turn⟩

theorem lt_iff {s t : Step} : s < t ↔ s.pass < t.pass ∨ s.pass = t.pass ∧ s.turn < t.turn :=
  Iff.rfl

instance : Std.Asymm (α := Step) (· < ·) where
  asymm s t := by
    rw [lt_iff, lt_iff]
    omega

def next (s : Step) : Step := ⟨s.stage, s.index + 1⟩

@[simp] theorem pass_next (s : Step) : s.next.pass = s.pass := rfl

@[simp] theorem turn_next (s : Step) : s.next.turn = s.turn + 2 := by
  obtain ⟨stage, i⟩ := s
  cases stage <;> rfl

theorem next_lt_next {s t : Step} : s.next < t.next ↔ s < t := by
  rw [lt_iff, lt_iff, pass_next, pass_next, turn_next, turn_next, Nat.add_lt_add_iff_right]

theorem lt_next {s t : Step} (hp : s.pass = t.pass) (hs : s.turn < 2) : s < t.next := by
  rw [lt_iff, pass_next, turn_next]
  exact Or.inr ⟨hp, Nat.lt_add_left _ hs⟩

variable {stage : Stage} {i : Nat} {P : Step → Prop}

theorem exists_next_zero : (∃ s, (⟨stage, 0⟩ : Step) = s.next ∧ P s) ↔ False := by
  refine iff_false_intro ?_
  rintro ⟨s, hs, -⟩
  exact Nat.succ_ne_zero s.index (Step.mk.inj hs).2.symm

theorem exists_next_succ : (∃ s, (⟨stage, i + 1⟩ : Step) = s.next ∧ P s) ↔ P ⟨stage, i⟩ := by
  constructor
  · rintro ⟨s, hs, h⟩
    obtain ⟨rfl, hi⟩ := Step.mk.inj hs
    obtain rfl := Nat.succ.inj hi
    exact h
  · exact fun h => ⟨_, rfl, h⟩

end Step

inductive Part : Node → Step → Node → Prop
  | item {m : Mark} {tag : Option String} {items : List Node} {i : Nat} {n : Node}
      (h : items[i]? = some n) : Part (sequence m tag items) ⟨.item, i⟩ n
  | key {m : Mark} {tag : Option String} {entries : List (Node × Node)} {i : Nat} {k v : Node}
      (h : entries[i]? = some (k, v)) : Part (mapping m tag entries) ⟨.key, i⟩ k
  | value {m : Mark} {tag : Option String} {entries : List (Node × Node)} {i : Nat} {k v : Node}
      (h : entries[i]? = some (k, v)) : Part (mapping m tag entries) ⟨.value, i⟩ v

/-- A step that cannot be done: a text is a key already, or a key is no text. -/
inductive Stops : Node → Step → Problem → Mark → Prop
  | repeated {m : Mark} {tag : Option String} {entries : List (Node × Node)} {i : Nat} {k v : Node}
      {t : String} (h : entries[i]? = some (k, v)) (hk : k.text? = some t)
      (ht : t ∈ textKeys (entries.take i)) :
      Stops (mapping m tag entries) ⟨.compare, i⟩ (.duplicateKey t) k.start
  | unhashable {m : Mark} {tag : Option String} {entries : List (Node × Node)} {i : Nat}
      {k v : Node} (h : entries[i]? = some (k, v)) (hk : k.text? = none) :
      Stops (mapping m tag entries) ⟨.enter, i⟩ .unhashableKey k.start

inductive Meets : Node → List Step → Problem → Mark → Prop
  | stop {n : Node} {s : Step} {p : Problem} {m : Mark} (h : n.Stops s p m) : Meets n [s] p m
  | under {n c : Node} {s : Step} {path : List Step} {p : Problem} {m : Mark} (part : n.Part s c)
      (h : Meets c path p m) : Meets n (s :: path) p m
  | endless {m : Mark} {isMapping : Bool} : Meets (endless m isMapping) [] .recursiveNode m

/-- What construction meets before everything else that it would stop at. -/
structure First (n : Node) (path : List Step) (p : Problem) (m : Mark) : Prop where
  meets : n.Meets path p m
  least : ∀ path' p' m', n.Meets path' p' m' → path' = path ∧ p' = p ∧ m' = m ∨ path < path'

/-- The data of a node: texts, lists of the data of the items, and for a mapping exactly one entry
for every pair, under the text of its key and in the order of the document. -/
inductive Becomes : Node → Value → Prop
  | scalar {m : Mark} {tag : Option String} {isPlain : Bool} {t : String} :
      Becomes (scalar m tag isPlain t) (.text t)
  | sequence {m : Mark} {tag : Option String} {items : List Node} {vs : List Value}
      (h : List.Forall₂ Becomes items vs) : Becomes (sequence m tag items) (.sequence .list vs)
  | mapping {m : Mark} {tag : Option String} {entries : List (Node × Node)} {t : NameTable Value}
      (keys : entries.map (fun e => e.1.text?) = t.names.map some)
      (values : List.Forall₂ Becomes (entries.map Prod.snd) t.values) :
      Becomes (mapping m tag entries) (.ofTable t)

variable {n c : Node} {s : Step} {e : Error} {p : Problem} {m : Mark} {path : List Step}

theorem Part.unique {c' : Node} (h : n.Part s c) (h' : n.Part s c') : c = c' := by
  cases h with
  | item h =>
    cases h' with
    | item h' => exact Option.some.inj (h.symm.trans h')
  | key h =>
    cases h' with
    | key h' => exact (Prod.mk.inj (Option.some.inj (h.symm.trans h'))).1
  | value h =>
    cases h' with
    | value h' => exact (Prod.mk.inj (Option.some.inj (h.symm.trans h'))).2

theorem Part.not_stops (h : n.Part s c) : ¬n.Stops s p m := by
  intro hs
  cases h <;> cases hs

mutual

/-- What holds of a node as soon as it holds of its parts holds of all nodes. -/
theorem parts_induction {P : Node → Prop} (ih : ∀ n, (∀ s c, n.Part s c → P c) → P n) :
    (n : Node) → P n
  | scalar .. => ih _ nofun
  | endless .. => ih _ nofun
  | sequence _ _ items => ih _ fun s c hpart => by
    cases hpart with
    | item h => exact items_induction ih items c (List.mem_of_getElem? h)
  | mapping _ _ entries => ih _ fun s c hpart => by
    cases hpart with
    | key h => exact (entries_induction ih entries _ (List.mem_of_getElem? h)).1
    | value h => exact (entries_induction ih entries _ (List.mem_of_getElem? h)).2

theorem items_induction {P : Node → Prop} (ih : ∀ n, (∀ s c, n.Part s c → P c) → P n) :
    (ns : List Node) → ∀ n ∈ ns, P n
  | [] => fun _ h => absurd h List.not_mem_nil
  | n :: ns => List.forall_mem_cons.mpr ⟨parts_induction ih n, items_induction ih ns⟩

theorem entries_induction {P : Node → Prop} (ih : ∀ n, (∀ s c, n.Part s c → P c) → P n) :
    (es : List (Node × Node)) → ∀ e ∈ es, P e.1 ∧ P e.2
  | [] => fun _ h => absurd h List.not_mem_nil
  | (k, v) :: es => List.forall_mem_cons.mpr
    ⟨⟨parts_induction ih k, parts_induction ih v⟩, entries_induction ih es⟩

end

structure Earliest (fails : Step → Error → Prop) (s : Step) (e : Error) : Prop where
  holds : fails s e
  least : ∀ s' e', fails s' e' → s' = s ∧ e' = e ∨ s < s'

/-- A run of steps comes to something if none of them fails, and else to its earliest failure. -/
def Reports {α : Type} (fails : Step → Error → Prop) : Except Error α → Prop
  | .ok _ => ∀ s e, ¬fails s e
  | .error e => ∃ s, Earliest fails s e

section

variable {α β : Type} {fails fails' : Step → Error → Prop} {x : Except Error α}

theorem reports_step (s : Step) (x : Except Error α) :
    Reports (fun s' e => s' = s ∧ x = .error e) x := by
  cases x with
  | ok a => exact fun s' e h => nomatch h.2
  | error e => exact ⟨s, ⟨rfl, rfl⟩, fun s' e' h => Or.inl ⟨h.1, (Except.error.inj h.2).symm⟩⟩

theorem Reports.congr (h : Reports fails x) (hiff : ∀ s e, fails' s e ↔ fails s e) :
    Reports fails' x := by
  have heq : fails' = fails := funext fun s => funext fun e => propext (hiff s e)
  rwa [heq]

/-- Of two runs one after the other the second is made if the first comes to something. -/
theorem Reports.bind {k : α → Except Error β} (h : Reports fails x)
    (hk : ∀ a, x = .ok a → Reports fails' (k a))
    (hlt : ∀ s e s' e', fails s e → fails' s' e' → s < s') :
    Reports (fun s e => fails s e ∨ fails' s e) (x >>= k) := by
  cases x with
  | error e =>
    obtain ⟨s, hs, hleast⟩ := h
    refine ⟨s, Or.inl hs, fun s' e' h' => ?_⟩
    rcases h' with h' | h'
    · exact hleast s' e' h'
    · exact Or.inr (hlt s e s' e' hs h')
  | ok a =>
    refine (hk a rfl).congr fun s e => ?_
    exact or_iff_right (h s e)

theorem Reports.map (h : Reports fails x) (f : α → β) :
    Reports fails (x >>= fun a => .ok (f a)) := by
  cases x <;> exact h

/-- The same run with one more item or entry before it. -/
theorem Reports.next (h : Reports fails x) :
    Reports (fun s e => ∃ s', s = s'.next ∧ fails s' e) x := by
  cases x with
  | ok a =>
    rintro _ e ⟨s, rfl, hs⟩
    exact h s e hs
  | error e =>
    obtain ⟨s, hs, hleast⟩ := h
    refine ⟨s.next, ⟨s, rfl, hs⟩, ?_⟩
    rintro _ e' ⟨s', rfl, hs'⟩
    rcases hleast s' e' hs' with ⟨rfl, rfl⟩ | hlt
    · exact Or.inl ⟨rfl, rfl⟩
    · exact Or.inr (Step.next_lt_next.mpr hlt)

end

inductive Fails (n : Node) (s : Step) : Error → Prop
  | stop {p : Problem} {m : Mark} (h : n.Stops s p m) : Fails n s (.misplaced p m)
  | part {c : Node} {e : Error} (h : n.Part s c) (he : c.textData = .error e) : Fails n s e

def ItemFails (ns : List Node) (s : Step) (e : Error) : Prop :=
  s.stage = .item ∧ ∃ n, ns[s.index]? = some n ∧ n.textData = .error e

def KeyFails (seen : List String) (es : List (Node × Node)) (s : Step) (e : Error) : Prop :=
  ∃ k v, es[s.index]? = some (k, v) ∧ (s.stage = .key ∧ k.textData = .error e ∨
    s.stage = .compare ∧ ∃ t, k.text? = some t ∧ (t ∈ textKeys (es.take s.index) ∨ t ∈ seen) ∧
      .misplaced (.duplicateKey t) k.start = e)

def EntryFails (es : List (Node × Node)) (s : Step) (e : Error) : Prop :=
  ∃ k v, es[s.index]? = some (k, v) ∧
    (s.stage = .enter ∧ k.text? = none ∧ .misplaced .unhashableKey k.start = e ∨
      s.stage = .value ∧ v.textData = .error e)

section

variable {ns : List Node} {es : List (Node × Node)} {k v : Node} {seen : List String}

theorem itemFails_cons : ItemFails (n :: ns) s e ↔
    (s = ⟨.item, 0⟩ ∧ n.textData = .error e) ∨ ∃ s', s = s'.next ∧ ItemFails ns s' e := by
  obtain ⟨stage, _ | i⟩ := s
  · simp [ItemFails, Step.exists_next_zero]
  · simp [ItemFails, Step.exists_next_succ]

theorem ItemFails.pass_eq (h : ItemFails ns s e) : s.pass = 0 := by
  rw [Step.pass, h.1]

theorem reports_textItems (ns : List Node) : Reports (ItemFails ns) (textItems ns) := by
  induction ns with
  | nil =>
    rintro s e ⟨-, n, hn, -⟩
    exact nomatch hn
  | cons n ns ih =>
    rw [textItems]
    refine Reports.congr ?_ fun s e => itemFails_cons
    refine (reports_step _ n.textData).bind (fun v _ => (ih.map (v :: ·)).next) ?_
    rintro _ _ _ _ ⟨rfl, -⟩ ⟨s, rfl, hs⟩
    exact Step.lt_next hs.pass_eq.symm (by decide)

def compareKey (k : Node) (seen : List String) : Except Error Unit :=
  match k.text? with
  | some t => if seen.contains t then .error (.misplaced (.duplicateKey t) k.start) else .ok ()
  | none => .ok ()

theorem checkKeys_cons : checkKeys ((k, v) :: es) seen = (do
    let _ ← k.textData
    compareKey k seen
    checkKeys es (k.text?.toList ++ seen)) := by
  rw [checkKeys, compareKey]
  cases k.text? with
  | none => rfl
  | some t =>
    dsimp only
    split <;> rfl

theorem compareKey_eq_error_iff : compareKey k seen = .error e ↔
    ∃ t, k.text? = some t ∧ t ∈ seen ∧ .misplaced (.duplicateKey t) k.start = e := by
  unfold compareKey
  cases k.text? with
  | none => simp
  | some t => by_cases ht : t ∈ seen <;> simp [ht]

theorem mem_textKeys_take_succ {t : String} {i : Nat} :
    t ∈ textKeys (((k, v) :: es).take (i + 1)) ∨ t ∈ seen ↔
      t ∈ textKeys (es.take i) ∨ t ∈ k.text?.toList ++ seen := by
  cases hk : k.text? with
  | none => simp [textKeys, hk]
  | some u => simp [textKeys, hk, or_assoc, or_left_comm]

theorem keyFails_cons : KeyFails seen ((k, v) :: es) s e ↔
    (s = ⟨.key, 0⟩ ∧ k.textData = .error e) ∨ (s = ⟨.compare, 0⟩ ∧ compareKey k seen = .error e) ∨
      ∃ s', s = s'.next ∧ KeyFails (k.text?.toList ++ seen) es s' e := by
  obtain ⟨stage, _ | i⟩ := s
  · rw [Step.exists_next_zero, compareKey_eq_error_iff]
    simp [KeyFails, textKeys]
  · rw [Step.exists_next_succ]
    simp only [KeyFails, mem_textKeys_take_succ]
    simp

theorem KeyFails.pass_eq (h : KeyFails seen es s e) : s.pass = 0 := by
  obtain ⟨k, v, -, ⟨hs, -⟩ | ⟨hs, -⟩⟩ := h <;> rw [Step.pass, hs]

theorem reports_checkKeys (es : List (Node × Node)) (seen : List String) :
    Reports (KeyFails seen es) (checkKeys es seen) := by
  induction es generalizing seen with
  | nil =>
    rintro s e ⟨k, v, h, -⟩
    exact nomatch h
  | cons entry es ih =>
    obtain ⟨k, v⟩ := entry
    rw [checkKeys_cons]
    refine Reports.congr ?_ fun s e => keyFails_cons
    refine (reports_step _ k.textData).bind (fun _ _ => ?_) ?_
    · refine (reports_step _ (compareKey k seen)).bind (fun _ _ => (ih _).next) ?_
      rintro _ _ _ _ ⟨rfl, -⟩ ⟨s, rfl, hs⟩
      exact Step.lt_next hs.pass_eq.symm (by decide)
    · rintro _ _ _ _ ⟨rfl, -⟩ (⟨rfl, -⟩ | ⟨s, rfl, hs⟩)
      · exact Or.inr ⟨rfl, Nat.zero_lt_one⟩
      · exact Step.lt_next hs.pass_eq.symm (by decide)

def entryKey (k : Node) : Except Error String :=
  match k.text? with
  | some t => .ok t
  | none => .error (.misplaced .unhashableKey k.start)

theorem textEntries_cons : textEntries ((k, v) :: es) = (do
    let t ← entryKey k
    let u ← v.textData
    let us ← textEntries es
    return (.text t, u) :: us) := by
  rw [textEntries, entryKey]
  cases k.text? <;> rfl

theorem entryKey_eq_error_iff :
    entryKey k = .error e ↔ k.text? = none ∧ .misplaced .unhashableKey k.start = e := by
  unfold entryKey
  cases k.text? <;> simp

theorem entryFails_cons : EntryFails ((k, v) :: es) s e ↔
    (s = ⟨.enter, 0⟩ ∧ entryKey k = .error e) ∨ (s = ⟨.value, 0⟩ ∧ v.textData = .error e) ∨
      ∃ s', s = s'.next ∧ EntryFails es s' e := by
  obtain ⟨stage, _ | i⟩ := s
  · rw [Step.exists_next_zero, entryKey_eq_error_iff]
    simp [EntryFails]
  · rw [Step.exists_next_succ]
    simp [EntryFails]

theorem EntryFails.pass_eq (h : EntryFails es s e) : s.pass = 1 := by
  obtain ⟨k, v, -, ⟨hs, -⟩ | ⟨hs, -⟩⟩ := h <;> rw [Step.pass, hs]

theorem reports_textEntries (es : List (Node × Node)) :
    Reports (EntryFails es) (textEntries es) := by
  induction es with
  | nil =>
    rintro s e ⟨k, v, h, -⟩
    exact nomatch h
  | cons entry es ih =>
    obtain ⟨k, v⟩ := entry
    rw [textEntries_cons]
    refine Reports.congr ?_ fun s e => entryFails_cons
    refine (reports_step _ (entryKey k)).bind (fun t _ => ?_) ?_
    · refine (reports_step _ v.textData).bind (fun u _ => (ih.map ((Value.text t, u) :: ·)).next) ?_
      rintro _ _ _ _ ⟨rfl, -⟩ ⟨s, rfl, hs⟩
      exact Step.lt_next hs.pass_eq.symm (by decide)
    · rintro _ _ _ _ ⟨rfl, -⟩ (⟨rfl, -⟩ | ⟨s, rfl, hs⟩)
      · exact Or.inr ⟨rfl, Nat.zero_lt_one⟩
      · exact Step.lt_next hs.pass_eq.symm (by decide)

theorem fails_sequence_iff {tag : Option String} :
    (sequence m tag ns).Fails s e ↔ ItemFails ns s e := by
  constructor
  · rintro (⟨⟨⟩⟩ | ⟨⟨h⟩, he⟩)
    exact ⟨rfl, _, h, he⟩
  · obtain ⟨stage, i⟩ := s
    rintro ⟨hs, c, h, he⟩
    obtain rfl : stage = .item := hs
    exact .part (.item h) he

theorem fails_mapping_iff {tag : Option String} :
    (mapping m tag es).Fails s e ↔ KeyFails [] es s e ∨ EntryFails es s e := by
  constructor
  · rintro (hs | ⟨hpart, he⟩)
    · cases hs with
      | repeated h hk ht => exact Or.inl ⟨_, _, h, Or.inr ⟨rfl, _, hk, Or.inl ht, rfl⟩⟩
      | unhashable h hk => exact Or.inr ⟨_, _, h, Or.inl ⟨rfl, hk, rfl⟩⟩
    · cases hpart with
      | key h => exact Or.inl ⟨_, _, h, Or.inl ⟨rfl, he⟩⟩
      | value h => exact Or.inr ⟨_, _, h, Or.inr ⟨rfl, he⟩⟩
  · obtain ⟨stage, i⟩ := s
    rintro (⟨k, v, h, ⟨hs, he⟩ | ⟨hs, t, hk, ht, rfl⟩⟩ | ⟨k, v, h, ⟨hs, hk, rfl⟩ | ⟨hs, he⟩⟩)
    · obtain rfl : stage = .key := hs
      exact .part (.key h) he
    · obtain rfl : stage = .compare := hs
      exact .stop (.repeated h hk (ht.resolve_right List.not_mem_nil))
    · obtain rfl : stage = .enter := hs
      exact .stop (.unhashable h hk)
    · obtain rfl : stage = .value := hs
      exact .part (.value h) he

/-- The data of a node is constructed step by step, up to the first step that fails. -/
theorem reports_textData (hn : ∀ m isMapping, n ≠ endless m isMapping) :
    Reports n.Fails n.textData := by
  cases n with
  | scalar =>
    rintro s e (⟨⟨⟩⟩ | ⟨⟨⟩, -⟩)
  | endless m isMapping => exact absurd rfl (hn m isMapping)
  | sequence m tag items =>
    rw [textData]
    exact ((reports_textItems items).map _).congr fun s e => fails_sequence_iff
  | mapping m tag entries =>
    rw [textData]
    refine Reports.congr ?_ fun s e => fails_mapping_iff
    refine (reports_checkKeys entries []).bind (fun _ _ => (reports_textEntries entries).map _) ?_
    intro s e s' e' hs hs'
    rw [Step.lt_iff, hs.pass_eq, hs'.pass_eq]
    exact Or.inl Nat.zero_lt_one

end

theorem not_meets_of_textData {v : Value} (h : n.textData = .ok v) : ¬n.Meets path p m := by
  intro hmeets
  induction hmeets generalizing v with
  | @stop n s p m hs =>
    have hreports := reports_textData (n := n) (by rintro m b rfl; cases hs)
    rw [h] at hreports
    exact hreports s _ (.stop hs)
  | @under n c s path p m hpart _ ih =>
    have hreports := reports_textData (n := n) (by rintro m b rfl; cases hpart)
    rw [h] at hreports
    cases hc : c.textData with
    | ok u => exact ih hc
    | error e => exact hreports s e (.part hpart hc)
  | endless => exact nomatch h

theorem first_endless (m : Mark) (isMapping : Bool) :
    (endless m isMapping).First [] .recursiveNode m := by
  refine ⟨.endless, ?_⟩
  rintro path p m' (⟨⟨⟩⟩ | ⟨⟨⟩, -⟩ | -)
  exact Or.inl ⟨rfl, rfl, rfl⟩

/-- The failure of a step is met behind it, and nothing before what it is about. -/
theorem first_of_earliest (h : Earliest n.Fails s e)
    (ih : ∀ c, n.Part s c → ∀ e, c.textData = .error e →
      ∃ path p m, e = .misplaced p m ∧ c.First path p m) :
    ∃ path p m, e = .misplaced p m ∧ n.First path p m := by
  obtain ⟨hfails, hleast⟩ := h
  have hparts : ∀ s' c path p m, n.Part s' c → c.Meets path p m → ∃ e', n.Fails s' e' := by
    intro s' c path p m hpart hmeets
    cases hc : c.textData with
    | ok v => exact absurd hmeets (not_meets_of_textData hc)
    | error e' => exact ⟨e', .part hpart hc⟩
  cases hfails with
  | @stop p m hs =>
    refine ⟨[s], p, m, rfl, .stop hs, ?_⟩
    rintro _ p' m' (hs' | ⟨hpart, hmeets⟩ | -)
    · rcases hleast _ _ (.stop hs') with ⟨rfl, he⟩ | hlt
      · obtain ⟨rfl, rfl⟩ := Error.misplaced.inj he
        exact Or.inl ⟨rfl, rfl, rfl⟩
      · exact Or.inr (List.Lex.rel hlt)
    · obtain ⟨e', he'⟩ := hparts _ _ _ _ _ hpart hmeets
      rcases hleast _ _ he' with ⟨rfl, -⟩ | hlt
      · exact absurd hs hpart.not_stops
      · exact Or.inr (List.Lex.rel hlt)
    · exact nomatch hs
  | @part c _ hpart hc =>
    obtain ⟨path, p, m, rfl, hmeets, hfirst⟩ := ih c hpart _ hc
    refine ⟨s :: path, p, m, rfl, .under hpart hmeets, ?_⟩
    rintro _ p' m' (hs' | ⟨hpart', hmeets'⟩ | -)
    · rcases hleast _ _ (.stop hs') with ⟨rfl, -⟩ | hlt
      · exact absurd hs' hpart.not_stops
      · exact Or.inr (List.Lex.rel hlt)
    · obtain ⟨e', he'⟩ := hparts _ _ _ _ _ hpart' hmeets'
      rcases hleast _ _ he' with ⟨rfl, -⟩ | hlt
      · obtain rfl := hpart.unique hpart'
        rcases hfirst _ _ _ hmeets' with ⟨rfl, rfl, rfl⟩ | hlt
        · exact Or.inl ⟨rfl, rfl, rfl⟩
        · exact Or.inr (List.Lex.cons hlt)
      · exact Or.inr (List.Lex.rel hlt)
    · exact nomatch hpart

/-- From what one collection reports, by induction on the parts of the node. -/
theorem exists_first (h : n.textData = .error e) :
    ∃ path p m, e = .misplaced p m ∧ n.First path p m := by
  refine parts_induction (P := fun n => ∀ e, n.textData = .error e →
    ∃ path p m, e = .misplaced p m ∧ n.First path p m) ?_ n e h
  intro n ih e h
  by_cases hn : ∃ m isMapping, n = endless m isMapping
  · obtain ⟨m, isMapping, rfl⟩ := hn
    obtain rfl := Except.error.inj h
    exact ⟨[], .recursiveNode, m, rfl, first_endless m isMapping⟩
  · have hreports := reports_textData (n := n) fun m isMapping hm => hn ⟨m, isMapping, hm⟩
    rw [h] at hreports
    obtain ⟨s, hs⟩ := hreports
    exact first_of_earliest hs fun c hpart => ih s c hpart

theorem First.unique {path' : List Step} {p' : Problem} {m' : Mark} (h : n.First path p m)
    (h' : n.First path' p' m') : p' = p ∧ m' = m := by
  rcases h.least _ _ _ h'.meets with ⟨-, he⟩ | hlt
  · exact he
  · rcases h'.least _ _ _ h.meets with ⟨-, rfl, rfl⟩ | hlt'
    · exact ⟨rfl, rfl⟩
    · exact absurd hlt' (List.lt_asymm hlt)

theorem textData_eq_error_iff :
    n.textData = .error (.misplaced p m) ↔ ∃ path, n.First path p m := by
  constructor
  · intro h
    obtain ⟨path, p', m', he, hfirst⟩ := exists_first h
    obtain ⟨rfl, rfl⟩ := Error.misplaced.inj he
    exact ⟨path, hfirst⟩
  · rintro ⟨path, hfirst⟩
    cases h : n.textData with
    | ok v => exact absurd hfirst.meets (not_meets_of_textData h)
    | error e =>
      obtain ⟨path', p', m', rfl, hfirst'⟩ := exists_first h
      obtain ⟨rfl, rfl⟩ := hfirst.unique hfirst'
      rfl

theorem textKeys_eq {es : List (Node × Node)} {names : List String}
    (h : es.map (fun e => e.1.text?) = names.map some) : textKeys es = names := by
  have hid : textKeys es = (es.map fun e => e.1.text?).filterMap id := by
    rw [List.filterMap_map]
    rfl
  rw [hid, h, List.filterMap_map]
  exact List.filterMap_some

mutual

theorem becomes_textData : (n : Node) → (v : Value) → n.textData = .ok v → n.Becomes v
  | scalar .., _, h => by
    obtain rfl := Except.ok.inj h
    exact .scalar
  | sequence _ _ items, _, h => by
    rw [textData] at h
    obtain ⟨vs, hvs, h⟩ := exists_of_bind_eq_ok h
    obtain rfl := Except.ok.inj h
    exact .sequence (becomes_textItems items vs hvs)
  | mapping _ _ entries, _, h => by
    rw [textData] at h
    obtain ⟨_, hkeys, h⟩ := exists_of_bind_eq_ok h
    obtain ⟨us, hus, h⟩ := exists_of_bind_eq_ok h
    obtain rfl := Except.ok.inj h
    obtain ⟨fields, rfl, hnames, hvalues⟩ := becomes_textEntries entries us hus
    have hdistinct : (fields.map Prod.fst).Nodup := by
      have hplaces := places_checkKeys entries []
      rw [hkeys, textKeys_eq hnames] at hplaces
      exact hplaces.1
    exact .mapping (t := ⟨fields, hdistinct⟩) hnames hvalues

theorem becomes_textItems : (ns : List Node) → (vs : List Value) → textItems ns = .ok vs →
    List.Forall₂ Becomes ns vs
  | [], _, h => by
    obtain rfl := Except.ok.inj h
    exact .nil
  | n :: ns, _, h => by
    rw [textItems] at h
    obtain ⟨v, hv, h⟩ := exists_of_bind_eq_ok h
    obtain ⟨vs, hvs, h⟩ := exists_of_bind_eq_ok h
    obtain rfl := Except.ok.inj h
    exact .cons (becomes_textData n v hv) (becomes_textItems ns vs hvs)

theorem becomes_textEntries : (es : List (Node × Node)) → (us : List (Value × Value)) →
    textEntries es = .ok us → ∃ fields : List (String × Value),
      us = fields.map (fun e => (.text e.1, e.2)) ∧
      es.map (fun e => e.1.text?) = (fields.map Prod.fst).map some ∧
      List.Forall₂ Becomes (es.map Prod.snd) (fields.map Prod.snd)
  | [], _, h => by
    obtain rfl := Except.ok.inj h
    exact ⟨[], rfl, rfl, .nil⟩
  | (k, v) :: es, _, h => by
    rw [textEntries] at h
    cases hk : k.text? with
    | none =>
      rw [hk] at h
      exact nomatch h
    | some t =>
      rw [hk] at h
      obtain ⟨u, hu, h⟩ := exists_of_bind_eq_ok h
      obtain ⟨us, hus, h⟩ := exists_of_bind_eq_ok h
      obtain rfl := Except.ok.inj h
      obtain ⟨fields, rfl, hnames, hvalues⟩ := becomes_textEntries es us hus
      refine ⟨(t, u) :: fields, rfl, ?_, .cons (becomes_textData v u hu) hvalues⟩
      rw [List.map_cons, hk, hnames]
      rfl

end

/-- A node comes to data in which no pair of a mapping is lost, or is refused for a node in a wrong
place. It is refused for a repeated key just if one is met before everything else that construction
would stop at: a key that is no text, or a node inside itself. What is reported is then the repeated
key that is met first. -/
theorem textData_complete (n : Node) :
    ((∃ v, n.textData = .ok v ∧ n.Becomes v) ∨
        ∃ p m, n.textData = .error (.misplaced p m)) ∧
      ((∃ t m, n.textData = .error (.misplaced (.duplicateKey t) m)) ↔
        ∃ path t m, n.Meets path (.duplicateKey t) m ∧ ∀ path' p' m', n.Meets path' p' m' →
          (∀ t', p' ≠ .duplicateKey t') → path < path') ∧
      ∀ t m, n.textData = .error (.misplaced (.duplicateKey t) m) →
        ∃ path, n.First path (.duplicateKey t) m := by
  refine ⟨?_, ⟨?_, ?_⟩, fun t m => textData_eq_error_iff.mp⟩
  · cases h : n.textData with
    | ok v => exact Or.inl ⟨v, rfl, becomes_textData n v h⟩
    | error e =>
      obtain ⟨path, p, m, rfl, -⟩ := exists_first h
      exact Or.inr ⟨p, m, rfl⟩
  · rintro ⟨t, m, h⟩
    obtain ⟨path, hmeets, hleast⟩ := textData_eq_error_iff.mp h
    refine ⟨path, t, m, hmeets, fun path' p' m' hmeets' hp' => ?_⟩
    rcases hleast path' p' m' hmeets' with ⟨-, rfl, -⟩ | hlt
    · exact absurd rfl (hp' t)
    · exact hlt
  · rintro ⟨path, t, m, hmeets, hbefore⟩
    cases h : n.textData with
    | ok v => exact absurd hmeets (not_meets_of_textData h)
    | error e =>
      obtain ⟨path', p', m', rfl, hmeets', hleast⟩ := exists_first h
      by_cases hp' : ∃ t', p' = .duplicateKey t'
      · obtain ⟨t', rfl⟩ := hp'
        exact ⟨t', m', rfl⟩
      · -- Of two problems one would come before the other and after it.
        have hlt := hbefore path' p' m' hmeets' fun t' ht' => hp' ⟨t', ht'⟩
        rcases hleast path _ m hmeets with ⟨rfl, -⟩ | hlt'
        · exact absurd hlt (List.lt_asymm hlt)
        · exact absurd hlt' (List.lt_asymm hlt)

end GraphTemplate.Yaml.Node
