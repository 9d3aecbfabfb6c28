import GraphTemplate.Proofs.Datum
import GraphTemplate.Proofs.Template.PropertyKeys
import GraphTemplate.Proofs.Value.Equivalence

/-! What passes: values of a declared type that satisfy the restrictions on them, and entities with
keys for the declared ones and values that pass under them. -/
namespace GraphTemplate

namespace Property

open Check

variable {p : Property} {s : Scalar} {v w : Value} {rs : List Restriction}

theorem hasType_eq_ok_iff {typed : Bool} :
    hasType s v = .ok typed ↔ ∃ d, Datum.ofValue? s v = .ok d ∧ d.isSome = typed := by
  unfold hasType
  cases Datum.ofValue? s v with
  | error f => simp [Check.lift, bind, Except.bind]
  | ok d => simp [Check.lift, bind, Except.bind, pure, Except.pure]

theorem typed_iff : hasType s v = .ok true ↔ v.Typed s := by
  simp only [hasType_eq_ok_iff, Value.Typed, Option.isSome_iff_exists]
  constructor
  · rintro ⟨_, h, d, rfl⟩
    exact ⟨d, h⟩
  · rintro ⟨d, h⟩
    exact ⟨some d, h, d, rfl⟩

theorem wrongType_ne_ok {α : Type} (v : Value) (a : α) : p.wrongType v ≠ .ok a := by
  intro h
  obtain ⟨_, -, hv⟩ := bind_eq_ok_iff.mp h
  exact nomatch hv

/-- A check that goes on only if a value has a type. -/
theorem typed_seq_eq_ok_iff {c : Check Unit} :
    (hasType s v >>= fun typed =>
      if typed = true then c else p.wrongType w >>= fun _ : Unit => c) = .ok () ↔
      v.Typed s ∧ c = .ok () := by
  rw [bind_eq_ok_iff]
  constructor
  · rintro ⟨typed, ht, hc⟩
    cases typed with
    | true => exact ⟨typed_iff.mp ht, hc⟩
    | false =>
      obtain ⟨_, hw, -⟩ := bind_eq_ok_iff.mp hc
      exact absurd hw (wrongType_ne_ok w _)
  · rintro ⟨ht, hc⟩
    exact ⟨true, typed_iff.mpr ht, hc⟩

/-- A value that nothing restricts, or that is accepted by one of its restrictions. -/
def Passes (rs : List Restriction) (v : Value) : Prop := rs = [] ∨ anyAccepts v rs = .ok true

theorem checkRestrictions_eq_ok_iff {what : String} :
    p.checkRestrictions s rs what v = .ok () ↔ Passes rs v := by
  unfold checkRestrictions Passes
  cases rs with
  | nil => exact iff_of_true rfl (.inl rfl)
  | cons r rs =>
    show (Check.lift (anyAccepts v (r :: rs)) >>= _) = .ok () ↔ _
    cases anyAccepts v (r :: rs) with
    | error f => simp [Check.lift, bind, Except.bind]
    | ok accepted =>
      cases accepted with
      | true => exact iff_of_true rfl (.inr rfl)
      | false =>
        refine iff_of_false (fun h => ?_) (by simp)
        have hshown : (Check.lift (shown s v) >>= fun text =>
            (Check.violated (.rejected p.key text what ((r :: rs).map (·.raw))) : Check Unit)) =
              .ok () := h
        obtain ⟨_, -, hv⟩ := bind_eq_ok_iff.mp hshown
        cases hv

theorem anyAccepts_cons_eq_ok_iff {r : Restriction} {rs : List Restriction} {b : Bool} :
    anyAccepts v (r :: rs) = .ok b ↔ r.accepts v = .ok true ∧ b = true ∨
      r.accepts v = .ok false ∧ anyAccepts v rs = .ok b := by
  rw [anyAccepts]
  cases r.accepts v with
  | error f => simp [bind, Except.bind]
  | ok accepted => cases accepted <;> simp [bind, Except.bind, pure, Except.pure, eq_comm]

theorem anyAccepts_eq_true {rs : List Restriction} (h : anyAccepts v rs = .ok true) :
    ∃ r ∈ rs, r.accepts v = .ok true := by
  induction rs with
  | nil => simp [anyAccepts] at h
  | cons r rs ih =>
    rcases anyAccepts_cons_eq_ok_iff.mp h with ⟨ha, -⟩ | ⟨-, h⟩
    · exact ⟨r, List.mem_cons_self, ha⟩
    · obtain ⟨r', hr', ha'⟩ := ih h
      exact ⟨r', List.mem_cons_of_mem r hr', ha'⟩

theorem anyAccepts_eq_false (h : anyAccepts v rs = .ok false) :
    ∀ r ∈ rs, r.accepts v = .ok false := by
  induction rs with
  | nil => exact fun _ hr => absurd hr List.not_mem_nil
  | cons r rs ih =>
    rcases anyAccepts_cons_eq_ok_iff.mp h with ⟨-, hb⟩ | ⟨ha, h⟩
    · exact nomatch hb
    · exact List.forall_mem_cons.mpr ⟨ha, ih h⟩

theorem typed_of_accepts {r : Restriction} (h : r.accepts v = .ok true) : v.Typed r.scalar := by
  unfold Restriction.accepts at h
  cases hd : Datum.ofValue? r.scalar v with
  | error f =>
    rw [hd] at h
    exact nomatch h
  | ok d =>
    rw [hd] at h
    cases d with
    | none => exact nomatch h
    | some d => exact ⟨d, hd⟩

/-- What passes some restriction has the type that all of them are for. -/
theorem Passes.typed (h : Passes rs v) (hne : rs ≠ []) (hs : ∀ r ∈ rs, r.scalar = s) :
    v.Typed s := by
  rcases h with h | h
  · exact absurd h hne
  · obtain ⟨r, hr, ha⟩ := anyAccepts_eq_true h
    exact hs r hr ▸ typed_of_accepts ha

theorem checkScalar_eq_ok_iff : p.checkScalar s v = .ok () ↔ v.Typed s ∧ Passes p.values v := by
  have hpass := @checkRestrictions_eq_ok_iff p s v p.values "value"
  rw [checkScalar, bind_eq_ok_iff, ← hpass]
  constructor
  · rintro ⟨typed, ht, hc⟩
    cases typed with
    | true => exact ⟨typed_iff.mp ht, hc⟩
    | false => exact absurd hc (wrongType_ne_ok v _)
  · rintro ⟨ht, hc⟩
    exact ⟨true, typed_iff.mpr ht, hc⟩

theorem checkItems_eq_forM (vs : List Value) :
    p.checkItems s vs = forM vs (p.checkRestrictions s p.values "array-value") := by
  induction vs with
  | nil => rfl
  | cons v vs ih => rw [checkItems, List.forM_cons, ih]

theorem checkItems_eq_ok_iff {vs : List Value} :
    p.checkItems s vs = .ok () ↔ ∀ v ∈ vs, Passes p.values v := by
  rw [checkItems_eq_forM, forM_eq_ok_iff]
  simp only [checkRestrictions_eq_ok_iff]

theorem checkArray_eq_ok_iff :
    p.checkArray s v = .ok () ↔ ∃ items, v.elements? = some items ∧
      (∀ first ∈ items.head?, first.Typed s) ∧ ∀ u ∈ items, Passes p.values u := by
  unfold checkArray
  cases v.elements? with
  | none => exact iff_of_false (wrongType_ne_ok v _) fun ⟨_, h, _⟩ => nomatch h
  | some items =>
    cases items with
    | nil => simp [checkItems]
    | cons first items =>
      refine (typed_seq_eq_ok_iff (p := p) (w := v)).trans ?_
      rw [checkItems_eq_ok_iff]
      simp

def EntryPasses (p : Property) (e : Value × Value) : Prop :=
  (∃ text, e.1.toText = .ok text) ∧ Passes p.values e.2 ∧ Passes p.keys e.1

/-- The verdict on one entry of a map: on the value, then on the key. -/
def checkEntry (p : Property) (key value : Scalar) (e : Value × Value) : Check Unit := do
  let shownKey ← Check.lift e.1.toText
  p.checkRestrictions value p.values ("map-value under \"" ++ shownKey ++ "\" key") e.2
  p.checkRestrictions key p.keys "map-key" e.1

theorem checkEntry_eq_ok_iff {key value : Scalar} {e : Value × Value} :
    p.checkEntry key value e = .ok () ↔ p.EntryPasses e := by
  rw [checkEntry, EntryPasses]
  cases e.1.toText with
  | error f => simp [Check.lift, bind, Except.bind]
  | ok text =>
    show (p.checkRestrictions value p.values _ e.2 >>= fun _ =>
      p.checkRestrictions key p.keys _ e.1) = _ ↔ _
    rw [seq_eq_ok_iff, checkRestrictions_eq_ok_iff, checkRestrictions_eq_ok_iff]
    simp

theorem checkEntries_eq_forM {key value : Scalar} (es : List (Value × Value)) :
    p.checkEntries key value es = forM es (p.checkEntry key value) := by
  induction es with
  | nil => rfl
  | cons e es ih =>
    rw [checkEntries, List.forM_cons, ih, checkEntry]
    simp only [bind_assoc]

theorem checkEntries_eq_ok_iff {key value : Scalar} {es : List (Value × Value)} :
    p.checkEntries key value es = .ok () ↔ ∀ e ∈ es, p.EntryPasses e := by
  rw [checkEntries_eq_forM, forM_eq_ok_iff]
  simp only [checkEntry_eq_ok_iff]

theorem checkMap_eq_ok_iff {key value : Scalar} :
    p.checkMap key value v = .ok () ↔ ∃ entries, v.entries? = some entries ∧
      (∀ first ∈ entries.head?, first.1.Typed key ∧ first.2.Typed value) ∧
      ∀ e ∈ entries, p.EntryPasses e := by
  unfold checkMap
  cases v.entries? with
  | none => exact iff_of_false (wrongType_ne_ok v _) fun ⟨_, h, _⟩ => nomatch h
  | some entries =>
    cases entries with
    | nil => simp [checkEntries]
    | cons first entries =>
      refine (typed_seq_eq_ok_iff (p := p) (w := v)).trans ?_
      rw [typed_seq_eq_ok_iff (p := p) (w := v), checkEntries_eq_ok_iff, ← and_assoc]
      simp only [List.head?_cons, Option.mem_some_iff, forall_eq', Option.some.injEq,
        exists_eq_left']

end Property

namespace PropertyKeys

variable {names : List String} {keys : List Value} {key : Value} {form : String}

def formOf (key : Value) : Except Fault String := key.toText.map lowercase

theorem formOf_eq_ok_iff :
    formOf key = .ok form ↔ ∃ text, key.toText = .ok text ∧ lowercase text = form := by
  unfold formOf
  cases key.toText <;> simp [Except.map]

theorem told_of_foldlM {s s' : State} (h : keys.foldlM step s = .ok s') :
    ∀ key ∈ keys, ∃ text, key.toText = .ok text := by
  induction keys generalizing s with
  | nil => exact fun _ hk => absurd hk List.not_mem_nil
  | cons key keys ih =>
    rw [List.foldlM_cons] at h
    cases ht : key.toText with
    | error f =>
      have hs : step s key = .error f := by rw [step, ht]; rfl
      rw [hs] at h
      cases h
    | ok text =>
      have hs : step s key = .ok (s.assign (key, text)) := @step_of_toText s (key, text) ht
      rw [hs] at h
      exact List.forall_mem_cons.mpr ⟨⟨text, ht⟩, ih h⟩

theorem told_of_pairing {pairs : List (Value × String)} (h : pairing names keys = .ok pairs) :
    ∀ key ∈ keys, ∃ text, key.toText = .ok text := by
  obtain ⟨s, hs, -⟩ := Check.bind_eq_ok_iff.mp h
  cases hf : keys.foldlM step ⟨declared names, [], []⟩ with
  | error f =>
    rw [hf] at hs
    exact nomatch hs
  | ok s' => exact told_of_foldlM hf

def shown (keys : List Value) : List (Value × String) :=
  keys.map fun key => (key, key.toText.toOption.getD "")

theorem map_fst_shown (keys : List Value) : (shown keys).map Prod.fst = keys := by
  unfold shown
  rw [List.map_map]
  exact List.map_id _

section

variable (h : ∀ key ∈ keys, ∃ text, key.toText = .ok text)

include h

theorem toText_of_mem_shown : ∀ key ∈ shown keys, key.1.toText = .ok key.2 := by
  intro _ hshown
  obtain ⟨key, hkey, rfl⟩ := List.mem_map.mp hshown
  obtain ⟨text, ht⟩ := h key hkey
  simp [ht, Except.toOption]

theorem map_formOf : keys.map formOf = (forms (shown keys)).map Except.ok := by
  unfold forms shown
  rw [List.map_map, List.map_map]
  refine List.map_congr_left fun key hkey => ?_
  obtain ⟨text, ht⟩ := h key hkey
  simp [formOf, ht, Except.map, Except.toOption]

theorem mem_forms_shown : form ∈ forms (shown keys) ↔ ∃ key ∈ keys, formOf key = .ok form := by
  rw [← List.mem_map, map_formOf h]
  simp

theorem nodup_forms_shown : (forms (shown keys)).Nodup ↔ (keys.map formOf).Nodup := by
  rw [map_formOf h]
  exact (List.nodup_map_iff fun _ _ he => Except.ok.inj he).symm

end

def standsFor (names : List String) (key : Value) : String :=
  ((declared names).get? (lowercase (key.toText.toOption.getD ""))).getD ""

theorem standsFor_eq {d : String} (hf : formOf key = .ok form)
    (hd : (declared names).get? form = some d) : standsFor names key = d := by
  obtain ⟨text, ht, rfl⟩ := formOf_eq_ok_iff.mp hf
  simp [standsFor, ht, Except.toOption, hd]

/-- Keys that are told apart are all paired just if there is one of them for every declared form. -/
theorem pairing_eq_ok_iff_forms {pairs : List (Value × String)}
    (hk : keys.Pairwise fun key other => key.sameKey other = false) :
    pairing names keys = .ok pairs ↔
      (∀ key ∈ keys, ∃ form d, formOf key = .ok form ∧ (declared names).get? form = some d) ∧
        (keys.map formOf).Nodup ∧
        (∀ form d, (declared names).get? form = some d → ∃ key ∈ keys, formOf key = .ok form) ∧
        pairs = keys.map fun key => (key, standsFor names key) := by
  have hdiff : (shown keys).Pairwise fun key other => key.1.sameKey other.1 = false :=
    List.pairwise_map.mpr hk
  have hpairs : ((shown keys).map fun key =>
      (key.1, ((declared names).get? (lowercase key.2)).getD "")) =
        keys.map fun key => (key, standsFor names key) := List.map_map
  have hiff (h : ∀ key ∈ keys, ∃ text, key.toText = .ok text) :=
    @pairing_eq_ok_iff names _ pairs (toText_of_mem_shown h) hdiff
  rw [map_fst_shown] at hiff
  constructor
  · intro hp
    have h := told_of_pairing hp
    rw [hiff h, nodup_forms_shown h, hpairs] at hp
    obtain ⟨⟨hn, hsome, hall⟩, rfl⟩ := hp
    refine ⟨fun key hkey => ?_, hn, fun form d hd => (mem_forms_shown h).mp (hall form d hd), rfl⟩
    obtain ⟨text, ht⟩ := h key hkey
    have hform : formOf key = .ok (lowercase text) := formOf_eq_ok_iff.mpr ⟨text, ht, rfl⟩
    obtain ⟨d, hd⟩ := Option.isSome_iff_exists.mp
      (hsome _ ((mem_forms_shown h).mpr ⟨key, hkey, hform⟩))
    exact ⟨lowercase text, d, hform, hd⟩
  · rintro ⟨hsome, hn, hall, rfl⟩
    have h : ∀ key ∈ keys, ∃ text, key.toText = .ok text := by
      intro key hkey
      obtain ⟨form, d, hform, -⟩ := hsome key hkey
      obtain ⟨text, ht, -⟩ := formOf_eq_ok_iff.mp hform
      exact ⟨text, ht⟩
    rw [hiff h, nodup_forms_shown h, hpairs]
    refine ⟨⟨hn, fun form hform => ?_, fun form d hd => (mem_forms_shown h).mpr (hall form d hd)⟩,
      rfl⟩
    obtain ⟨key, hkey, hf⟩ := (mem_forms_shown h).mp hform
    obtain ⟨form', d, hf', hd⟩ := hsome key hkey
    obtain rfl := Except.ok.inj (hf.symm.trans hf')
    rw [hd]
    rfl

end PropertyKeys

namespace EntityType

open PropertyKeys

variable {type : EntityType} {entries : List (Value × Value)}

/-- Entries as those of a mapping: a key is the same as itself, and neither the same as nor equal to
any other. -/
structure Keyed (entries : List (Value × Value)) : Prop where
  self : ∀ e ∈ entries, e.1.sameKey e.1 = true
  apart : entries.Pairwise fun e f => e.1.sameKey f.1 = false ∧ e.1.alike f.1 = false

theorem Keyed.find?_eq (h : Keyed entries) {e : Value × Value} (he : e ∈ entries) :
    entries.find? (·.1.sameKey e.1) = some e := by
  obtain ⟨hself, hapart⟩ := h
  induction entries with
  | nil => exact absurd he List.not_mem_nil
  | cons x entries ih =>
    rw [List.forall_mem_cons] at hself
    rw [List.pairwise_cons] at hapart
    rcases List.mem_cons.mp he with rfl | he
    · rw [List.find?_cons, hself.1]
    · rw [List.find?_cons, (hapart.1 e he).1]
      exact ih he hself.2 hapart.2

theorem keyed_textEntries (values : NameTable Value) : Keyed (textEntries values) where
  self e he := by
    obtain ⟨x, -, rfl⟩ := List.mem_map.mp he
    rw [sameKey_text, beq_self_eq_true]
  apart := by
    refine List.pairwise_map.mpr ((List.pairwise_map.mp values.names_nodup).imp ?_)
    rintro ⟨key, v⟩ ⟨key', v'⟩ hne
    refine ⟨by rw [sameKey_text, beq_eq_false_iff_ne.mpr hne], Bool.eq_false_iff.mpr fun h => ?_⟩
    cases (Value.alike_atom_iff rfl).mp h with
    | text => exact hne rfl

/-- Entries with one key for each declared form and a value that passes under it. -/
structure Accepts (type : EntityType) (entries : List (Value × Value)) : Prop where
  passes : ∀ e ∈ entries, ∃ form d p, formOf e.1 = .ok form ∧
    (declared type.properties.names).get? form = some d ∧ type.properties.get? d = some p ∧
      p.check e.2 = .ok ()
  apart : (entries.map fun e => formOf e.1).Nodup
  all : ∀ form d, (declared type.properties.names).get? form = some d →
    ∃ e ∈ entries, formOf e.1 = .ok form

theorem check_eq_ok_iff (hk : Keyed entries) :
    type.check entries = .ok () ↔ type.Accepts entries := by
  have hapart : (entries.map Prod.fst).Pairwise fun key other => key.sameKey other = false :=
    List.pairwise_map.mpr (hk.apart.imp fun h => h.1)
  have hforms : (entries.map Prod.fst).map formOf = entries.map fun e => formOf e.1 := List.map_map
  unfold check
  simp only [Check.bind_eq_ok_iff, pairing_eq_ok_iff_forms hapart, checkPairs_eq_ok_iff, hforms,
    List.mem_map, forall_exists_index, and_imp, forall_apply_eq_imp_iff₂, exists_exists_and_eq_and]
  constructor
  · rintro ⟨_, ⟨hsome, hn, hall, rfl⟩, hc⟩
    refine ⟨fun e he => ?_, hn, hall⟩
    obtain ⟨form, d, hf, hd⟩ := hsome e he
    obtain ⟨p, hp⟩ := NameTable.mem_names_iff.mp (mem_of_enforced (get?_declared.mp hd).1)
    refine ⟨form, d, p, hf, hd, hp, ?_⟩
    refine hc _ (List.mem_map_of_mem (List.mem_map_of_mem he)) p ?_ e (hk.find?_eq he)
    rwa [standsFor_eq hf hd]
  · rintro ⟨hpasses, hn, hall⟩
    refine ⟨_, ⟨fun e he => ?_, hn, hall, rfl⟩, fun pair hpair p hp x hx => ?_⟩
    · obtain ⟨form, d, p, hf, hd, -⟩ := hpasses e he
      exact ⟨form, d, hf, hd⟩
    · obtain ⟨key, hkey, rfl⟩ := List.mem_map.mp hpair
      obtain ⟨e, he, rfl⟩ := List.mem_map.mp hkey
      obtain rfl := Option.some.inj ((hk.find?_eq he).symm.trans hx)
      obtain ⟨form, d, p', hf, hd, hp', hcheck⟩ := hpasses e he
      rw [standsFor_eq hf hd, hp'] at hp
      obtain rfl := Option.some.inj hp
      exact hcheck

end EntityType

end GraphTemplate
