import GraphTemplate.Proofs.Datum
import GraphTemplate.Template

/-! What a check of an entity can fail with. A fault comes from a value that cannot be converted or
told: one beyond a limit of its kind, by itself, as an element, or as a key or a value of a map. -/
namespace GraphTemplate

namespace Value

variable {v u : Value} {f : Fault}

def parts (v : Value) : List Value :=
  v :: (v.elements?.getD [] ++ (v.entries?.getD []).flatMap fun e => [e.1, e.2])

def Exceeds (v : Value) (f : Fault) : Prop := ∃ u ∈ v.parts, u.Beyond f

theorem Beyond.exceeds (h : v.Beyond f) : v.Exceeds f := ⟨v, List.mem_cons_self, h⟩

theorem exceeds_of_element {items : List Value} (hv : v.elements? = some items) (hu : u ∈ items)
    (h : u.Beyond f) : v.Exceeds f := by
  refine ⟨u, List.mem_cons_of_mem v (List.mem_append_left _ ?_), h⟩
  rwa [hv]

theorem exceeds_of_entry {entries : List (Value × Value)} {e : Value × Value}
    (hv : v.entries? = some entries) (he : e ∈ entries) (h : e.1.Beyond f ∨ e.2.Beyond f) :
    v.Exceeds f := by
  have hmem (u : Value) (hu : u ∈ [e.1, e.2]) : u ∈ v.parts := by
    refine List.mem_cons_of_mem v (List.mem_append_right _ ?_)
    rw [hv]
    exact List.mem_flatMap.mpr ⟨e, he, hu⟩
  rcases h with h | h
  · exact ⟨e.1, hmem _ List.mem_cons_self, h⟩
  · exact ⟨e.2, hmem _ (List.mem_cons_of_mem _ List.mem_cons_self), h⟩

end Value

def EntriesExceed (entries : List (Value × Value)) (f : Fault) : Prop :=
  ∃ e ∈ entries, e.1.Exceeds f ∨ e.2.Exceeds f

def Entity.Exceeds (e : Entity) : Fault → Prop := EntriesExceed e.properties

namespace Check

variable {α β : Type} {p q : Fault → Prop}

def Fails (p : Fault → Prop) (c : Check α) : Prop := ∀ f, c = .error (.fault f) → p f

theorem fails_ok (a : α) : Fails p (.ok a) := fun _ h => nomatch h

theorem fails_violated (cause : Violation.Cause) : Fails p (violated cause : Check α) :=
  fun _ h => nomatch h

theorem fails_lift {r : Except Fault α} (h : ∀ f, r = .error f → p f) : Fails p (lift r) := by
  intro f hf
  cases r with
  | ok a => exact nomatch hf
  | error f' =>
    obtain rfl := Failure.fault.inj (Except.error.inj hf)
    exact h f' rfl

theorem Fails.mono {c : Check α} (h : Fails p c) (hpq : ∀ f, p f → q f) : Fails q c :=
  fun f hf => hpq f (h f hf)

theorem Fails.bind {c : Check α} {k : α → Check β} (h : Fails p c) (hk : ∀ a, Fails p (k a)) :
    Fails p (c >>= k) := by
  intro f hf
  cases c with
  | error e => exact h f (congrArg Except.error (Except.error.inj hf))
  | ok a => exact hk a f hf

theorem Fails.within {context : String} {c : Check α} (h : Fails p c) :
    Fails p (within context c) := by
  intro f hf
  unfold Check.within at hf
  split at hf
  · exact nomatch hf
  · exact h f hf

end Check

namespace Property

open Check

variable {p : Property} {v : Value} {f : Fault}

theorem beyond_of_accepts {r : Restriction} (h : r.accepts v = .error f) : v.Beyond f := by
  unfold Restriction.accepts at h
  cases hd : Datum.ofValue? r.scalar v with
  | error f' =>
    rw [hd] at h
    obtain rfl := Except.error.inj h
    exact Datum.beyond_of_ofValue? hd
  | ok d =>
    rw [hd] at h
    cases d with
    | none => exact nomatch h
    | some d =>
      have hr := (Datum.ofValue?_eq_some_iff.mp hd).2
      simp only [bind, Except.bind, pure, Except.pure] at h
      split at h
      · cases ht : d.canonicalText with
        | ok t =>
          rw [ht] at h
          exact nomatch h
        | error f' =>
          rw [ht] at h
          obtain rfl := Except.error.inj h
          exact hr.beyond_of_canonicalText ht
      · exact hr.beyond_of_meets h

theorem beyond_of_anyAccepts {rs : List Restriction} (h : anyAccepts v rs = .error f) :
    v.Beyond f := by
  induction rs with
  | nil => exact nomatch h
  | cons r rs ih =>
    unfold anyAccepts at h
    cases ha : r.accepts v with
    | error f' =>
      rw [ha] at h
      obtain rfl := Except.error.inj h
      exact beyond_of_accepts ha
    | ok accepted =>
      rw [ha] at h
      cases accepted with
      | true => exact nomatch h
      | false => exact ih h

theorem beyond_of_shown {s : Scalar} (h : shown s v = .error f) : v.Beyond f := by
  unfold shown at h
  cases hd : Datum.ofValue? s v with
  | error f' =>
    rw [hd] at h
    obtain rfl := Except.error.inj h
    exact Datum.beyond_of_ofValue? hd
  | ok d =>
    rw [hd] at h
    cases d with
    | none => exact Value.beyond_of_toText h
    | some d => exact (Datum.ofValue?_eq_some_iff.mp hd).2.beyond_of_canonicalText h

theorem fails_wrongType {α : Type} (v : Value) : Fails v.Beyond (p.wrongType v : Check α) :=
  (fails_lift fun _ => Value.beyond_of_toText).bind fun _ => fails_violated _

theorem fails_hasType (s : Scalar) (v : Value) : Fails v.Beyond (hasType s v) :=
  (fails_lift fun _ => Datum.beyond_of_ofValue?).bind fun _ => fails_ok _

theorem fails_checkRestrictions (s : Scalar) (rs : List Restriction) (what : String) (v : Value) :
    Fails v.Beyond (p.checkRestrictions s rs what v) := by
  unfold checkRestrictions
  split
  · exact fails_ok ()
  · refine (fails_lift fun _ => beyond_of_anyAccepts).bind fun accepted => ?_
    cases accepted with
    | true => exact fails_ok ()
    | false => exact (fails_lift fun _ => beyond_of_shown).bind fun _ => fails_violated _

theorem fails_checkItems (s : Scalar) (vs : List Value) :
    Fails (fun f => ∃ v ∈ vs, v.Beyond f) (p.checkItems s vs) := by
  induction vs with
  | nil => exact fails_ok ()
  | cons v vs ih =>
    have hv := (fails_checkRestrictions (p := p) s p.values "array-value" v).mono
      fun f hf => (⟨v, List.mem_cons_self, hf⟩ : ∃ u ∈ v :: vs, u.Beyond f)
    refine hv.bind fun _ => ih.mono fun f hf => ?_
    obtain ⟨u, hu, hf⟩ := hf
    exact ⟨u, List.mem_cons_of_mem v hu, hf⟩

theorem fails_checkEntries (key value : Scalar) (es : List (Value × Value)) :
    Fails (fun f => ∃ e ∈ es, e.1.Beyond f ∨ e.2.Beyond f) (p.checkEntries key value es) := by
  induction es with
  | nil => exact fails_ok ()
  | cons e es ih =>
    have hkey (f : Fault) (hf : e.1.Beyond f) : ∃ x ∈ e :: es, x.1.Beyond f ∨ x.2.Beyond f :=
      ⟨e, List.mem_cons_self, .inl hf⟩
    have hvalue (f : Fault) (hf : e.2.Beyond f) : ∃ x ∈ e :: es, x.1.Beyond f ∨ x.2.Beyond f :=
      ⟨e, List.mem_cons_self, .inr hf⟩
    refine (fails_lift fun f hf => hkey f (Value.beyond_of_toText hf)).bind fun _ => ?_
    refine ((fails_checkRestrictions _ _ _ e.2).mono hvalue).bind fun _ => ?_
    refine ((fails_checkRestrictions _ _ _ e.1).mono hkey).bind fun _ => ?_
    refine ih.mono fun f hf => ?_
    obtain ⟨x, hx, hf⟩ := hf
    exact ⟨x, List.mem_cons_of_mem e hx, hf⟩

/-- A check that goes on if a value has a type, and else tells of a wrong one. -/
theorem fails_typed {P : Fault → Prop} {c : Check Unit} {s : Scalar} {u w : Value}
    (hu : ∀ f, u.Beyond f → P f) (hw : ∀ f, w.Beyond f → P f) (h : Fails P c) :
    Fails P (hasType s u >>= fun typed =>
      if typed = true then c else p.wrongType w >>= fun _ : Unit => c) := by
  refine ((fails_hasType s u).mono hu).bind fun typed => ?_
  cases typed with
  | true => exact h
  | false => exact ((fails_wrongType w).mono hw).bind fun _ => h

theorem fails_check (p : Property) (v : Value) : Fails v.Exceeds (p.check v) := by
  have hv (f : Fault) (h : v.Beyond f) : v.Exceeds f := h.exceeds
  unfold check
  split
  · exact fails_violated _
  · refine ((fails_hasType _ v).mono hv).bind fun typed => ?_
    cases typed with
    | true => exact (fails_checkRestrictions _ _ _ v).mono hv
    | false => exact (fails_wrongType v).mono hv
  · next item hd =>
    unfold checkArray
    cases hi : v.elements? with
    | none => exact (fails_wrongType v).mono hv
    | some items =>
      have hitem (u : Value) (hu : u ∈ items) (f : Fault) (h : u.Beyond f) : v.Exceeds f :=
        Value.exceeds_of_element hi hu h
      have hitems := (fails_checkItems (p := p) item items).mono
        fun f ⟨u, hu, h⟩ => hitem u hu f h
      cases items with
      | nil => exact hitems
      | cons first items => exact fails_typed (hitem first List.mem_cons_self) hv hitems
  · next key value hd =>
    unfold checkMap
    cases he : v.entries? with
    | none => exact (fails_wrongType v).mono hv
    | some entries =>
      have hentries := (fails_checkEntries (p := p) key value entries).mono
        fun f ⟨e, hm, h⟩ => Value.exceeds_of_entry he hm h
      cases entries with
      | nil => exact hentries
      | cons e es =>
        have hfirst (f : Fault) (h : e.1.Beyond f ∨ e.2.Beyond f) : v.Exceeds f :=
          Value.exceeds_of_entry he List.mem_cons_self h
        exact fails_typed (fun f h => hfirst f (.inl h)) hv
          (fails_typed (fun f h => hfirst f (.inr h)) hv hentries)

end Property

theorem PropertyKeys.fails_pairing (names : List String) (keys : List Value) :
    Check.Fails (fun f => ∃ key ∈ keys, key.Beyond f) (pairing names keys) := by
  have hfold (s : State) (f : Fault) (h : keys.foldlM step s = .error f) :
      ∃ key ∈ keys, key.Beyond f := by
    induction keys generalizing s with
    | nil => exact nomatch h
    | cons key keys ih =>
      rw [List.foldlM_cons] at h
      cases ht : key.toText with
      | error f' =>
        have hs : step s key = .error f' := by rw [step, ht]; rfl
        rw [hs] at h
        obtain rfl := Except.error.inj h
        exact ⟨key, List.mem_cons_self, Value.beyond_of_toText ht⟩
      | ok shown =>
        obtain ⟨s', hs⟩ : ∃ s', step s key = .ok s' := by
          unfold step
          rw [ht]
          dsimp only [bind, Except.bind]
          split <;> exact ⟨_, rfl⟩
        rw [hs] at h
        obtain ⟨key', hk, hb⟩ := ih s' h
        exact ⟨key', List.mem_cons_of_mem key hk, hb⟩
  refine (Check.fails_lift (hfold _)).bind fun s => ?_
  dsimp only
  split
  · exact Check.fails_ok _
  · exact Check.fails_violated _

namespace EntityType

open Check

theorem fails_checkPairs (type : EntityType) (entries : List (Value × Value))
    (pairs : List (Value × String)) :
    Fails (EntriesExceed entries) (type.checkPairs entries pairs) := by
  induction pairs with
  | nil => exact fails_ok ()
  | cons e pairs ih =>
    unfold checkPairs
    cases type.properties.get? e.2 with
    | none => exact ih
    | some p =>
      cases hx : entries.find? (·.1.sameKey e.1) with
      | none => exact ih
      | some x =>
        have hp := (p.fails_check x.2).mono
          fun f hf => (⟨x, List.mem_of_find?_eq_some hx, .inr hf⟩ : EntriesExceed entries f)
        exact hp.bind fun _ => ih

theorem fails_check (type : EntityType) (entries : List (Value × Value)) :
    Fails (EntriesExceed entries) (type.check entries) := by
  have hpairing := PropertyKeys.fails_pairing type.properties.names (entries.map Prod.fst)
  refine (hpairing.mono fun f hf => ?_).bind fun pairs => type.fails_checkPairs entries pairs
  obtain ⟨key, hk, hf⟩ := hf
  obtain ⟨e, he, rfl⟩ := List.mem_map.mp hk
  exact ⟨e, he, .inl hf.exceeds⟩

end EntityType

end GraphTemplate
