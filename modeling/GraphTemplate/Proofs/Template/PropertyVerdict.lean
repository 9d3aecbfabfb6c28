import GraphTemplate.Proofs.Template.Acceptance
import GraphTemplate.Proofs.Template.WellFormed

/-! The verdict on a value of a declared property. A value is admitted if it has the form and the
type that are declared and matches the restrictions; if not, the verdict tells that it has the wrong
type, or else of the first part of it that matches no restriction. -/
namespace GraphTemplate

namespace Datum

variable {d wanted : Datum}

/-- Equal data: floating-point numbers that are one number, moments that are one instant, and other
data that are the same. -/
inductive Equals : Datum → Datum → Prop where
  | int (n : Int) : Equals (.int n) (.int n)
  | float {x y : Binary64} (h : x.same y = true) : Equals (.float x) (.float y)
  | string (s : String) : Equals (.string s) (.string s)
  | bool (b : Bool) : Equals (.bool b) (.bool b)
  | datetime {m n : Moment} (h : m.instant = n.instant) : Equals (.datetime m) (.datetime n)

def Universal (d : Datum) : Prop := ∀ m, d = .datetime m → m.offset = some Offset.zero

theorem universal_of_readDatum {s : Scalar} {raw : String}
    (h : Restriction.readDatum s raw = .ok d) : d.Universal := by
  rintro m rfl
  obtain ⟨⟨⟩, -⟩ := Restriction.readDatum_eq_ok_iff.mp h
  next hshape hm => exact Moment.offset_of_ofZulu hm

theorem same_toUniversal_iff {m wanted : Moment} (hw : wanted.offset = some Offset.zero) :
    (toUniversal m).map (·.same wanted) = .ok true ↔ m.instant = wanted.instant := by
  unfold toUniversal
  cases hu : m.toUniversal? with
  | none =>
    -- The instant is out of the calendar, and that of the wanted moment is its local time.
    have hm : ¬Moment.InCalendar m.instant := Moment.toUniversal?_eq_none_iff.mp hu
    have hlocal : wanted.instant = wanted.localMicros := by
      rw [Moment.instant, hw]
      exact Int.sub_zero _
    constructor
    · intro h
      cases h
    · intro h
      apply absurd _ hm
      rw [h, hlocal]
      exact Moment.inCalendar_localMicros wanted
  | some u =>
    show Except.ok (u.same wanted) = .ok true ↔ _
    rw [Except.ok.injEq, Moment.same_iff, Moment.toUniversal?_offset hu, hw,
      Moment.instant_of_toUniversal? hu]
    exact and_iff_right rfl

theorem meets_eq_true_iff (hw : wanted.Universal) :
    d.meets wanted = .ok true ↔ d.Equals wanted := by
  constructor
  · intro h
    cases d <;> cases wanted <;> simp only [meets, Except.ok.injEq, beq_iff_eq] at h
    case int.int => exact h ▸ .int _
    case float.float => exact .float h
    case string.string => exact h ▸ .string _
    case bool.bool => exact h ▸ .bool _
    case datetime.datetime => exact .datetime ((same_toUniversal_iff (hw _ rfl)).mp h)
    all_goals exact nomatch h
  · intro h
    cases h with
    | float h => exact congrArg Except.ok h
    | datetime h => exact (same_toUniversal_iff (hw _ rfl)).mpr h
    | _ => exact congrArg Except.ok (beq_self_eq_true _)

end Datum

namespace Restriction

variable {r : Restriction} {v : Value}

/-- A value of the restricted type that equals the one that is wanted, or whose canonical text the
pattern occurs in. -/
inductive Matches (r : Restriction) (v : Value) : Prop where
  | equal {d wanted : Datum} (hv : Datum.ofValue? r.scalar v = .ok (some d))
      (hr : r.demand = .equals wanted) (h : d.Equals wanted)
  | found {d : Datum} {pattern : Pattern} {text : String}
      (hv : Datum.ofValue? r.scalar v = .ok (some d)) (hr : r.demand = .matching pattern)
      (ht : d.canonicalText = .ok text) (h : pattern.occursIn text = true)

theorem Matches.typed (h : r.Matches v) : v.Typed r.scalar := by
  cases h with
  | equal hv => exact ⟨_, hv⟩
  | found hv => exact ⟨_, hv⟩

/-- A restriction to values of a type; a moment that it wants is one of universal time. -/
structure Aims (s : Scalar) (r : Restriction) : Prop where
  scalar : r.scalar = s
  universal : ∀ wanted, r.demand = .equals wanted → wanted.Universal

theorem universal_of_build {d : Descriptor} {kind : RestrictionKind} {raw : String}
    (h : build d kind raw = .ok r) {wanted : Datum} (hr : r.demand = .equals wanted) :
    wanted.Universal := by
  obtain ⟨scalar, -, ⟨-, p, rfl⟩ | ⟨-, datum, hd, rfl⟩⟩ := cases_of_build h
  · exact nomatch hr
  · obtain rfl := Demand.equals.inj hr
    exact Datum.universal_of_readDatum hd

theorem accepts_eq_true_iff {s : Scalar} (hr : r.Aims s) :
    r.accepts v = .ok true ↔ r.Matches v := by
  constructor
  · intro h
    obtain ⟨d, hd⟩ := Property.typed_of_accepts h
    simp only [accepts, hd, bind, Except.bind] at h
    cases hdem : r.demand with
    | equals wanted =>
      rw [hdem] at h
      exact .equal hd hdem ((Datum.meets_eq_true_iff (hr.universal _ hdem)).mp h)
    | matching pattern =>
      rw [hdem] at h
      cases ht : d.canonicalText with
      | error f =>
        rw [ht] at h
        exact nomatch h
      | ok text =>
        rw [ht] at h
        exact .found hd hdem ht (Except.ok.inj h)
  · intro h
    cases h with
    | equal hv hdem h =>
      have hm := (Datum.meets_eq_true_iff (hr.universal _ hdem)).mpr h
      simpa [accepts, hv, hdem, bind, Except.bind] using hm
    | found hv hdem ht h =>
      simp [accepts, hv, hdem, ht, h, bind, Except.bind, pure, Except.pure]

end Restriction

namespace Property

open Check

variable {p : Property} {s : Scalar} {rs : List Restriction} {u v w : Value} {x : Violation}

def Suits (rs : List Restriction) (v : Value) : Prop := rs = [] ∨ ∃ r ∈ rs, r.Matches v

theorem Passes.suits (hrs : ∀ r ∈ rs, r.Aims s) (h : Passes rs v) : Suits rs v := by
  rcases h with h | h
  · exact .inl h
  · obtain ⟨r, hr, ha⟩ := anyAccepts_eq_true h
    exact .inr ⟨r, hr, (Restriction.accepts_eq_true_iff (hrs r hr)).mp ha⟩

structure Refuses (p : Property) (s : Scalar) (rs : List Restriction) (what : String) (part : Value)
    (cause : Violation.Cause) : Prop where
  unsuited : ¬Suits rs part
  told : ∃ text, shown s part = .ok text ∧ cause = .rejected p.key text what (rs.map (·.raw))

theorem refuses_of_checkRestrictions {what : String} (hrs : ∀ r ∈ rs, r.Aims s)
    (h : p.checkRestrictions s rs what v = .error (.violation x)) :
    ∃ cause, p.Refuses s rs what v cause ∧ x = ⟨cause, []⟩ := by
  unfold checkRestrictions at h
  split at h
  · exact nomatch h
  · next hne =>
    obtain ⟨accepted, ha, h⟩ := lift_bind_eq_violation h
    cases accepted with
    | true => exact nomatch h
    | false =>
      obtain ⟨text, ht, h⟩ := lift_bind_eq_violation h
      obtain rfl := Failure.violation.inj (Except.error.inj h)
      refine ⟨_, ⟨?_, text, ht, rfl⟩, rfl⟩
      rintro (rfl | ⟨r, hr, hm⟩)
      · exact hne rfl
      · have hacc := (Restriction.accepts_eq_true_iff (hrs r hr)).mpr hm
        exact nomatch hacc.symm.trans (anyAccepts_eq_false ha r hr)

theorem suits_of_checkRestrictions {what : String} (hrs : ∀ r ∈ rs, r.Aims s)
    (h : p.checkRestrictions s rs what v = .ok ()) : Suits rs v :=
  (checkRestrictions_eq_ok_iff.mp h).suits hrs

theorem EntryPasses.suits {key value : Scalar} {e : Value × Value}
    (hvalues : ∀ r ∈ p.values, r.Aims value) (hkeys : ∀ r ∈ p.keys, r.Aims key)
    (h : p.EntryPasses e) : Suits p.values e.2 ∧ Suits p.keys e.1 :=
  ⟨h.2.1.suits hvalues, h.2.2.suits hkeys⟩

/-- The form and the type of a value: that of a scalar, or that of a container with a first element
or entry of the declared types if there is any. -/
def Shaped (p : Property) (v : Value) : Prop :=
  match p.descriptor with
  | .undefined => False
  | .scalar s => v.Typed s
  | .array item => ∃ items, v.elements? = some items ∧ ∀ first ∈ items.head?, first.Typed item
  | .map key value => ∃ entries, v.entries? = some entries ∧
      ∀ first ∈ entries.head?, first.1.Typed key ∧ first.2.Typed value

/-- If there are restrictions, every part has their type and matches one of them. -/
def AllMatch (s : Scalar) (rs : List Restriction) (parts : List Value) : Prop :=
  rs ≠ [] → ∀ u ∈ parts, u.Typed s ∧ ∃ r ∈ rs, r.Matches u

def Admits (p : Property) (v : Value) : Prop :=
  match p.descriptor with
  | .undefined => False
  | .scalar s => v.Typed s ∧ Suits p.values v
  | .array item => ∃ items, v.elements? = some items ∧
      (∀ first ∈ items.head?, first.Typed item) ∧ AllMatch item p.values items
  | .map key value => ∃ entries, v.entries? = some entries ∧
      (∀ first ∈ entries.head?, first.1.Typed key ∧ first.2.Typed value) ∧
      AllMatch value p.values (entries.map Prod.snd) ∧ AllMatch key p.keys (entries.map Prod.fst)

/-- The first part of a value that matches no restriction: elements in their order, and entries in
theirs, the value of an entry before its key. -/
inductive Rejects (p : Property) (v : Value) (cause : Violation.Cause) : Prop where
  | scalar {s : Scalar} (hd : p.descriptor = .scalar s) (h : p.Refuses s p.values "value" v cause)
  | element {item : Scalar} {before after : List Value} {u : Value}
      (hd : p.descriptor = .array item) (hv : v.elements? = some (before ++ u :: after))
      (hbefore : ∀ w ∈ before, Suits p.values w)
      (h : p.Refuses item p.values "array-value" u cause)
  | mapValue {key value : Scalar} {before after : List (Value × Value)} {k u : Value}
      {shownKey : String} (hd : p.descriptor = .map key value)
      (hv : v.entries? = some (before ++ (k, u) :: after))
      (hbefore : ∀ e ∈ before, Suits p.values e.2 ∧ Suits p.keys e.1)
      (hk : k.toText = .ok shownKey)
      (h : p.Refuses value p.values ("map-value under \"" ++ shownKey ++ "\" key") u cause)
  | mapKey {key value : Scalar} {before after : List (Value × Value)} {k u : Value}
      (hd : p.descriptor = .map key value) (hv : v.entries? = some (before ++ (k, u) :: after))
      (hbefore : ∀ e ∈ before, Suits p.values e.2 ∧ Suits p.keys e.1)
      (hu : Suits p.values u) (h : p.Refuses key p.keys "map-key" k cause)

theorem allMatch_iff {parts : List Value} (hrs : ∀ r ∈ rs, r.Aims s) :
    AllMatch s rs parts ↔ ∀ u ∈ parts, Suits rs u := by
  constructor
  · intro h u hu
    by_cases hne : rs = []
    · exact .inl hne
    · exact .inr (h hne u hu).2
  · intro h hne u hu
    obtain ⟨r, hr, hm⟩ := (h u hu).resolve_left hne
    exact ⟨(hrs r hr).scalar ▸ hm.typed, r, hr, hm⟩

structure Aimed (p : Property) : Prop where
  declared : p.descriptor ≠ .undefined
  values : ∀ s, p.descriptor.valueType? = some s → ∀ r ∈ p.values, r.Aims s
  keys : ∀ s, p.descriptor.keyType? = some s → ∀ r ∈ p.keys, r.Aims s

theorem aimed_of_yields {entry : PropertyEntry} {key : String} (h : entry.Yields key p) :
    p.Aimed where
  declared := Descriptor.ne_undefined_of_read h.descriptor
  values s hs r hr := by
    obtain ⟨x, hx, hb⟩ := h.values.exists_of_mem hr
    have hkeys := (Restriction.onKeys_of_build hb).trans (RestrictionTexts.isKey_of_mem_onValues hx)
    have hscalar := (Restriction.valueType?_of_build hb hkeys).symm.trans hs
    exact ⟨Option.some.inj hscalar, fun _ => Restriction.universal_of_build hb⟩
  keys s hs r hr := by
    obtain ⟨x, hx, hb⟩ := h.keys.exists_of_mem hr
    have hkeys := (Restriction.onKeys_of_build hb).trans (RestrictionTexts.isKey_of_mem_onKeys hx)
    obtain ⟨value, hd⟩ := Restriction.descriptor_of_build hb hkeys
    rw [hd] at hs
    exact ⟨Option.some.inj hs, fun _ => Restriction.universal_of_build hb⟩

theorem Admits.shaped (h : p.Admits v) : p.Shaped v := by
  unfold Admits at h
  unfold Shaped
  split at h
  · exact h
  · exact h.1
  · obtain ⟨items, hv, hfirst, -⟩ := h
    exact ⟨items, hv, hfirst⟩
  · obtain ⟨entries, hv, hfirst, -⟩ := h
    exact ⟨entries, hv, hfirst⟩

theorem Rejects.not_admits {cause : Violation.Cause} (hp : p.Aimed) (h : p.Rejects v cause) :
    ¬p.Admits v := by
  have hvalues := hp.values
  have hkeys := hp.keys
  unfold Admits
  cases h with
  | scalar hd h =>
    rw [hd]
    exact fun ha => h.unsuited ha.2
  | @element item before after u hd hv hbefore h =>
    rw [hd] at hvalues ⊢
    rintro ⟨items, hitems, -, hall⟩
    obtain rfl := Option.some.inj (hv.symm.trans hitems)
    exact h.unsuited ((allMatch_iff (hvalues _ rfl)).mp hall u (by simp))
  | @mapValue key value before after k u shownKey hd hv hbefore hk h =>
    rw [hd] at hvalues ⊢
    rintro ⟨entries, hentries, -, hall, -⟩
    obtain rfl := Option.some.inj (hv.symm.trans hentries)
    exact h.unsuited ((allMatch_iff (hvalues _ rfl)).mp hall u (by simp))
  | @mapKey key value before after k u hd hv hbefore hu h =>
    rw [hd] at hkeys ⊢
    rintro ⟨entries, hentries, -, -, hall⟩
    obtain rfl := Option.some.inj (hv.symm.trans hentries)
    exact h.unsuited ((allMatch_iff (hkeys _ rfl)).mp hall k (by simp))

theorem Rejects.eq_rejected {cause : Violation.Cause} (h : p.Rejects v cause) :
    ∃ shown what raws, cause = .rejected p.key shown what raws := by
  cases h with
  | scalar _ h | element _ _ _ h | mapValue _ _ _ _ h | mapKey _ _ _ _ h =>
    obtain ⟨-, text, -, hcause⟩ := h
    exact ⟨text, _, _, hcause⟩

theorem admits_of_check (hp : p.Aimed) (h : p.check v = .ok ()) : p.Admits v := by
  have hvalues := hp.values
  have hkeys := hp.keys
  unfold check at h
  unfold Admits
  cases hd : p.descriptor with
  | undefined => exact absurd hd hp.declared
  | scalar s =>
    rw [hd] at h hvalues
    obtain ⟨ht, hpass⟩ := checkScalar_eq_ok_iff.mp h
    exact ⟨ht, hpass.suits (hvalues s rfl)⟩
  | array item =>
    rw [hd] at h hvalues
    obtain ⟨items, hv, hfirst, hall⟩ := checkArray_eq_ok_iff.mp h
    refine ⟨items, hv, hfirst, (allMatch_iff (hvalues item rfl)).mpr fun u hu => ?_⟩
    exact (hall u hu).suits (hvalues item rfl)
  | map key value =>
    rw [hd] at h hvalues hkeys
    obtain ⟨entries, hv, hfirst, hall⟩ := checkMap_eq_ok_iff.mp h
    refine ⟨entries, hv, hfirst, ?_, ?_⟩
    · apply (allMatch_iff (hvalues value rfl)).mpr
      rw [List.forall_mem_map]
      exact fun e he => (hall e he).2.1.suits (hvalues value rfl)
    · apply (allMatch_iff (hkeys key rfl)).mpr
      rw [List.forall_mem_map]
      exact fun e he => (hall e he).2.2.suits (hkeys key rfl)

theorem hasType_bind_eq_violation {k : Bool → Check Unit}
    (h : (hasType s v >>= k) = .error (.violation x)) :
    v.Typed s ∧ k true = .error (.violation x) ∨ ¬v.Typed s ∧ k false = .error (.violation x) := by
  rw [hasType, bind_assoc] at h
  obtain ⟨d, hd, h⟩ := lift_bind_eq_violation h
  cases d with
  | some d => exact .inl ⟨⟨d, hd⟩, h⟩
  | none =>
    refine .inr ⟨?_, h⟩
    rintro ⟨d, hd'⟩
    rw [hd] at hd'
    cases hd'

/-- A check that goes on only if a value has a type ends with what it goes on to, or at once. -/
theorem typed_seq_eq_violation {c : Check Unit}
    (h : (hasType s u >>= fun typed =>
      if typed = true then c else p.wrongType v >>= fun _ : Unit => c) = .error (.violation x)) :
    u.Typed s ∧ c = .error (.violation x) ∨
      ¬u.Typed s ∧ (p.wrongType v : Check Unit) = .error (.violation x) := by
  rcases hasType_bind_eq_violation h with ⟨ht, h⟩ | ⟨ht, h⟩
  · exact .inl ⟨ht, h⟩
  · rcases seq_eq_error_iff.mp h with h | ⟨h, -⟩
    · exact .inr ⟨ht, h⟩
    · exact absurd h (wrongType_ne_ok v ())

inductive Ends (p : Property) (v : Value) (x : Violation) : Prop where
  | mistyped {text : String} (hv : ¬p.Shaped v) (ht : v.toText = .ok text)
      (hx : x = ⟨.wrongType p.key text p.descriptor.text, []⟩)
  | rejected {cause : Violation.Cause} (hv : p.Shaped v) (h : p.Rejects v cause)
      (hx : x = ⟨cause, []⟩)

theorem ends_of_wrongType {α : Type} (hv : ¬p.Shaped v)
    (h : (p.wrongType v : Check α) = .error (.violation x)) : p.Ends v x := by
  obtain ⟨text, ht, h⟩ := lift_bind_eq_violation h
  exact .mistyped hv ht (Failure.violation.inj (Except.error.inj h)).symm

theorem ends_of_checkScalar (hp : p.Aimed) (hd : p.descriptor = .scalar s)
    (h : p.checkScalar s v = .error (.violation x)) : p.Ends v x := by
  have hshaped : p.Shaped v ↔ v.Typed s := by rw [Shaped, hd]
  have hvalues := hp.values s (by rw [hd]; rfl)
  rcases hasType_bind_eq_violation h with ⟨ht, h⟩ | ⟨ht, h⟩
  · obtain ⟨cause, hr, hx⟩ := refuses_of_checkRestrictions hvalues h
    exact .rejected (hshaped.mpr ht) (.scalar hd hr) hx
  · exact ends_of_wrongType (hshaped.not.mpr ht) h

theorem ends_of_checkArray {item : Scalar} (hp : p.Aimed) (hd : p.descriptor = .array item)
    (h : p.checkArray item v = .error (.violation x)) : p.Ends v x := by
  have hvalues := hp.values item (by rw [hd]; rfl)
  have hshaped : p.Shaped v ↔
      ∃ items, v.elements? = some items ∧ ∀ first ∈ items.head?, first.Typed item := by
    rw [Shaped, hd]
  have hitems {items : List Value} (hv : v.elements? = some items)
      (hfirst : ∀ first ∈ items.head?, first.Typed item)
      (hc : p.checkItems item items = .error (.violation x)) : p.Ends v x := by
    rw [checkItems_eq_forM] at hc
    obtain ⟨before, u, after, rfl, hbefore, hu⟩ := exists_of_forM_eq_error hc
    obtain ⟨cause, hr, hx⟩ := refuses_of_checkRestrictions hvalues hu
    refine .rejected (hshaped.mpr ⟨_, hv, hfirst⟩) (.element hd hv (fun w hw => ?_) hr) hx
    exact suits_of_checkRestrictions hvalues (hbefore w hw)
  unfold checkArray at h
  cases hv : v.elements? with
  | none =>
    rw [hv] at h
    refine ends_of_wrongType (fun hs => ?_) h
    obtain ⟨items, hitems, -⟩ := hshaped.mp hs
    exact nomatch hv.symm.trans hitems
  | some items =>
    rw [hv] at h
    cases items with
    | nil => exact hitems hv (by simp) h
    | cons first items =>
      rcases typed_seq_eq_violation h with ⟨ht, h⟩ | ⟨ht, h⟩
      · exact hitems hv (by simpa using ht) h
      · refine ends_of_wrongType (fun hs => ht ?_) h
        obtain ⟨items', hitems', hfirst⟩ := hshaped.mp hs
        obtain rfl := Option.some.inj (hv.symm.trans hitems')
        exact hfirst first rfl

theorem ends_of_checkMap {key value : Scalar} (hp : p.Aimed) (hd : p.descriptor = .map key value)
    (h : p.checkMap key value v = .error (.violation x)) : p.Ends v x := by
  have hvalues := hp.values value (by rw [hd]; rfl)
  have hkeys := hp.keys key (by rw [hd]; rfl)
  have hshaped : p.Shaped v ↔ ∃ entries, v.entries? = some entries ∧
      ∀ first ∈ entries.head?, first.1.Typed key ∧ first.2.Typed value := by
    rw [Shaped, hd]
  have hentries {entries : List (Value × Value)} (hv : v.entries? = some entries)
      (hfirst : ∀ first ∈ entries.head?, first.1.Typed key ∧ first.2.Typed value)
      (hc : p.checkEntries key value entries = .error (.violation x)) : p.Ends v x := by
    rw [checkEntries_eq_forM] at hc
    obtain ⟨before, ⟨k, u⟩, after, rfl, hbefore, hentry⟩ := exists_of_forM_eq_error hc
    have hsuits e (he : e ∈ before) :=
      (checkEntry_eq_ok_iff.mp (hbefore e he)).suits hvalues hkeys
    have hs : p.Shaped v := hshaped.mpr ⟨_, hv, hfirst⟩
    obtain ⟨shownKey, hk, hentry⟩ := lift_bind_eq_violation hentry
    rcases seq_eq_error_iff.mp hentry with hu | ⟨hu, hkey⟩
    · obtain ⟨cause, hr, hx⟩ := refuses_of_checkRestrictions hvalues hu
      exact .rejected hs (.mapValue hd hv hsuits hk hr) hx
    · obtain ⟨cause, hr, hx⟩ := refuses_of_checkRestrictions hkeys hkey
      exact .rejected hs (.mapKey hd hv hsuits (suits_of_checkRestrictions hvalues hu) hr) hx
  unfold checkMap at h
  cases hv : v.entries? with
  | none =>
    rw [hv] at h
    refine ends_of_wrongType (fun hs => ?_) h
    obtain ⟨entries, hentries, -⟩ := hshaped.mp hs
    exact nomatch hv.symm.trans hentries
  | some entries =>
    rw [hv] at h
    cases entries with
    | nil => exact hentries hv (by simp) h
    | cons first entries =>
      have hfirst (hs : p.Shaped v) : first.1.Typed key ∧ first.2.Typed value := by
        obtain ⟨entries', hentries', hfirst⟩ := hshaped.mp hs
        obtain rfl := Option.some.inj (hv.symm.trans hentries')
        exact hfirst first rfl
      rcases typed_seq_eq_violation h with ⟨hk, h⟩ | ⟨hk, h⟩
      · rcases typed_seq_eq_violation h with ⟨hu, h⟩ | ⟨hu, h⟩
        · exact hentries hv (by simpa using ⟨hk, hu⟩) h
        · exact ends_of_wrongType (fun hs => hu (hfirst hs).2) h
      · exact ends_of_wrongType (fun hs => hk (hfirst hs).1) h

theorem ends_of_check (hp : p.Aimed) (h : p.check v = .error (.violation x)) : p.Ends v x := by
  unfold check at h
  cases hd : p.descriptor with
  | undefined => exact absurd hd hp.declared
  | scalar s =>
    rw [hd] at h
    exact ends_of_checkScalar hp hd h
  | array item =>
    rw [hd] at h
    exact ends_of_checkArray hp hd h
  | map key value =>
    rw [hd] at h
    exact ends_of_checkMap hp hd h

/-- The verdict on a value of a property whose declaration is accepted, unless the value is beyond
a limit: it is admitted, or has the wrong type, or a part of it is the first that is rejected. -/
theorem check_verdict {entry : PropertyEntry} {key : String} (hp : entry.Yields key p)
    (hv : ∀ f, p.check v ≠ .error (.fault f)) :
    (p.check v = .ok () ↔ p.Admits v) ∧
    (¬p.Shaped v ↔ ∃ text, v.toText = .ok text ∧
      p.check v = violated (.wrongType p.key text p.descriptor.text)) ∧
    (p.Shaped v → ¬p.Admits v → ∃ cause, p.Rejects v cause ∧ p.check v = violated cause) := by
  have haimed := aimed_of_yields hp
  cases hc : p.check v with
  | ok =>
    have ha := admits_of_check haimed hc
    refine ⟨iff_of_true rfl ha, iff_of_false (not_not.mpr ha.shaped) ?_, fun _ hn => absurd ha hn⟩
    rintro ⟨text, -, h⟩
    exact nomatch h
  | error e =>
    cases e with
    | fault f => exact absurd hc (hv f)
    | violation x =>
      cases ends_of_check haimed hc with
      | mistyped hshaped ht hx =>
        refine ⟨iff_of_false nofun fun ha => hshaped ha.shaped, ?_, fun hs => absurd hs hshaped⟩
        exact iff_of_true hshaped ⟨_, ht, by rw [hx]; rfl⟩
      | rejected hs hr hx =>
        refine ⟨iff_of_false nofun (hr.not_admits haimed), ?_, fun _ _ => ⟨_, hr, by rw [hx]; rfl⟩⟩
        refine iff_of_false (not_not.mpr hs) ?_
        rintro ⟨text, -, h⟩
        obtain ⟨_, _, _, rfl⟩ := hr.eq_rejected
        have hsame := hx.symm.trans (Failure.violation.inj (Except.error.inj h))
        exact nomatch congrArg Violation.cause hsame

def tally : PropertyEntry := ⟨"map-string-int", ⟨["1"], ["^2"], [], ["^a"]⟩⟩

def votes : Value :=
  .mapping .plain [(.text "a", .int 1), (.text "ab", .int 25), (.text "b", .int 20)]

theorem check_votes :
    tally.Yields "tally" (tally.property "tally") ∧
      (∀ f, (tally.property "tally").check votes ≠ .error (.fault f)) ∧
      (tally.property "tally").Shaped votes ∧
      ∃ cause, (tally.property "tally").Rejects votes cause ∧
        (tally.property "tally").check votes = violated cause := by
  have hyields : tally.Yields "tally" (tally.property "tally") := by
    have hd : tally.defects [] = [] := by decide +kernel
    have hf : tally.fault? = none := by decide +kernel
    exact tally.yields_property hd hf "tally"
  have hcheck : (tally.property "tally").check votes =
      violated (.rejected "tally" "b" "map-key" ["^a"]) := by decide +kernel
  have hfault : ∀ f, (tally.property "tally").check votes ≠ .error (.fault f) := by
    simp [hcheck, violated]
  have hshaped : (tally.property "tally").Shaped votes := by
    refine ⟨_, rfl, fun first hfirst => ?_⟩
    obtain rfl := Option.some.inj hfirst
    exact ⟨⟨_, rfl⟩, ⟨_, rfl⟩⟩
  obtain ⟨hadmits, -, hrejects⟩ := check_verdict hyields hfault
  refine ⟨hyields, hfault, hshaped, ?_⟩
  apply hrejects hshaped
  intro ha
  rw [hadmits.mpr ha] at hcheck
  cases hcheck

end Property

end GraphTemplate
