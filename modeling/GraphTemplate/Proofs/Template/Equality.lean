import GraphTemplate.Proofs.Restriction
import GraphTemplate.Proofs.Template.Acceptance
import GraphTemplate.Proofs.Template.WellFormed
import Mathlib.Data.List.Zip

/-! Equal entities against a template. Three things alone can tell two of them apart: the sign of a
zero that a pattern is looked for in, the entry that comes first in a mapping, and the text of a
key. -/
namespace GraphTemplate

namespace Value

variable {v w : Value}

/-- Equal values have equal elements. -/
theorem elements_alike (h : v.alike w = true) {xs : List Value} (hv : v.elements? = some xs) :
    ∃ ys, w.elements? = some ys ∧ List.Forall₂ (fun x y => x.alike y = true) xs ys := by
  cases v with
  | sequence k items =>
    obtain ⟨ys, rfl, hys⟩ := alike_sequence_iff.mp h
    obtain rfl := Option.some.inj hv
    exact ⟨ys, rfl, hys⟩
  | record k name i fields =>
    cases k with
    | namedTuple =>
      obtain ⟨name', gs, rfl, hgs⟩ := alike_namedTuple_iff.mp h
      obtain rfl := Option.some.inj hv
      refine ⟨gs.map Prod.snd, rfl, ?_⟩
      rw [List.forall₂_map_left_iff, List.forall₂_map_right_iff]
      exact hgs
    | _ => exact nomatch hv
  | range a b s =>
    cases (alike_atom_iff rfl).mp h with
    | range hr =>
      obtain rfl := Option.some.inj hv
      refine ⟨_, rfl, ?_⟩
      rw [hr]
      exact List.forall₂_same.mpr fun x _ => alike_refl x
  | bytes m octets =>
    cases (alike_atom_iff rfl).mp h with
    | bytes => exact ⟨xs, hv, List.forall₂_same.mpr fun x _ => alike_refl x⟩
  | _ => exact nomatch hv

def EntriesAlike (es fs : List (Value × Value)) : Prop :=
  (∀ e ∈ es, ∃ f ∈ fs, e.1.alike f.1 = true ∧ e.2.alike f.2 = true) ∧
    ∀ f ∈ fs, ∃ e ∈ es, e.1.alike f.1 = true ∧ e.2.alike f.2 = true

theorem entries_alike (h : v.alike w = true) {es : List (Value × Value)}
    (hv : v.entries? = some es) : ∃ fs, w.entries? = some fs ∧ EntriesAlike es fs := by
  cases v with
  | mapping k entries =>
    obtain ⟨l, fs, rfl, hfs⟩ := alike_mapping_iff.mp h
    obtain rfl := Option.some.inj hv
    exact ⟨fs, rfl, hfs⟩
  | _ => exact nomatch hv

end Value

namespace Property

variable {p : Property} {v w : Value} {rs : List Restriction}

/-- Values at one place of two equal values of a property, with the restrictions for that place. -/
inductive Places (p : Property) (v w : Value) : List Restriction → Value → Value → Prop where
  | scalar {s : Scalar} (hd : p.descriptor = .scalar s) : Places p v w p.values v w
  | element {item : Scalar} {xs ys : List Value} {x y : Value} (hd : p.descriptor = .array item)
    (hv : v.elements? = some xs) (hw : w.elements? = some ys) (h : (x, y) ∈ xs.zip ys) :
    Places p v w p.values x y
  | key {key value : Scalar} {es fs : List (Value × Value)} {e f : Value × Value}
    (hd : p.descriptor = .map key value) (hv : v.entries? = some es) (hw : w.entries? = some fs)
    (he : e ∈ es) (hf : f ∈ fs) (h : e.1.alike f.1 = true ∧ e.2.alike f.2 = true) :
    Places p v w p.keys e.1 f.1
  | value {key value : Scalar} {es fs : List (Value × Value)} {e f : Value × Value}
    (hd : p.descriptor = .map key value) (hv : v.entries? = some es) (hw : w.entries? = some fs)
    (he : e ∈ es) (hf : f ∈ fs) (h : e.1.alike f.1 = true ∧ e.2.alike f.2 = true) :
    Places p v w p.values e.2 f.2

inductive Discerns (p : Property) (v w : Value) : Prop where
  /-- Zeros of opposite signs, by a pattern. -/
  | zeros {rs : List Restriction} {r : Restriction} {x y : Value} (h : p.Places v w rs x y)
    (hr : r ∈ rs) (hs : r.SplitsZeros) (hz : x.OppositeZeros y)
  /-- The type of the first key, where no keys are restricted. -/
  | firstKey {key value : Scalar} {e f : Value × Value} {es fs : List (Value × Value)}
    (hd : p.descriptor = .map key value) (hk : p.keys = []) (hv : v.entries? = some (e :: es))
    (hw : w.entries? = some (f :: fs)) (h : ¬(e.1.Typed key ↔ f.1.Typed key))
  /-- The type of the first value, where no values are restricted. -/
  | firstValue {key value : Scalar} {e f : Value × Value} {es fs : List (Value × Value)}
    (hd : p.descriptor = .map key value) (hk : p.values = []) (hv : v.entries? = some (e :: es))
    (hw : w.entries? = some (f :: fs)) (h : ¬(e.2.Typed value ↔ f.2.Typed value))
  /-- A key that has a text where an equal one has none. -/
  | keyText {key value : Scalar} {es fs : List (Value × Value)} {e f : Value × Value}
    (hd : p.descriptor = .map key value) (hv : v.entries? = some es) (hw : w.entries? = some fs)
    (he : e ∈ es) (hf : f ∈ fs) (hk : e.1.alike f.1 = true)
    (h : ¬((∃ text, e.1.toText = .ok text) ↔ ∃ text, f.1.toText = .ok text))

theorem passes_alike (h : v.alike w = true)
    (hz : ∀ r ∈ rs, r.SplitsZeros → ¬v.OppositeZeros w) : Passes rs v ↔ Passes rs w := by
  have hany : anyAccepts v rs = anyAccepts w rs := by
    induction rs with
    | nil => rfl
    | cons r rs ih =>
      rw [List.forall_mem_cons] at hz
      rw [anyAccepts, anyAccepts, Restriction.accepts_alike h hz.1, ih hz.2]
  rw [Passes, Passes, hany]

/-- Values at one place pass alike, unless they are zeros that a pattern tells apart. -/
theorem passes_places {x y : Value} (hd : ¬p.Discerns v w) (h : p.Places v w rs x y)
    (hxy : x.alike y = true) : Passes rs x ↔ Passes rs y :=
  passes_alike hxy fun _ hr hs hz => hd (.zeros h hr hs hz)

theorem WellFormed.scalar_of_values (hp : p.WellFormed) {key value : Scalar}
    (hd : p.descriptor = .map key value) : ∀ r ∈ p.values, r.scalar = value := by
  intro r hr
  have ht := (hp.values r hr).2
  rw [hd] at ht
  exact (Option.some.inj ht).symm

theorem WellFormed.scalar_of_keys (hp : p.WellFormed) {key value : Scalar}
    (hd : p.descriptor = .map key value) : ∀ r ∈ p.keys, r.scalar = key := by
  intro r hr
  obtain ⟨value', ht⟩ := (hp.keys r hr).2
  rw [hd] at ht
  exact (Descriptor.map.inj ht).1.symm

/-- What is first in a mapping has a type, if everything there passes restrictions for that type or
if what is first in an equal one has it. -/
theorem typed_of_first {s : Scalar} {x y : Value} (hs : ∀ r ∈ rs, r.scalar = s)
    (hfree : rs = [] → (x.Typed s ↔ y.Typed s)) (hx : x.Typed s) (hy : Passes rs y) :
    y.Typed s := by
  by_cases hne : rs = []
  · exact (hfree hne).mp hx
  · exact hy.typed hne hs

theorem exists_zip_of_forall₂ {R : Value → Value → Prop} {xs ys : List Value}
    (h : List.Forall₂ R xs ys) {y : Value} (hy : y ∈ ys) : ∃ x, (x, y) ∈ xs.zip ys ∧ R x y := by
  induction h with
  | nil => exact absurd hy List.not_mem_nil
  | @cons x z xs ys hr _ ih =>
    rcases List.mem_cons.mp hy with rfl | hy
    · exact ⟨x, List.mem_cons_self, hr⟩
    · obtain ⟨x', hx', hr'⟩ := ih hy
      exact ⟨x', List.mem_cons_of_mem _ hx', hr'⟩

theorem checkArray_alike {item : Scalar} (hdesc : p.descriptor = .array item)
    (h : v.alike w = true) (hd : ¬p.Discerns v w) (hv : p.checkArray item v = .ok ()) :
    p.checkArray item w = .ok () := by
  obtain ⟨xs, hxs, hfirst, hpass⟩ := checkArray_eq_ok_iff.mp hv
  obtain ⟨ys, hys, halike⟩ := Value.elements_alike h hxs
  refine checkArray_eq_ok_iff.mpr ⟨ys, hys, ?_, ?_⟩
  · cases halike with
    | nil => exact fun _ hn => nomatch hn
    | cons hxy =>
      intro y hy
      obtain rfl := Option.some.inj hy
      exact (Value.typed_alike hxy item).mp (hfirst _ rfl)
  · intro y hy
    obtain ⟨x, hxy, hequal⟩ := exists_zip_of_forall₂ halike hy
    have hplace := Places.element hdesc hxs hys hxy
    exact (passes_places hd hplace hequal).mp (hpass x (List.of_mem_zip hxy).1)

section Entries

variable {key value : Scalar} {es fs : List (Value × Value)}

theorem entryPasses_alike (hdesc : p.descriptor = .map key value) (hes : v.entries? = some es)
    (hfs : w.entries? = some fs) (hd : ¬p.Discerns v w) {e f : Value × Value} (he : e ∈ es)
    (hf : f ∈ fs) (h : e.1.alike f.1 = true ∧ e.2.alike f.2 = true) (hpass : p.EntryPasses e) :
    p.EntryPasses f := by
  obtain ⟨htext, hvalue, hkey⟩ := hpass
  refine ⟨?_, ?_, ?_⟩
  · by_contra hn
    exact hd (.keyText hdesc hes hfs he hf h.1 fun hiff => hn (hiff.mp htext))
  · exact (passes_places hd (.value hdesc hes hfs he hf h) h.2).mp hvalue
  · exact (passes_places hd (.key hdesc hes hfs he hf h) h.1).mp hkey

/-- The entries that come first need not be equal, but restrictions or indiscernibility give them
the same types. -/
theorem typed_of_firstEntry (hp : p.WellFormed) (hdesc : p.descriptor = .map key value)
    {e f : Value × Value} (hes : v.entries? = some (e :: es)) (hfs : w.entries? = some (f :: fs))
    (hd : ¬p.Discerns v w) (he : e.1.Typed key ∧ e.2.Typed value) (hf : p.EntryPasses f) :
    f.1.Typed key ∧ f.2.Typed value := by
  obtain ⟨-, hvalue, hkey⟩ := hf
  refine ⟨typed_of_first (hp.scalar_of_keys hdesc) ?_ he.1 hkey,
    typed_of_first (hp.scalar_of_values hdesc) ?_ he.2 hvalue⟩
  · intro hn
    by_contra h
    exact hd (.firstKey hdesc hn hes hfs h)
  · intro hn
    by_contra h
    exact hd (.firstValue hdesc hn hes hfs h)

theorem checkMap_alike (hp : p.WellFormed) (hdesc : p.descriptor = .map key value)
    (h : v.alike w = true) (hd : ¬p.Discerns v w) (hv : p.checkMap key value v = .ok ()) :
    p.checkMap key value w = .ok () := by
  obtain ⟨es, hes, hfirst, hpass⟩ := checkMap_eq_ok_iff.mp hv
  obtain ⟨fs, hfs, halike⟩ := Value.entries_alike h hes
  have hentries : ∀ f ∈ fs, p.EntryPasses f := by
    intro f hf
    obtain ⟨e, he, hef⟩ := halike.2 f hf
    exact entryPasses_alike hdesc hes hfs hd he hf hef (hpass e he)
  refine checkMap_eq_ok_iff.mpr ⟨fs, hfs, ?_, hentries⟩
  intro f hf
  obtain ⟨fs', rfl⟩ : ∃ fs', fs = f :: fs' := List.head?_eq_some_iff.mp hf
  cases es with
  | nil =>
    obtain ⟨e, he, -⟩ := halike.2 f List.mem_cons_self
    exact absurd he List.not_mem_nil
  | cons e es =>
    exact typed_of_firstEntry hp hdesc hes hfs hd (hfirst e rfl) (hentries f List.mem_cons_self)

end Entries

theorem check_alike (hp : p.WellFormed) (h : v.alike w = true) (hd : ¬p.Discerns v w)
    (hv : p.check v = .ok ()) : p.check w = .ok () := by
  unfold check at hv ⊢
  cases hdesc : p.descriptor with
  | undefined => exact absurd hdesc hp.typed
  | scalar s =>
    rw [hdesc] at hv
    obtain ⟨ht, hpass⟩ := checkScalar_eq_ok_iff.mp hv
    refine checkScalar_eq_ok_iff.mpr ⟨(Value.typed_alike h s).mp ht, ?_⟩
    exact (passes_places hd (.scalar hdesc) h).mp hpass
  | array item =>
    rw [hdesc] at hv
    exact checkArray_alike hdesc h hd hv
  | map key value =>
    rw [hdesc] at hv
    exact checkMap_alike hp hdesc h hd hv

theorem Places.symm {x y : Value} (h : p.Places v w rs x y) : p.Places w v rs y x := by
  cases h with
  | scalar hd => exact .scalar hd
  | element hd hv hw h =>
    refine .element hd hw hv ?_
    rw [← List.zip_swap]
    exact List.mem_map_of_mem h
  | key hd hv hw he hf h => exact .key hd hw hv hf he ⟨Value.alike_symm h.1, Value.alike_symm h.2⟩
  | value hd hv hw he hf h =>
    exact .value hd hw hv hf he ⟨Value.alike_symm h.1, Value.alike_symm h.2⟩

theorem Discerns.symm (h : p.Discerns v w) : p.Discerns w v := by
  cases h with
  | zeros h hr hs hz => exact .zeros h.symm hr hs hz.symm
  | firstKey hd hk hv hw h => exact .firstKey hd hk hw hv fun hiff => h hiff.symm
  | firstValue hd hk hv hw h => exact .firstValue hd hk hw hv fun hiff => h hiff.symm
  | keyText hd hv hw he hf hk h =>
    exact .keyText hd hw hv hf he (Value.alike_symm hk) fun hiff => h hiff.symm

end Property

open Value (EntriesAlike)

theorem Value.EntriesAlike.symm {es fs : List (Value × Value)} (h : EntriesAlike es fs) :
    EntriesAlike fs es := by
  refine ⟨fun f hf => ?_, fun e he => ?_⟩
  · obtain ⟨e, he, hk, hx⟩ := h.2 f hf
    exact ⟨e, he, alike_symm hk, alike_symm hx⟩
  · obtain ⟨f, hf, hk, hx⟩ := h.1 e he
    exact ⟨f, hf, alike_symm hk, alike_symm hx⟩

namespace EntityType

open PropertyKeys

variable {type : EntityType} {es fs : List (Value × Value)}

inductive Discerns (type : EntityType) (es fs : List (Value × Value)) : Prop where
  | key {e f : Value × Value} (he : e ∈ es) (hf : f ∈ fs) (hk : e.1.alike f.1 = true)
    (h : formOf e.1 ≠ formOf f.1)
  | value {e f : Value × Value} {form d : String} {p : Property} (he : e ∈ es) (hf : f ∈ fs)
    (hk : e.1.alike f.1 = true) (hx : e.2.alike f.2 = true) (hform : formOf e.1 = .ok form)
    (hd : (declared type.properties.names).get? form = some d)
    (hp : type.properties.get? d = some p) (h : p.Discerns e.2 f.2)

theorem Discerns.symm (h : type.Discerns es fs) : type.Discerns fs es := by
  cases h with
  | key he hf hk h => exact .key hf he (Value.alike_symm hk) h.symm
  | @value e f form d p he hf hk hx hform hd hp h =>
    by_cases hforms : formOf e.1 = formOf f.1
    · exact .value hf he (Value.alike_symm hk) (Value.alike_symm hx) (hforms ▸ hform) hd hp h.symm
    · exact .key hf he (Value.alike_symm hk) (Ne.symm hforms)

/-- Different keys of equal entries have different texts if those of the others have. -/
theorem nodup_formOf (hkeyed : Keyed fs) (halike : EntriesAlike es fs)
    (hforms : ∀ e ∈ es, ∀ f ∈ fs, e.1.alike f.1 = true → formOf e.1 = formOf f.1)
    (h : (es.map fun e => formOf e.1).Nodup) : (fs.map fun f => formOf f.1).Nodup := by
  refine List.pairwise_map.mpr (hkeyed.apart.imp_of_mem fun {f g} hf hg hfg hform => ?_)
  obtain ⟨e, he, hef, -⟩ := halike.2 f hf
  obtain ⟨e', he', heg, -⟩ := halike.2 g hg
  have hsame : formOf e.1 = formOf e'.1 := by
    rw [hforms e he f hf hef, hform, hforms e' he' g hg heg]
  obtain rfl : e = e' := List.inj_on_of_nodup_map h he he' hsame
  rw [Value.alike_trans (Value.alike_symm hef) heg] at hfg
  exact nomatch hfg.2

theorem accepts_alike (ht : PropertiesWellFormed type.properties) (hkeyed : Keyed fs)
    (halike : EntriesAlike es fs) (hd : ¬type.Discerns es fs) (h : type.Accepts es) :
    type.Accepts fs := by
  have hforms : ∀ e ∈ es, ∀ f ∈ fs, e.1.alike f.1 = true → formOf e.1 = formOf f.1 := by
    intro e he f hf hk
    by_contra hne
    exact hd (.key he hf hk hne)
  refine ⟨fun f hf => ?_, nodup_formOf hkeyed halike hforms h.apart, fun form d hform => ?_⟩
  · obtain ⟨e, he, hk, hx⟩ := halike.2 f hf
    obtain ⟨form, d, p, hform, hget, hp, hcheck⟩ := h.passes e he
    refine ⟨form, d, p, hforms e he f hf hk ▸ hform, hget, hp, ?_⟩
    exact Property.check_alike (ht hp).2 hx
      (fun hdis => hd (.value he hf hk hx hform hget hp hdis)) hcheck
  · obtain ⟨e, he, hform⟩ := h.all form d hform
    obtain ⟨f, hf, hk, -⟩ := halike.1 e he
    exact ⟨f, hf, hforms e he f hf hk ▸ hform⟩

theorem check_alike (ht : PropertiesWellFormed type.properties) (hes : Keyed es) (hfs : Keyed fs)
    (halike : EntriesAlike es fs) (hd : ¬type.Discerns es fs) :
    type.check es = .ok () ↔ type.check fs = .ok () := by
  rw [check_eq_ok_iff hes, check_eq_ok_iff hfs]
  constructor
  · exact accepts_alike ht hfs halike hd
  · exact accepts_alike ht hes halike.symm fun h => hd h.symm

end EntityType

theorem Entity.of_same {a b : Entity} (h : a.same b = .ok true) :
    a.typeName = b.typeName ∧ EntriesAlike a.properties b.properties := by
  have halike : a.alike b = true := by
    unfold same hashed at h
    cases ha : Value.entriesFault? a.properties <;> cases hb : Value.entriesFault? b.properties <;>
      simp [ha, hb, bind, Except.bind, pure, Except.pure] at h
    exact h
  obtain ⟨hname, hprops⟩ := alike_iff.mp halike
  obtain ⟨l, fs, heq, hfs⟩ := Value.alike_mapping_iff.mp hprops
  obtain ⟨-, rfl⟩ := Value.mapping.inj heq
  exact ⟨hname, hfs⟩

namespace Template

open EntityType

variable {t : Template}

def Discerns (t : Template) (kind : EntityKind) (a b : Entity) : Prop :=
  ∃ type, (t.typesOf kind).get? a.typeName = some type ∧ type.Discerns a.properties b.properties

/-- Equal entities are judged alike, unless the template discerns them. -/
theorem checkEntity_same {d : Document} (ht : (Build.ofDocument d).result = .ok t) {a b : Entity}
    (ha : Keyed a.properties) (hb : Keyed b.properties) (h : a.same b = .ok true)
    (kind : EntityKind) (hd : ¬t.Discerns kind a b) :
    t.checkEntity kind a = .ok () ↔ t.checkEntity kind b = .ok () := by
  obtain ⟨hname, halike⟩ := Entity.of_same h
  unfold checkEntity
  rw [← hname]
  cases htype : (t.typesOf kind).get? a.typeName with
  | none => exact iff_of_false nofun nofun
  | some type =>
    have hwell : PropertiesWellFormed type.properties :=
      (Build.wellFormed_of_result ht).1.properties htype
    rw [Check.within_eq_ok, Check.within_eq_ok]
    exact check_alike hwell ha hb halike fun h => hd ⟨type, htype, h⟩

def measured : Document where
  labels := .empty
  nodes := .ofList [("m", ⟨[], .ofList [("ratio", ⟨"float", ⟨[], ["^0"], [], []⟩⟩)], .empty⟩),
    ("n", ⟨[], .ofList [("sizes", ⟨"map-string-int", ⟨[], [], [], []⟩⟩)], .empty⟩)]
  edges := .ofList [("e", ⟨.empty⟩)]

theorem result_of_measured : (Build.ofDocument measured).result = .ok measured.template :=
  Build.result_of_no_defects (by decide) (by decide)

def ratio (negative : Bool) : Entity := ⟨"m", [(.text "ratio", .float (.zero negative) 0)]⟩

def sizes (entries : List (Value × Value)) : Entity :=
  ⟨"n", [(.text "sizes", .mapping .plain entries)]⟩

theorem keyed_sizes (entries : List (Value × Value)) : Keyed (sizes entries).properties :=
  keyed_textEntries (.ofList [("sizes", .mapping .plain entries)])

theorem checkEntity_sizes :
    (Build.ofDocument measured).result = .ok measured.template ∧
      measured.template.checkEntity .node
        (sizes [(.text "b", .int 2), (.text "a", .int 1)]) = .ok () := by
  let type : EntityType := ⟨"n", .ofList [("sizes", ⟨"sizes", .map .string .int, [], []⟩)]⟩
  have htype : (measured.template.typesOf .node).get? "n" = some type := by rfl
  have hd : ¬measured.template.Discerns .node
      (sizes [(.text "a", .int 1), (.text "b", .int 2)])
      (sizes [(.text "b", .int 2), (.text "a", .int 1)]) := by
    rintro ⟨type', ht, hdis⟩
    obtain rfl := Option.some.inj (htype.symm.trans ht)
    cases hdis with
    | key he hf _ h =>
      obtain rfl := List.mem_singleton.mp he
      obtain rfl := List.mem_singleton.mp hf
      exact h rfl
    | @value e f form d p he hf _ _ _ _ hp h =>
      obtain rfl := List.mem_singleton.mp he
      obtain rfl := List.mem_singleton.mp hf
      have hp : p = ⟨"sizes", .map .string .int, [], []⟩ := by
        obtain ⟨-, hp⟩ := Prod.mk.inj (List.mem_singleton.mp (NameTable.get?_eq_some_iff.mp hp))
        exact hp
      subst hp
      cases h with
      | zeros h hr => cases h <;> exact absurd hr List.not_mem_nil
      | firstKey hd _ hv hw h =>
        obtain ⟨rfl, rfl⟩ := Descriptor.map.inj hd
        obtain ⟨rfl, -⟩ := List.cons.inj (Option.some.inj hv)
        obtain ⟨rfl, -⟩ := List.cons.inj (Option.some.inj hw)
        exact h (iff_of_true ⟨_, rfl⟩ ⟨_, rfl⟩)
      | firstValue hd _ hv hw h =>
        obtain ⟨rfl, rfl⟩ := Descriptor.map.inj hd
        obtain ⟨rfl, -⟩ := List.cons.inj (Option.some.inj hv)
        obtain ⟨rfl, -⟩ := List.cons.inj (Option.some.inj hw)
        exact h (iff_of_true ⟨_, rfl⟩ ⟨_, rfl⟩)
      | keyText hd hv hw he hf _ h =>
        obtain rfl := Option.some.inj hv
        obtain rfl := Option.some.inj hw
        refine h (iff_of_true ?_ ?_)
        · rcases List.mem_pair.mp he with rfl | rfl <;> exact ⟨_, rfl⟩
        · rcases List.mem_pair.mp hf with rfl | rfl <;> exact ⟨_, rfl⟩
  refine ⟨result_of_measured, ?_⟩
  exact (checkEntity_same result_of_measured (keyed_sizes _) (keyed_sizes _)
    (by decide +kernel) .node hd).mp (by decide +kernel)

theorem equal_nodes_discerned :
    (Build.ofDocument measured).result = .ok measured.template ∧
      ((ratio false).same (ratio true) = .ok true ∧
        measured.template.checkNode (ratio false) = .ok () ∧
        measured.template.checkNode (ratio true) ≠ .ok ()) ∧
      (sizes [(.text "a", .int 1), (.int 2, .text "b")]).same
          (sizes [(.int 2, .text "b"), (.text "a", .int 1)]) = .ok true ∧
        measured.template.checkNode (sizes [(.text "a", .int 1), (.int 2, .text "b")]) = .ok () ∧
        measured.template.checkNode (sizes [(.int 2, .text "b"), (.text "a", .int 1)]) ≠
          .ok () := by
  have hratio : measured.template.checkNode (ratio true) =
      .error (.violation ⟨.rejected "ratio" "-0.0" "value" ["^0"], ["\"m\"-node"]⟩) := by
    decide +kernel
  have hsizes : measured.template.checkNode (sizes [(.int 2, .text "b"), (.text "a", .int 1)]) =
      .error (.violation ⟨.wrongType "sizes" "\x7b2: 'b', 'a': 1\x7d" "map-string-int",
        ["\"n\"-node"]⟩) := by decide +kernel
  refine ⟨result_of_measured, ⟨by decide +kernel, by decide +kernel, ?_⟩, by decide +kernel,
    by decide +kernel, ?_⟩
  · simp [hratio]
  · simp [hsizes]

end Template

end GraphTemplate
