import GraphTemplate.Build.Properties
import GraphTemplate.Proofs.Build.Runs
import GraphTemplate.Proofs.Moment.Ordinal
import GraphTemplate.Proofs.Text.Digit
import Mathlib.Algebra.Group.Nat.Defs

/-! Properties as they are declared, read without a run: the type, the restrictions that are some,
a defect for every text that is none and the first text that meets a fault. The build of a property
comes to just that. -/
namespace GraphTemplate

namespace Restriction

variable {d : Descriptor} {kind : RestrictionKind} {raw : String} {r s : Restriction}

def fault? (d : Descriptor) (kind : RestrictionKind) (raw : String) : Option Fault :=
  match build d kind raw with
  | .error (.fault f) => some f
  | _ => none

def error? (d : Descriptor) (kind : RestrictionKind) (raw : String) : Option RestrictionError :=
  match build d kind raw with
  | .error (.invalid e) => some e
  | _ => none

def built? (d : Descriptor) (kind : RestrictionKind) (raw : String) : Option Restriction :=
  (build d kind raw).toOption

def Canonical (r : Restriction) : Prop :=
  ∀ ⦃datum⦄, r.demand = .equals datum → ∃ t, datum.canonicalText = .ok t

theorem intText_digitsValue {ds : List Char} (h : ds.length ≤ digitLimit) :
    Value.intText (digitsValue ds : Nat) =
      .ok (String.ofList (Nat.toDigits 10 (digitsValue ds))) := by
  have hlt : digitsValue ds < 10 ^ digitLimit :=
    Nat.lt_of_lt_of_le (digitsValue_lt ds) (Nat.pow_le_pow_right (by decide) h)
  have hlen : (Nat.toDigits 10 (digitsValue ds)).length ≤ digitLimit :=
    (Nat.length_toDigits_le_iff (by decide) (by decide)).mpr hlt
  have hsign : ¬((digitsValue ds : Nat) : Int) < 0 := by omega
  unfold Value.intText integerText?
  simp only [Int.natAbs_natCast, hlen, if_true, hsign, if_false]

/-- What a text can stand for: a whole number by its digits, a floating-point number, the text
itself, one of two words, or a moment of universal time. -/
inductive Denotes (raw : String) : Datum → Prop
  | int (hdigits : isDigits (withoutBreak raw.toList) = true)
      (hlength : (withoutBreak raw.toList).length ≤ digitLimit) :
      Denotes raw (.int (digitsValue (withoutBreak raw.toList) : Nat))
  | float {x : Binary64} (h : readFloat? (withoutBreak raw.toList) = some x) :
      Denotes raw (.float x)
  | string : Denotes raw (.string raw)
  | bool {b : Bool} (h : raw = if b then "true" else "false") : Denotes raw (.bool b)
  | datetime {m : Moment} (hshape : Moment.isZuluShaped raw.toList = true)
      (h : Moment.ofZulu raw.toList = .ok m) : Denotes raw (.datetime m)

theorem denotes_of_readDatum {scalar : Scalar} {datum : Datum}
    (h : readDatum scalar raw = .ok datum) : Denotes raw datum ∧ datum.scalar = scalar := by
  unfold readDatum at h
  dsimp only at h
  cases scalar with
  | int =>
    dsimp only at h
    split at h
    · next hdigits =>
      split at h
      · next hlength =>
        obtain rfl := Except.ok.inj h
        exact ⟨.int hdigits hlength, rfl⟩
      · exact nomatch h
    · exact nomatch h
  | float =>
    dsimp only at h
    split at h
    · next x hx =>
      obtain rfl := Except.ok.inj h
      exact ⟨.float hx, rfl⟩
    · exact nomatch h
  | string =>
    obtain rfl := Except.ok.inj h
    exact ⟨.string, rfl⟩
  | bool =>
    dsimp only at h
    split at h
    · next ht =>
      obtain rfl := Except.ok.inj h
      exact ⟨.bool (beq_iff_eq.mp ht), rfl⟩
    · split at h
      · next hf =>
        obtain rfl := Except.ok.inj h
        exact ⟨.bool (beq_iff_eq.mp hf), rfl⟩
      · exact nomatch h
  | datetime =>
    dsimp only at h
    split at h
    · next hshape =>
      split at h
      · next m hm =>
        obtain rfl := Except.ok.inj h
        exact ⟨.datetime hshape hm, rfl⟩
      · exact nomatch h
    · exact nomatch h

/-- A text is read as a datum of a type just if it can stand for it and the datum has the type. -/
theorem readDatum_eq_ok_iff {scalar : Scalar} {datum : Datum} :
    readDatum scalar raw = .ok datum ↔ Denotes raw datum ∧ datum.scalar = scalar := by
  refine ⟨denotes_of_readDatum, ?_⟩
  rintro ⟨h, rfl⟩
  cases h with
  | int hdigits hlength => simp [readDatum, Datum.scalar, hdigits, hlength]
  | float h => simp [readDatum, Datum.scalar, h]
  | string => rfl
  | @bool b h => cases b <;> simp [readDatum, Datum.scalar, h]
  | datetime hshape h => simp [readDatum, Datum.scalar, hshape, h]

theorem Denotes.canonicalText {datum : Datum} (h : Denotes raw datum) :
    ∃ t, datum.canonicalText = .ok t := by
  cases h with
  | int hdigits hlength => exact ⟨_, intText_digitsValue hlength⟩
  | @datetime m hshape hm =>
    refine ⟨m.zuluText, ?_⟩
    rw [Datum.canonicalText, Datum.toUniversal, Moment.toUniversal?_of_ofZulu hm]
    rfl
  | _ => exact ⟨_, rfl⟩

/-- What a text is built to: a pattern or a wanted value, for the type of what is restricted. -/
theorem cases_of_build (h : build d kind raw = .ok r) :
    ∃ scalar, restrictedType d kind raw = .ok scalar ∧
      ((kind.isRegexp = true ∧ ∃ p, r = ⟨scalar, kind.isKey, .matching p, raw⟩) ∨
        (kind.isRegexp = false ∧ ∃ datum, readDatum scalar raw = .ok datum ∧
          r = ⟨scalar, kind.isKey, .equals datum, raw⟩)) := by
  unfold build at h
  split at h
  · exact nomatch h
  · next scalar ht =>
    refine ⟨scalar, ht, ?_⟩
    split at h
    · next hk =>
      cases hp : readPattern raw with
      | error e =>
        rw [hp] at h
        exact nomatch h
      | ok p =>
        rw [hp] at h
        exact .inl ⟨hk, p, (Except.ok.inj h).symm⟩
    · next hk =>
      cases hv : readDatum scalar raw with
      | error e =>
        rw [hv] at h
        exact nomatch h
      | ok datum =>
        rw [hv] at h
        exact .inr ⟨Bool.eq_false_iff.mpr hk, datum, rfl, (Except.ok.inj h).symm⟩

theorem canonical_of_build (h : build d kind raw = .ok r) : r.Canonical := by
  intro datum hd
  obtain ⟨scalar, -, ⟨-, p, rfl⟩ | ⟨-, datum', hv, rfl⟩⟩ := cases_of_build h
  · exact nomatch hd
  · obtain rfl := Demand.equals.inj hd
    exact (readDatum_eq_ok_iff.mp hv).1.canonicalText

theorem contradiction?_ok {all : List Restriction} (h : ∀ s ∈ all, s.Canonical) :
    ∃ found, r.contradiction? all = .ok found := by
  induction all with
  | nil => exact ⟨_, rfl⟩
  | cons s all ih =>
    have hrest := ih fun s' hs' => h s' (List.mem_cons_of_mem s hs')
    unfold contradiction?
    split
    · next p datum hr hs =>
      obtain ⟨t, ht⟩ := h s List.mem_cons_self hs
      simp only [ht, bind, Except.bind]
      split
      · exact hrest
      · exact ⟨_, rfl⟩
    · exact hrest

def rejected? (r : Restriction) (all : List Restriction) : Option Restriction :=
  (r.contradiction? all).toOption.join

end Restriction

namespace PropertyEntry

def descriptor (p : PropertyEntry) : Descriptor := (Descriptor.read p.type).toOption.getD .undefined

def typeDefects (place : List String) (p : PropertyEntry) : List Defect :=
  match Descriptor.read p.type with
  | .ok _ => []
  | .error e => [⟨place ++ ["type"], .type e⟩]

/-- One defect for every text of a kind that is no restriction, under its number. -/
def restrictionDefects (place : List String) (p : PropertyEntry) (kind : RestrictionKind) :
    List Defect :=
  ((p.restrictions.ofKind kind).zipIdx 1).filterMap fun raw =>
    (Restriction.error? p.descriptor kind raw.1).map fun e =>
      ⟨place ++ ["restrictions", RestrictionTexts.fieldName kind, toString raw.2], .restriction e⟩

def defects (place : List String) (p : PropertyEntry) : List Defect :=
  p.typeDefects place ++ RestrictionKind.all.flatMap (p.restrictionDefects place)

def built (p : PropertyEntry) (kind : RestrictionKind) : List Restriction :=
  (p.restrictions.ofKind kind).filterMap (Restriction.built? p.descriptor kind)

def allBuilt (p : PropertyEntry) : List Restriction := RestrictionKind.all.flatMap p.built

def property (key : String) (p : PropertyEntry) : Property :=
  ⟨key, p.descriptor, p.allBuilt.filter fun r => !r.onKeys, p.allBuilt.filter (·.onKeys)⟩

def fault? (p : PropertyEntry) : Option Fault :=
  RestrictionKind.all.findSome? fun kind =>
    (p.restrictions.ofKind kind).findSome? (Restriction.fault? p.descriptor kind)

def warnings (place : List String) (all rs : List Restriction) : List LogLine :=
  rs.filterMap fun r => (r.rejected? all).map fun found =>
    ⟨.warning, Build.contradictionMessage place r found⟩

def findings (place : List String) (p : PropertyEntry) : Findings :=
  let values := p.allBuilt.filter fun r => !r.onKeys
  let keys := p.allBuilt.filter (·.onKeys)
  ⟨p.defects place, warnings place values values ++ warnings place keys keys⟩

theorem exists_of_mem_allBuilt {p : PropertyEntry} {r : Restriction} (h : r ∈ p.allBuilt) :
    ∃ kind raw, Restriction.build p.descriptor kind raw = .ok r := by
  obtain ⟨kind, -, hr⟩ := List.mem_flatMap.mp h
  obtain ⟨raw, -, hb⟩ := List.mem_filterMap.mp hr
  refine ⟨kind, raw, ?_⟩
  unfold Restriction.built? at hb
  cases hbuild : Restriction.build p.descriptor kind raw with
  | error e =>
    rw [hbuild] at hb
    exact nomatch hb
  | ok r' =>
    rw [hbuild] at hb
    obtain rfl := Option.some.inj hb
    rfl

theorem canonical_of_mem_allBuilt {p : PropertyEntry} {r : Restriction} (h : r ∈ p.allBuilt) :
    r.Canonical := by
  obtain ⟨kind, raw, hbuild⟩ := exists_of_mem_allBuilt h
  exact Restriction.canonical_of_build hbuild

end PropertyEntry

namespace Build

open Assembly

theorem comes_descriptor (place : List String) (p : PropertyEntry) :
    Comes (descriptor place p.type) none p.descriptor ⟨p.typeDefects place, []⟩ := by
  unfold descriptor PropertyEntry.descriptor PropertyEntry.typeDefects
  cases Descriptor.read p.type with
  | ok d => exact comes_pure d
  | error e => exact (comes_report _ _).map rfl

theorem comes_restrictionsOfKind (place : List String) (d : Descriptor) (kind : RestrictionKind)
    (index : Nat) (raws : List String) :
    Comes (restrictionsOfKind place d kind index raws)
      (raws.findSome? (Restriction.fault? d kind)) (raws.filterMap (Restriction.built? d kind))
      ⟨(raws.zipIdx index).filterMap fun raw => (Restriction.error? d kind raw.1).map fun e =>
        ⟨place ++ ["restrictions", RestrictionTexts.fieldName kind, toString raw.2],
          .restriction e⟩, []⟩ := by
  induction raws generalizing index with
  | nil => exact comes_pure []
  | cons raw raws ih =>
    unfold restrictionsOfKind
    rw [List.findSome?_cons, List.zipIdx_cons, Restriction.fault?]
    cases hb : Restriction.build d kind raw with
    | ok r =>
      have hb' : Restriction.built? d kind raw = some r := by rw [Restriction.built?, hb]; rfl
      have he : Restriction.error? d kind raw = none := by rw [Restriction.error?, hb]
      rw [List.filterMap_cons_some hb', List.filterMap_cons_none (by rw [he]; rfl)]
      exact (ih (index + 1)).map rfl
    | error e =>
      have hb' : Restriction.built? d kind raw = none := by rw [Restriction.built?, hb]; rfl
      rw [List.filterMap_cons_none hb']
      cases e with
      | fault f => exact comes_throw f _ _
      | invalid e =>
        have he : Restriction.error? d kind raw = some e := by rw [Restriction.error?, hb]
        rw [List.filterMap_cons_some (by rw [he]; rfl)]
        exact (comes_report _ _).bind (ih (index + 1)) rfl rfl

theorem comes_restrictions (place : List String) (p : PropertyEntry)
    (kinds : List RestrictionKind) :
    Comes (restrictions place p.descriptor p.restrictions kinds)
      (kinds.findSome? fun kind =>
        (p.restrictions.ofKind kind).findSome? (Restriction.fault? p.descriptor kind))
      (kinds.flatMap p.built) ⟨kinds.flatMap (p.restrictionDefects place), []⟩ := by
  induction kinds with
  | nil => exact comes_pure []
  | cons kind kinds ih =>
    unfold restrictions
    rw [List.flatMap_cons, List.flatMap_cons]
    refine (comes_restrictionsOfKind place p.descriptor kind 1 (p.restrictions.ofKind kind)).bind
      (ih.map rfl) ?_ rfl
    rw [List.findSome?_cons]
    cases (p.restrictions.ofKind kind).findSome? (Restriction.fault? p.descriptor kind) <;> rfl

theorem comes_warnContradictions (place : List String) {all : List Restriction}
    (h : ∀ s ∈ all, s.Canonical) (rs : List Restriction) :
    Comes (warnContradictions place all rs) none ()
      ⟨[], PropertyEntry.warnings place all rs⟩ := by
  induction rs with
  | nil => exact comes_pure ()
  | cons r rs ih =>
    obtain ⟨found, hfound⟩ := Restriction.contradiction?_ok (r := r) h
    have hr : r.rejected? all = found := by rw [Restriction.rejected?, hfound]; rfl
    unfold warnContradictions PropertyEntry.warnings
    cases found with
    | none =>
      rw [List.filterMap_cons_none (by rw [hr]; rfl)]
      exact (comes_lift hfound).bind ih rfl rfl
    | some s =>
      rw [List.filterMap_cons_some (by rw [hr]; rfl)]
      exact (comes_lift hfound).bind ((comes_say _ _).bind ih rfl rfl) rfl rfl

theorem comes_property (owner : List String) (key : String) (p : PropertyEntry) :
    Comes (property owner key p) p.fault? (p.property key)
      (p.findings (owner ++ ["properties", key])) := by
  have hvalues : ∀ r ∈ p.allBuilt.filter fun r => !r.onKeys, r.Canonical :=
    fun r hr => PropertyEntry.canonical_of_mem_allBuilt (List.mem_filter.mp hr).1
  have hkeys : ∀ r ∈ p.allBuilt.filter (·.onKeys), r.Canonical :=
    fun r hr => PropertyEntry.canonical_of_mem_allBuilt (List.mem_filter.mp hr).1
  unfold property
  refine (comes_descriptor (owner ++ ["properties", key]) p).bind
    ((comes_restrictions (owner ++ ["properties", key]) p RestrictionKind.all).bind
      ((comes_warnContradictions _ hvalues _).bind
        ((comes_warnContradictions _ hkeys _).map rfl) rfl rfl) Option.or_none rfl) rfl ?_
  simp only [Findings.append_eq, List.append_nil, List.nil_append]
  rfl

theorem comes_propertyList (owner : List String) (entries : List (String × PropertyEntry)) :
    Comes (propertyList owner entries) (entries.findSome? fun e => e.2.fault?)
      (entries.map fun e => (e.1, e.2.property e.1))
      (.all (entries.map fun e => e.2.findings (owner ++ ["properties", e.1]))) := by
  induction entries with
  | nil => exact comes_pure []
  | cons e es ih =>
    unfold propertyList
    refine (comes_property owner e.1 e.2).bind (ih.map rfl) ?_ rfl
    rw [List.findSome?_cons]
    cases e.2.fault? <;> rfl

end Build

namespace PropertyEntries

def table (entries : PropertyEntries) : NameTable Property :=
  .ofList (entries.entries.map fun e => (e.1, e.2.property e.1))

def fault? (entries : PropertyEntries) : Option Fault :=
  entries.entries.findSome? fun e => e.2.fault?

def findings (owner : List String) (entries : PropertyEntries) : Findings :=
  .all (entries.entries.map fun e => e.2.findings (owner ++ ["properties", e.1]))

def defects (owner : List String) (entries : PropertyEntries) : List Defect :=
  entries.entries.flatMap fun e => e.2.defects (owner ++ ["properties", e.1])

theorem defects_findings (owner : List String) (entries : PropertyEntries) :
    (findings owner entries).defects = defects owner entries := by
  rw [findings, Findings.defects_all, List.flatMap_map]
  rfl

end PropertyEntries

namespace Build

open Assembly

theorem comes_properties (owner : List String) (entries : PropertyEntries) :
    Comes (properties owner entries) entries.fault? entries.table (entries.findings owner) :=
  (comes_propertyList owner entries.entries).map rfl

end Build

end GraphTemplate
