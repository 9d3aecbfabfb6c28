import GraphTemplate.Proofs.Document.Complaint
import GraphTemplate.Proofs.Document.Places
import Mathlib.Data.String.Basic

/-! What is complained about in data that has not the shape of a document. A culprit is a value that
does not conform although its parts do. The descent takes the first part that does not conform,
and stops where there is none; the complaint is about the culprit that comes first. -/
namespace GraphTemplate.Shape

inductive Step.Before : Step → Step → Prop
  | key {k l : String} (h : k < l) : Before (.key k) (.key l)
  | index {m n : Nat} (h : m < n) : Before (.index m) (.index n)

instance : LT Step := ⟨Step.Before⟩

/-- At the end of a path is a value that does not conform to the shape of its place, although all
its parts conform to the shapes of theirs. -/
def Culprit (shape : Shape) (v : Value) (path : List Step) (u : Value) : Prop :=
  ∃ s, shape.At v path s u ∧ ¬s.Conforms u ∧ ∀ step r w, s.Part u step r w → r.Conforms w

def Blames (shape : Shape) (v : Value) (step : Step) (c : Complaint) : Prop :=
  ∃ s u, shape.Part v step s u ∧ s.complaint? u = some c

variable {shape s : Shape} {v u : Value} {step : Step} {c : Complaint} {path : List Step}

theorem mem_entryComplaints {entry : Shape} {t : NameTable Value} {k : String} :
    (k, c) ∈ entryComplaints entry (t.entries.map fun e => (.text e.1, e.2)) ↔
      (table entry).Blames (.ofTable t) (.key k) c := by
  rw [entryComplaints_table, List.mem_filterMap]
  constructor
  · rintro ⟨e, he, hc⟩
    obtain ⟨c', hc', hk⟩ := Option.map_eq_some_iff.mp hc
    obtain ⟨rfl, rfl⟩ := Prod.mk.inj hk
    have hu := Value.has_ofTable.mpr (NameTable.get?_eq_some_iff.mpr he)
    exact ⟨entry, e.2, .entry hu, hc'⟩
  · rintro ⟨_, u, _ | _ | ⟨hu⟩, hc⟩
    refine ⟨(k, u), NameTable.get?_eq_some_iff.mp (Value.has_ofTable.mp hu), ?_⟩
    rw [hc]
    rfl

theorem mem_fieldComplaints {fields : List (String × Shape)} {t : NameTable Value} {k : String} :
    (k, c) ∈ fieldComplaints fields (t.entries.map fun e => (.text e.1, e.2)) ↔
      (closed fields).Blames (.ofTable t) (.key k) c := by
  rw [fieldComplaints_table, List.mem_filterMap]
  constructor
  · rintro ⟨f, hf, hc⟩
    obtain ⟨c', hc', hk⟩ := Option.map_eq_some_iff.mp hc
    obtain ⟨rfl, rfl⟩ := Prod.mk.inj hk
    obtain ⟨u, hu, hcu⟩ := Option.bind_eq_some_iff.mp hc'
    exact ⟨f.2, u, .field hf (Value.has_ofTable.mpr hu), hcu⟩
  · rintro ⟨s, u, _ | ⟨hf, hu⟩, hc⟩
    refine ⟨(k, s), hf, ?_⟩
    rw [Value.has_ofTable.mp hu, Option.bind_some, hc]
    rfl

/-- How a complaint comes about: it is about the value itself where no part is blamed, and otherwise
about the blamed part that comes first. -/
inductive Descent (shape : Shape) (v : Value) : Complaint → Prop
  | stop {d : Defect} (h : ∀ step c, ¬shape.Blames v step c) : Descent shape v ⟨[], v, d⟩
  | down {step : Step} {c : Complaint} (h : shape.Blames v step c)
      (first : ∀ step' c', shape.Blames v step' c' → step = step' ∨ step < step') :
      Descent shape v (c.under step)

theorem descent_of_no_parts {d : Defect} (hparts : ∀ step s u, ¬shape.Part v step s u)
    (h : c = ⟨[], v, d⟩) : shape.Descent v c := by
  obtain rfl := h
  refine .stop ?_
  rintro step c' ⟨s, u, hpart, -⟩
  exact hparts step s u hpart

theorem descent_of_firstItem {item : Shape} {items : List Value}
    (h : firstItem item 0 items = some c) : (list item).Descent (.sequence .list items) c := by
  obtain ⟨i, u, c', hu, hc', rfl, hfirst⟩ := firstItem_spec h
  rw [Nat.zero_add]
  refine .down ⟨item, u, .item hu, hc'⟩ ?_
  rintro step' c'' ⟨_, w, ⟨hw⟩, hcw⟩
  have hbad : ¬item.Fits w := by
    rw [Fits, hcw]
    exact Option.some_ne_none c''
  rcases (hfirst _ w hw hbad).eq_or_lt with hi | hi
  · exact Or.inl (congrArg Step.index hi)
  · exact Or.inr (.index hi)

theorem descent_of_least {cs : List (String × Complaint)}
    (hcs : ∀ k c', (k, c') ∈ cs ↔ shape.Blames v (.key k) c')
    (hkeys : ∀ step s u, shape.Part v step s u → ∃ k, step = .key k) (h : least cs = some c) :
    shape.Descent v c := by
  obtain ⟨e, he, rfl, hle⟩ := least_spec h
  refine .down ((hcs e.1 e.2).mp he) ?_
  rintro step' c'' hblames
  obtain ⟨s, u, hpart, -⟩ := id hblames
  obtain ⟨k, rfl⟩ := hkeys step' s u hpart
  rcases (hle _ ((hcs k c'').mpr hblames)).eq_or_lt with hk | hk
  · exact Or.inl (congrArg Step.key hk)
  · exact Or.inr (.key hk)

theorem descent_of_closed {fields : List (String × Shape)} (hv : v.Loaded)
    (h : (closed fields).complaint? v = some c) : (closed fields).Descent v c := by
  have hkeys : ∀ step s u, (closed fields).Part v step s u → ∃ k, step = .key k := by
    rintro step s u (_ | _)
    exact ⟨_, rfl⟩
  unfold complaint? at h
  split at h
  · obtain ⟨t, ht, -⟩ := hv.exists_table
    obtain rfl := (Value.mapping.inj ht).2
    rcases Option.or_eq_some_iff.mp h with h | ⟨hnone, h⟩
    · exact descent_of_least (fun k c' => mem_fieldComplaints) hkeys h
    · -- The keys come last: with a part to blame they are not looked at.
      obtain ⟨names, rfl⟩ := eq_of_unknownKeys? h
      refine .stop fun step c' hblames => ?_
      obtain ⟨s, u, hpart, -⟩ := id hblames
      obtain ⟨k, rfl⟩ := hkeys step s u hpart
      have hm := mem_fieldComplaints.mpr hblames
      rw [least_eq_none_iff.mp hnone] at hm
      exact absurd hm List.not_mem_nil
  · next hne =>
    refine descent_of_no_parts ?_ (eq_of_unsuitable h)
    rintro step s u (_ | ⟨-, t, rfl, -⟩)
    exact hne _ rfl

theorem descent_of_table {entry : Shape} (hv : v.Loaded)
    (h : (table entry).complaint? v = some c) : (table entry).Descent v c := by
  unfold complaint? at h
  split at h
  · obtain ⟨t, ht, -⟩ := hv.exists_table
    obtain rfl := (Value.mapping.inj ht).2
    refine descent_of_least (fun k c' => mem_entryComplaints) ?_ h
    rintro step s u (_ | _ | _)
    exact ⟨_, rfl⟩
  · next hne =>
    refine descent_of_no_parts ?_ (eq_of_unsuitable h)
    rintro step s u (_ | _ | ⟨t, rfl, -⟩)
    exact hne _ rfl

/-- One step of the descent, for each kind of shape. -/
theorem complaint_descent (hv : v.Loaded) (h : shape.complaint? v = some c) :
    shape.Descent v c := by
  cases shape with
  | text =>
    have hparts : ∀ step s u, ¬text.Part v step s u := by
      rintro step s u ⟨⟩
    unfold complaint? at h
    split at h
    · cases h
    · exact descent_of_no_parts hparts (Option.some.inj h).symm
  | integer =>
    have hparts : ∀ step s u, ¬integer.Part v step s u := by
      rintro step s u ⟨⟩
    unfold complaint? at h
    split at h
    · split at h
      · cases h
      · exact descent_of_no_parts hparts (Option.some.inj h).symm
    · exact descent_of_no_parts hparts (Option.some.inj h).symm
  | list item =>
    unfold complaint? at h
    split at h
    · exact descent_of_firstItem h
    · next hne =>
      refine descent_of_no_parts ?_ (eq_of_unsuitable h)
      rintro step s u ⟨-⟩
      exact hne _ rfl
  | closed fields => exact descent_of_closed hv h
  | table entry => exact descent_of_table hv h

theorem Part.blames (h : shape.Part v step s u) (hv : v.Loaded) (hu : ¬s.Conforms u) :
    ∃ c, shape.Blames v step c := by
  rw [conforms_iff_fits (h.loaded hv), Fits, ← ne_eq, Option.ne_none_iff_exists'] at hu
  obtain ⟨c, hc⟩ := hu
  exact ⟨c, s, u, h, hc⟩

theorem Culprit.not_conforms (h : shape.Culprit v path u) : ¬shape.Conforms v := by
  obtain ⟨s, hat, hu, -⟩ := h
  exact hat.not_conforms hu

theorem Culprit.under (hpart : shape.Part v step s u) {w : Value} (h : s.Culprit u path w) :
    shape.Culprit v (step :: path) w := by
  obtain ⟨r, hat, hw⟩ := h
  exact ⟨r, .under hpart hat, hw⟩

/-- A culprit is the value itself, none of whose parts is one, or one in a part. -/
theorem culprit_cases {w : Value} (h : shape.Culprit v path w) :
    (path = [] ∧ w = v ∧ ∀ step s u, shape.Part v step s u → s.Conforms u) ∨
      ∃ step rest s u, path = step :: rest ∧ shape.Part v step s u ∧ s.Culprit u rest w := by
  obtain ⟨r, hat, hw, hparts⟩ := h
  cases hat with
  | here => exact Or.inl ⟨rfl, rfl, hparts⟩
  | under hpart hat => exact Or.inr ⟨_, _, _, _, rfl, hpart, r, hat, hw, hparts⟩

/-- A culprit with no other one before it: paths are compared step by step. -/
structure First (shape : Shape) (v : Value) (path : List Step) (u : Value) : Prop where
  culprit : shape.Culprit v path u
  least : ∀ path' u', shape.Culprit v path' u' → path' = path ∧ u' = u ∨ path < path'

theorem first_of_descent (hv : v.Loaded) (hs : shape.Unambiguous)
    (hbad : ¬shape.Conforms v) (h : shape.Descent v c)
    (ih : ∀ step s u c', shape.Part v step s u → s.complaint? u = some c' →
      s.First u c'.path c'.value) : shape.First v c.path c.value := by
  cases h with
  | stop hnone =>
    have hparts : ∀ step s u, shape.Part v step s u → s.Conforms u := by
      intro step s u hpart
      by_contra hu
      obtain ⟨c', hblames⟩ := hpart.blames hv hu
      exact hnone step c' hblames
    refine ⟨⟨shape, .here, hbad, hparts⟩, fun path' u' h' => ?_⟩
    rcases culprit_cases h' with ⟨rfl, rfl, -⟩ | ⟨step, rest, s, u, rfl, hpart, hrest⟩
    · exact Or.inl ⟨rfl, rfl⟩
    · exact absurd (hparts step s u hpart) hrest.not_conforms
  | @down step c' hblames hfirst =>
    obtain ⟨s, u, hpart, hc'⟩ := id hblames
    obtain ⟨hculprit, hleast⟩ := ih step s u c' hpart hc'
    refine ⟨hculprit.under hpart, fun path' u' h' => ?_⟩
    -- Any culprit is below a part that is blamed; only below the same part are rests compared.
    rcases culprit_cases h' with ⟨rfl, rfl, hparts⟩ | ⟨step', rest, s', w, rfl, hpart', hrest⟩
    · exact absurd (hparts step s u hpart) hculprit.not_conforms
    · obtain ⟨c'', hblames'⟩ := hpart'.blames hv hrest.not_conforms
      rcases hfirst step' c'' hblames' with rfl | hlt
      · obtain ⟨rfl, rfl⟩ := hpart.unique hs hpart'
        rcases hleast rest u' hrest with ⟨rfl, rfl⟩ | hlt
        · exact Or.inl ⟨rfl, rfl⟩
        · exact Or.inr (List.Lex.cons hlt)
      · exact Or.inr (List.Lex.rel hlt)

/-- From what one step of the descent does, by induction on the parts of the value. -/
theorem first_of_complaint (hv : v.Loaded) (hs : shape.Unambiguous)
    (h : shape.complaint? v = some c) : shape.First v c.path c.value := by
  refine parts_induction (P := fun v => ∀ (shape : Shape) (c : Complaint), shape.Unambiguous →
    shape.complaint? v = some c → shape.First v c.path c.value) ?_ hv shape c hs h
  intro v hv ih shape c hs h
  have hbad : ¬shape.Conforms v := by
    rw [conforms_iff_fits hv, Fits, h]
    exact Option.some_ne_none c
  refine first_of_descent hv hs hbad (complaint_descent hv h) ?_
  exact fun step s u c' hpart hc' => ih shape step s u hpart s c' (hpart.unambiguous hs) hc'

/-- The message begins with the path. -/
theorem exists_message {message : String} (h : c.message = .ok message) :
    ∃ told, message = "/" ++ "/".intercalate (c.path.map Step.text) ++ ": " ++ told := by
  unfold Complaint.message at h
  cases hd : c.defectMessage with
  | error f =>
    rw [hd] at h
    exact nomatch h
  | ok told =>
    rw [hd] at h
    exact ⟨told, (Except.ok.inj h).symm⟩

end GraphTemplate.Shape

namespace GraphTemplate.Document

open Shape (Step)

variable {v : Value}

theorem ofValue_eq_shape {c : Shape.Complaint} {message : String} (hv : v ≠ .null)
    (hc : Shape.document.complaint? v = some c) (hm : c.message = .ok message) :
    ofValue v = .error (.shape message) := by
  unfold ofValue
  split
  · exact absurd rfl hv
  · rw [hc]
    dsimp only
    rw [hm]

/-- Data with a complaint is reported with the path of its first culprit. Whatever place of the data
has not the shape that it should have, there is a complaint, and the data makes no document; only
nothing at all, which is no mapping either, is taken for an empty document. -/
theorem ofValue_blames_first (hv : v.Loaded) :
    (∀ c, Shape.document.complaint? v = some c →
      Shape.document.First v c.path c.value ∧
        (v ≠ .null → v.written = [] → ∃ told, ofValue v = .error (.shape
          ("/" ++ "/".intercalate (c.path.map Step.text) ++ ": " ++ told)))) ∧
      ∀ path s u, Shape.document.At v path s u → ¬s.Conforms u →
        (∃ c, Shape.document.complaint? v = some c) ∧
          (∃ path' u', Shape.document.First v path' u') ∧ (v ≠ .null → ∀ d, ofValue v ≠ .ok d) := by
  have hfirst : ∀ c, Shape.document.complaint? v = some c →
      Shape.document.First v c.path c.value :=
    fun c hc => Shape.first_of_complaint hv Shape.unambiguous_document hc
  refine ⟨fun c hc => ⟨hfirst c hc, fun hnull hw => ?_⟩, fun path s u hat hu => ?_⟩
  · obtain ⟨message, hm⟩ := Shape.message_ok hw hc
    obtain ⟨told, rfl⟩ := Shape.exists_message hm
    exact ⟨told, ofValue_eq_shape hnull hc hm⟩
  · have hbad := hat.not_conforms hu
    rw [Shape.conforms_iff_fits hv, Shape.Fits, ← ne_eq, Option.ne_none_iff_exists'] at hbad
    obtain ⟨c, hc⟩ := hbad
    refine ⟨⟨c, hc⟩, ⟨_, _, hfirst c hc⟩, fun hnull d hd => ?_⟩
    have hfits : Shape.document.complaint? v = none := ((ofValue_eq_ok_iff hnull).mp hd).1
    exact Option.some_ne_none c (hc.symm.trans hfits)

def faultyNodes : Value :=
  .ofTable ⟨[("b", .text "x"), ("a", .ofTable ⟨[("labels", .sequence .list
    [.text "l", .sequence .list [], .text "m", .ofTable .empty]), ("colour", .text "red")],
    by decide⟩)], by decide⟩

def faultyData : Value := .ofTable ⟨[("nodes", faultyNodes), ("links", .text "")], by decide⟩

theorem loaded_faultyData : faultyData.Loaded := by
  have hlabels : (Value.sequence .list
      [.text "l", .sequence .list [], .text "m", .ofTable .empty]).Loaded := by
    refine .list ?_
    simp only [List.forall_mem_cons]
    exact ⟨.scalar rfl, .list (List.forall_mem_nil _), .scalar rfl,
      .table (List.forall_mem_nil _), List.forall_mem_nil _⟩
  have hnodes : faultyNodes.Loaded := by
    refine .table (List.forall_mem_cons.mpr ⟨Value.loaded_text _, ?_⟩)
    refine List.forall_mem_singleton.mpr (.table ?_)
    exact List.forall_mem_cons.mpr ⟨hlabels, List.forall_mem_singleton.mpr (.scalar rfl)⟩
  exact .table (List.forall_mem_cons.mpr ⟨hnodes, List.forall_mem_singleton.mpr (.scalar rfl)⟩)

theorem first_faultyData :
    faultyData.Loaded ∧ Shape.document.First faultyData
      [.key "nodes", .key "a", .key "labels", .index 1] (.sequence .list []) ∧
      (∃ told, ofValue faultyData = .error (.shape ("/nodes/a/labels/1: " ++ told))) := by
  have hc : Shape.document.complaint? faultyData = some ⟨[.key "nodes", .key "a", .key "labels",
      .index 1], .sequence .list [], .notText⟩ := by
    simp [Shape.document, Shape.complaint?, Shape.fieldComplaints, Shape.entryComplaints,
      Shape.firstItem, Shape.field?, Shape.least, Shape.Complaint.under, Shape.isEmptyText,
      faultyData, faultyNodes, Value.ofTable]
  obtain ⟨hfirst, htold⟩ := (ofValue_blames_first loaded_faultyData).1 _ hc
  exact ⟨loaded_faultyData, hfirst, htold (fun h => Value.noConfusion h) (by decide +kernel)⟩

end GraphTemplate.Document
