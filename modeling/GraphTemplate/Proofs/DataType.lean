import GraphTemplate.DataType

/-! Descriptors and their texts. No name in a text has a dash, so that the pieces of a text are the
names it was put together from; and the pieces of any text make up that text again. -/
namespace GraphTemplate

theorem Scalar.dash_not_mem_name (s : Scalar) : '-' ∉ s.name.toList := by
  cases s <;> decide

namespace Descriptor

theorem pieces_eq_singleton {cs : List Char} (h : '-' ∉ cs) : pieces cs = [cs] := by
  induction cs with
  | nil => rfl
  | cons c cs ih =>
    rw [List.mem_cons, not_or] at h
    rw [pieces, if_neg (Ne.symm h.1), ih h.2]

theorem pieces_append_dash {cs : List Char} (h : '-' ∉ cs) (rest : List Char) :
    pieces (cs ++ '-' :: rest) = cs :: pieces rest := by
  induction cs with
  | nil => rw [List.nil_append, pieces, if_pos rfl]
  | cons c cs ih =>
    rw [List.mem_cons, not_or] at h
    rw [List.cons_append, pieces, if_neg (Ne.symm h.1), ih h.2]

theorem pieces_intercalate {ps : List (List Char)} (hne : ps ≠ []) (h : ∀ p ∈ ps, '-' ∉ p) :
    pieces (['-'].intercalate ps) = ps := by
  induction ps with
  | nil => exact absurd rfl hne
  | cons p ps ih =>
    obtain ⟨hp, hps⟩ := List.forall_mem_cons.mp h
    cases ps with
    | nil => rw [List.intercalate_singleton, pieces_eq_singleton hp]
    | cons q qs =>
      rw [List.intercalate_cons_cons, List.append_assoc, List.singleton_append,
        pieces_append_dash hp, ih (List.cons_ne_nil q qs) hps]

theorem intercalate_pieces (cs : List Char) : ['-'].intercalate (pieces cs) = cs := by
  induction cs with
  | nil => rfl
  | cons c cs ih =>
    obtain ⟨p, ps, hps⟩ := List.exists_cons_of_ne_nil (pieces_ne_nil cs)
    rw [hps] at ih
    by_cases hc : c = '-'
    · subst hc
      rw [pieces, if_pos rfl, hps, List.intercalate_cons_cons, ih]
      rfl
    · rw [pieces, if_neg hc, hps]
      cases ps with
      | nil =>
        rw [List.intercalate_singleton] at ih ⊢
        rw [ih]
      | cons q qs =>
        rw [List.intercalate_cons_cons] at ih ⊢
        rw [← ih]
        rfl

def names : Descriptor → List String
  | undefined => ["null"]
  | scalar s => [s.name]
  | array item => ["array", item.name]
  | map key value => ["map", key.name, value.name]

theorem names_ne_nil (d : Descriptor) : d.names ≠ [] := by
  cases d <;> exact List.cons_ne_nil _ _

theorem dash_not_mem_names (d : Descriptor) : ∀ n ∈ d.names, '-' ∉ n.toList := by
  cases d <;> simp only [names, List.forall_mem_cons, List.not_mem_nil, false_imp_iff,
    implies_true, and_true]
  case undefined => decide
  case scalar s => exact s.dash_not_mem_name
  case array item => exact ⟨by decide, item.dash_not_mem_name⟩
  case map key value => exact ⟨by decide, key.dash_not_mem_name, value.dash_not_mem_name⟩

theorem toList_text (d : Descriptor) :
    d.text.toList = ['-'].intercalate (d.names.map String.toList) := by
  cases d with
  | undefined => rfl
  | scalar s => exact List.intercalate_singleton.symm
  | array item =>
    rw [text, String.toList_append, names, List.map_cons, List.map_singleton,
      List.intercalate_cons_cons, List.intercalate_singleton]
    rfl
  | map key value =>
    rw [text, String.toList_append, String.toList_append, String.toList_append, names,
      List.map_cons, List.map_cons, List.map_singleton, List.intercalate_cons_cons,
      List.intercalate_cons_cons, List.intercalate_singleton]
    simp only [List.append_assoc]
    rfl

theorem pieces_text (d : Descriptor) : pieces d.text.toList = d.names.map String.toList := by
  rw [toList_text]
  refine pieces_intercalate (mt List.map_eq_nil_iff.mp d.names_ne_nil) ?_
  intro p hp
  obtain ⟨n, hn, rfl⟩ := List.mem_map.mp hp
  exact d.dash_not_mem_names n hn

theorem ofPieces_names {d : Descriptor} (h : d ≠ .undefined) (s : String) :
    ofPieces s d.names = .ok d := by
  cases d with
  | undefined => exact absurd rfl h
  | scalar t | array t =>
    simp only [names, ofPieces]
    rw [Scalar.ofName?_name]
    rfl
  | map k v =>
    simp only [names, ofPieces]
    rw [Scalar.ofName?_name, Scalar.ofName?_name]
    rfl

theorem names_of_ofPieces {s : String} {ps : List String} {d : Descriptor}
    (h : ofPieces s ps = .ok d) : d ≠ .undefined ∧ d.names = ps := by
  unfold ofPieces at h
  split at h
  · exact nomatch h
  · next base subtypes =>
    split at h
    · next t ht =>
      split at h
      · next hempty =>
        obtain rfl := Except.ok.inj h
        rw [List.isEmpty_iff.mp hempty, ← Scalar.name_of_ofName? ht]
        exact ⟨nofun, rfl⟩
      · exact nomatch h
    · split at h
      · next hbase =>
        split at h
        · split at h
          · next t ht =>
            obtain rfl := Except.ok.inj h
            rw [eq_of_beq hbase, ← Scalar.name_of_ofName? ht]
            exact ⟨nofun, rfl⟩
          · exact nomatch h
        · exact nomatch h
      · split at h
        · next hbase =>
          split at h
          · split at h
            · next k v hk hv =>
              obtain rfl := Except.ok.inj h
              rw [eq_of_beq hbase, ← Scalar.name_of_ofName? hk, ← Scalar.name_of_ofName? hv]
              exact ⟨nofun, rfl⟩
            all_goals exact nomatch h
          · exact nomatch h
        · exact nomatch h

/-- Every data type that can be described is read from its own text. -/
theorem read_text {d : Descriptor} (h : d ≠ .undefined) : read d.text = .ok d := by
  have hofList : String.ofList ∘ String.toList = id := funext fun _ => String.ofList_toList
  rw [read, pieces_text, List.map_map, hofList, List.map_id]
  exact ofPieces_names h _

theorem ne_undefined_of_read {s : String} {d : Descriptor} (h : read s = .ok d) :
    d ≠ .undefined :=
  (names_of_ofPieces h).1

theorem text_of_read {s : String} {d : Descriptor} (h : read s = .ok d) : d.text = s := by
  have hnames : d.names.map String.toList = pieces s.toList := by
    have htoList : String.toList ∘ String.ofList = id := funext fun _ => String.toList_ofList
    rw [(names_of_ofPieces h).2, List.map_map, htoList, List.map_id]
  apply String.toList_injective
  rw [toList_text, hnames, intercalate_pieces]

theorem read_eq_ok_iff {s : String} {d : Descriptor} :
    read s = .ok d ↔ d ≠ .undefined ∧ d.text = s :=
  ⟨fun h => ⟨ne_undefined_of_read h, text_of_read h⟩, fun ⟨h, hs⟩ => hs ▸ read_text h⟩

inductive Describes : String → Descriptor → Prop
  | scalar (t : Scalar) : Describes t.name (.scalar t)
  | array (item : Scalar) : Describes ("array-" ++ item.name) (.array item)
  | map (key value : Scalar) :
      Describes ("map-" ++ key.name ++ "-" ++ value.name) (.map key value)

theorem describes_iff {s : String} {d : Descriptor} :
    Describes s d ↔ d ≠ .undefined ∧ d.text = s := by
  constructor
  · rintro (_ | _ | _)
    all_goals exact ⟨nofun, rfl⟩
  · rintro ⟨h, rfl⟩
    cases d with
    | undefined => exact absurd rfl h
    | scalar t => exact .scalar t
    | array item => exact .array item
    | map key value => exact .map key value

/-- Just the texts of data types are read, each as what it describes and what has that text again;
from the text of a data type comes that data type; and any other text is refused. -/
theorem read_text_inverse :
    (∀ s d, read s = .ok d ↔ Describes s d) ∧ (∀ s d, read s = .ok d → d.text = s) ∧
      (∀ d, d ≠ .undefined → read d.text = .ok d) ∧
      ∀ s, (∀ d, ¬Describes s d) → ∃ e, read s = .error e := by
  have hiff : ∀ s d, read s = .ok d ↔ Describes s d :=
    fun s d => read_eq_ok_iff.trans describes_iff.symm
  refine ⟨hiff, fun s d => text_of_read, fun d => read_text, fun s hs => ?_⟩
  cases h : read s with
  | ok d => exact absurd ((hiff s d).mp h) (hs d)
  | error e => exact ⟨e, rfl⟩

end Descriptor

end GraphTemplate
