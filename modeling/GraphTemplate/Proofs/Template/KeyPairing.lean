import GraphTemplate.Proofs.Template.Acceptance
import GraphTemplate.Proofs.Template.RuleTable

/-! Which keys are paired with which, and what is told of the keys that are not. A declared key is
for its lowercase form only if no later one has that form too; a key of the data is one too many if
no declared key has its form, or if an earlier key of the data has it. -/
namespace GraphTemplate

namespace Violation.KeysMismatch

def Suits (extra missing : List String) : KeysMismatch → Prop
  | .extra => extra ≠ [] ∧ missing = []
  | .missing => extra = [] ∧ missing ≠ []
  | .both => extra ≠ [] ∧ missing ≠ []

theorem of_eq_iff {extra missing : List String} (h : extra ≠ [] ∨ missing ≠ [])
    (mismatch : KeysMismatch) : of extra missing = mismatch ↔ mismatch.Suits extra missing := by
  cases extra <;> cases missing <;> cases mismatch <;> simp_all [of, Suits]

end Violation.KeysMismatch

namespace PropertyKeys

variable {names texts : List String} {form text d : String}

def lastOf (names : List String) (form : String) : Option String :=
  (names.filter fun d => lowercase d = form).getLast?

theorem get?_declared_eq_lastOf (names : List String) (form : String) :
    (declared names).get? form = lastOf names form := by
  induction names using List.reverseRecOn with
  | nil => rfl
  | append_singleton names d ih =>
    rw [get?_declared_append, ih, lastOf, lastOf, List.filter_append]
    by_cases h : form = lowercase d
    · simp [h]
    · have hd : ¬lowercase d = form := fun he => h he.symm
      simp [h, hd]

theorem lowercase_of_lastOf (h : lastOf names form = some d) : lowercase d = form := by
  have hd := List.mem_of_getLast? h
  simpa using (List.mem_filter.mp hd).2

theorem isSome_lastOf_iff : (lastOf names form).isSome = true ↔ form ∈ names.map lowercase := by
  rw [lastOf, List.getLast?_isSome, ne_eq, List.filter_eq_nil_iff]
  simp

/-- The texts, in their order, that no declared key has the form of or an earlier text has. -/
def surplus (names texts : List String) : List String :=
  (texts.zipIdx.filter fun x => lowercase x.1 ∉ names.map lowercase ∨
    lowercase x.1 ∈ (texts.take x.2).map lowercase).map Prod.fst

theorem surplus_append (names texts : List String) (text : String) :
    surplus names (texts ++ [text]) = surplus names texts ++
      if lowercase text ∉ names.map lowercase ∨ lowercase text ∈ texts.map lowercase then [text]
      else [] := by
  have hold : (texts.zipIdx.filter fun x => lowercase x.1 ∉ names.map lowercase ∨
      lowercase x.1 ∈ ((texts ++ [text]).take x.2).map lowercase) =
        texts.zipIdx.filter fun x => lowercase x.1 ∉ names.map lowercase ∨
          lowercase x.1 ∈ (texts.take x.2).map lowercase := by
    refine List.filter_congr fun x hx => ?_
    have hlt := (List.mem_zipIdx hx).2.1
    rw [List.take_append_of_le_length (by omega)]
  unfold surplus
  rw [List.zipIdx_append, List.filter_append, hold, List.map_append]
  congr 1
  by_cases h : lowercase text ∉ names.map lowercase ∨ lowercase text ∈ texts.map lowercase
  · rw [if_pos h]
    simp_all
  · rw [if_neg h]
    simp_all

/-- Texts of different forms, which are the forms of the declared keys. -/
structure Covers (names texts : List String) : Prop where
  apart : (texts.map lowercase).Nodup
  forms : ∀ form, form ∈ texts.map lowercase ↔ form ∈ names.map lowercase

/-- Every key is paired with the last declared key of the form of its text, no two keys are paired
with one, and every last declared key of a form is paired. -/
structure Assigns (names : List String) (keys : List Value) (texts : List String)
    (pairs : List (Value × String)) : Prop where
  keys : pairs.map Prod.fst = keys
  form : List.Forall₂ (fun text pair => lastOf names (lowercase text) = some pair.2) texts pairs
  injective : (pairs.map Prod.snd).Nodup
  onto : ∀ d, d ∈ pairs.map Prod.snd ↔ ∃ form, lastOf names form = some d

/-- The last declared keys of the forms that no text has, in their order. -/
structure Lacks (names texts missing : List String) : Prop where
  ordered : missing.Pairwise (· < ·)
  mem : ∀ d, d ∈ missing ↔ ∃ form, form ∉ texts.map lowercase ∧ lastOf names form = some d

section

variable {keys : List (Value × String)}

theorem forms_eq_map (keys : List (Value × String)) :
    forms keys = (keys.map Prod.snd).map lowercase := by
  rw [List.map_map]
  rfl

theorem free_eq_some_iff :
    (keys.foldl State.assign ⟨declared names, [], []⟩).free.get? form = some d ↔
      form ∉ (keys.map Prod.snd).map lowercase ∧ lastOf names form = some d := by
  rw [get?_free_foldl, get?_declared_eq_lastOf, forms_eq_map]
  by_cases h : form ∈ (keys.map Prod.snd).map lowercase
  · rw [if_pos h]
    exact iff_of_false (fun hd => nomatch hd) fun hd => hd.1 h
  · rw [if_neg h]
    exact ⟨fun hd => ⟨h, hd⟩, And.right⟩

theorem free_eq_none_iff :
    (keys.foldl State.assign ⟨declared names, [], []⟩).free.get? form = none ↔
      form ∉ names.map lowercase ∨ form ∈ (keys.map Prod.snd).map lowercase := by
  rw [Option.eq_none_iff_forall_ne_some, ← isSome_lastOf_iff, Option.isSome_iff_exists]
  simp only [ne_eq, free_eq_some_iff]
  constructor
  · intro h
    by_cases hform : form ∈ (keys.map Prod.snd).map lowercase
    · exact .inr hform
    · exact .inl fun ⟨d, hd⟩ => h d ⟨hform, hd⟩
  · rintro (h | h) d ⟨hform, hd⟩
    · exact h ⟨d, hd⟩
    · exact hform h

theorem extra_foldl (names : List String) (keys : List (Value × String)) :
    (keys.foldl State.assign ⟨declared names, [], []⟩).extra =
      surplus names (keys.map Prod.snd) := by
  induction keys using List.reverseRecOn with
  | nil => rfl
  | append_singleton keys key ih =>
    rw [List.foldl_append, List.map_append, List.map_singleton, surplus_append, ← ih]
    show (State.assign _ key).extra = _
    rw [State.assign]
    cases h : (keys.foldl State.assign ⟨declared names, [], []⟩).free.get? (lowercase key.2) with
    | none => rw [if_pos (free_eq_none_iff.mp h)]
    | some d =>
      rw [if_neg, List.append_nil]
      intro hnone
      rw [free_eq_none_iff.mpr hnone] at h
      cases h

theorem lacks_free (names : List String) (keys : List (Value × String)) :
    Lacks names (keys.map Prod.snd)
      (sorted (keys.foldl State.assign ⟨declared names, [], []⟩).free.values) where
  ordered := by
    have hform form d (h : _ = some d) : lowercase d = form :=
      lowercase_of_lastOf (@free_eq_some_iff names form d keys |>.mp h).2
    have hnodup := NameTable.nodup_values lowercase hform
    have hsorted := (perm_sorted _).nodup_iff.mpr hnodup
    exact ((pairwise_sorted _).and hsorted).imp fun h => lt_of_le_of_ne h.1 h.2
  mem d := by
    rw [(perm_sorted _).mem_iff, NameTable.mem_values_iff]
    simp only [free_eq_some_iff]

theorem covers_iff : Covers names (keys.map Prod.snd) ↔
    (forms keys).Nodup ∧
      (∀ form ∈ forms keys, ((declared names).get? form).isSome = true) ∧
        ∀ form d, (declared names).get? form = some d → form ∈ forms keys := by
  simp only [get?_declared_eq_lastOf, isSome_lastOf_iff, forms_eq_map]
  constructor
  · rintro ⟨hapart, hforms⟩
    refine ⟨hapart, fun form h => (hforms form).mp h, fun form d hd => ?_⟩
    apply (hforms form).mpr
    rw [← isSome_lastOf_iff, hd]
    rfl
  · rintro ⟨hapart, hmem, hall⟩
    refine ⟨hapart, fun form => ⟨hmem form, fun h => ?_⟩⟩
    obtain ⟨d, hd⟩ := Option.isSome_iff_exists.mp (isSome_lastOf_iff.mpr h)
    exact hall form d hd

theorem assigns_of_covers (h : Covers names (keys.map Prod.snd)) :
    Assigns names (keys.map Prod.fst) (keys.map Prod.snd)
      (keys.map fun key => (key.1, (lastOf names (lowercase key.2)).getD "")) := by
  have hlast : ∀ key ∈ keys, lastOf names (lowercase key.2) =
      some ((lastOf names (lowercase key.2)).getD "") := by
    intro key hkey
    have hform : lowercase key.2 ∈ names.map lowercase :=
      (h.forms _).mp (List.mem_map_of_mem (List.mem_map_of_mem hkey))
    obtain ⟨d, hd⟩ := Option.isSome_iff_exists.mp (isSome_lastOf_iff.mpr hform)
    simp [hd]
  refine ⟨by simp, ?_, ?_, fun d => ?_⟩
  · rw [List.forall₂_map_left_iff, List.forall₂_map_right_iff, List.forall₂_same]
    exact hlast
  · -- A declared key tells the form that it is the last of, and the forms differ.
    have hforms : ((keys.map fun key => (lastOf names (lowercase key.2)).getD "").map lowercase) =
        (keys.map Prod.snd).map lowercase := by
      rw [List.map_map, List.map_map]
      exact List.map_congr_left fun key hkey => lowercase_of_lastOf (hlast key hkey)
    rw [List.map_map]
    exact List.Nodup.of_map lowercase (hforms ▸ h.apart)
  · rw [List.map_map]
    constructor
    · intro hd
      obtain ⟨key, hkey, rfl⟩ := List.mem_map.mp hd
      exact ⟨_, hlast key hkey⟩
    · rintro ⟨form, hd⟩
      have hform : form ∈ (keys.map Prod.snd).map lowercase := by
        apply (h.forms form).mpr
        rw [← isSome_lastOf_iff, hd]
        rfl
      rw [List.map_map] at hform
      obtain ⟨key, hkey, rfl⟩ := List.mem_map.mp hform
      refine List.mem_map.mpr ⟨key, hkey, ?_⟩
      show (lastOf names (lowercase key.2)).getD "" = d
      have hd' : lastOf names (lowercase key.2) = some d := hd
      rw [hd']
      rfl

theorem pairing_of_not_covers (htext : ∀ key ∈ keys, key.1.toText = .ok key.2)
    (hk : keys.Pairwise fun key other => key.1.sameKey other.1 = false)
    (h : ¬Covers names (keys.map Prod.snd)) :
    ∃ missing, Lacks names (keys.map Prod.snd) missing ∧
      (surplus names (keys.map Prod.snd) ≠ [] ∨ missing ≠ []) ∧
      pairing names (keys.map Prod.fst) =
        Check.violated (.keys (surplus names (keys.map Prod.snd)) missing) := by
  refine ⟨_, lacks_free names keys, ?_⟩
  have hp := @pairing_of_texts names keys htext
  dsimp only at hp
  rw [extra_foldl] at hp
  split at hp
  · exact absurd (covers_iff.mpr ((pairing_eq_ok_iff htext hk).mp hp).1) h
  · next hne =>
    refine ⟨?_, hp⟩
    rw [not_and_or] at hne
    refine hne.imp_right fun hvalues hsorted => hvalues ?_
    rwa [← List.isEmpty_iff, sorted_isEmpty, List.isEmpty_iff] at hsorted

end

theorem foldlM_step_of_error {keys : List Value} {s : State} {f : Fault}
    (h : keys.mapM Value.toText = .error f) : keys.foldlM step s = .error f := by
  induction keys generalizing s with
  | nil => cases h
  | cons key keys ih =>
    rw [List.mapM_cons] at h
    rw [List.foldlM_cons]
    cases ht : key.toText with
    | error g =>
      have hs : step s key = .error g := by rw [step, ht]; rfl
      rw [ht] at h
      rw [hs]
      obtain rfl := Except.error.inj h
      rfl
    | ok text =>
      rw [ht] at h
      rw [@step_of_toText s (key, text) ht]
      apply ih
      cases hm : keys.mapM Value.toText with
      | error g =>
        rw [hm] at h
        obtain rfl := Except.error.inj h
        rfl
      | ok texts =>
        rw [hm] at h
        cases h

theorem shown_of_mapM {keys : List Value} {texts : List String}
    (h : keys.mapM Value.toText = .ok texts) :
    (∀ key ∈ keys, ∃ text, key.toText = .ok text) ∧ texts = (shown keys).map Prod.snd := by
  induction keys generalizing texts with
  | nil =>
    obtain rfl := Except.ok.inj h
    exact ⟨fun _ hkey => absurd hkey List.not_mem_nil, rfl⟩
  | cons key keys ih =>
    rw [List.mapM_cons] at h
    cases ht : key.toText with
    | error f =>
      rw [ht] at h
      exact nomatch h
    | ok text =>
      cases hm : keys.mapM Value.toText with
      | error f =>
        rw [ht, hm] at h
        exact nomatch h
      | ok rest =>
        rw [ht, hm] at h
        obtain rfl := Except.ok.inj h
        obtain ⟨htold, rfl⟩ := ih hm
        refine ⟨List.forall_mem_cons.mpr ⟨⟨text, ht⟩, htold⟩, ?_⟩
        simp [shown, ht, Except.toOption]

/-- Keys that are told apart are all paired just if their texts have different forms, which are
those of the declared keys. If not, the violation has the texts that are one too many, and the
declared keys that none is for. -/
theorem pairing_outcome (names : List String) {keys : List Value}
    (hk : keys.Pairwise fun key other => key.sameKey other = false) :
    (∀ f, keys.mapM Value.toText = .error f → pairing names keys = .error (.fault f)) ∧
    ∀ texts, keys.mapM Value.toText = .ok texts →
      ((∃ pairs, pairing names keys = .ok pairs) ↔ Covers names texts) ∧
      (∀ pairs, pairing names keys = .ok pairs → Assigns names keys texts pairs) ∧
      (¬Covers names texts → ∃ missing, Lacks names texts missing ∧
        pairing names keys = Check.violated (.keys (surplus names texts) missing) ∧
        ∀ mismatch, Violation.KeysMismatch.of (surplus names texts) missing = mismatch ↔
          mismatch.Suits (surplus names texts) missing) := by
  constructor
  · intro f hf
    unfold pairing
    rw [foldlM_step_of_error hf]
    rfl
  · intro texts ht
    obtain ⟨htold, rfl⟩ := shown_of_mapM ht
    have htext := toText_of_mem_shown htold
    have hdiff : (shown keys).Pairwise fun key other => key.1.sameKey other.1 = false :=
      List.pairwise_map.mpr hk
    have hiff pairs := @pairing_eq_ok_iff names _ pairs htext hdiff
    have hnot := @pairing_of_not_covers names _ htext hdiff
    simp only [← covers_iff] at hiff
    simp only [map_fst_shown, get?_declared_eq_lastOf] at hiff hnot
    refine ⟨⟨?_, ?_⟩, ?_, ?_⟩
    · rintro ⟨pairs, hp⟩
      exact ((hiff pairs).mp hp).1
    · intro hcovers
      exact ⟨_, (hiff _).mpr ⟨hcovers, rfl⟩⟩
    · intro pairs hp
      obtain ⟨hcovers, rfl⟩ := (hiff pairs).mp hp
      have h := assigns_of_covers hcovers
      rwa [map_fst_shown] at h
    · intro hcovers
      obtain ⟨missing, hlacks, hne, hp⟩ := hnot hcovers
      exact ⟨missing, hlacks, hp, Violation.KeysMismatch.of_eq_iff hne⟩

theorem pairing_crossed :
    ([.text "B", .int 3, .text "b"] : List Value).Pairwise
        (fun key other => key.sameKey other = false) ∧
      ∃ missing, Lacks ["a", "A", "b"] ["B", "3", "b"] missing ∧
        pairing ["a", "A", "b"] [.text "B", .int 3, .text "b"] =
          Check.violated (.keys ["3", "b"] missing) ∧
        Violation.KeysMismatch.of ["3", "b"] missing = .both := by
  have hkeys : ([.text "B", .int 3, .text "b"] : List Value).Pairwise
      fun key other => key.sameKey other = false := by
    simp only [List.pairwise_cons, Value.sameKey]
    decide
  obtain ⟨-, -, hnot⟩ :=
    (pairing_outcome ["a", "A", "b"] hkeys).2 ["B", "3", "b"] (by decide +kernel)
  have hsurplus : surplus ["a", "A", "b"] ["B", "3", "b"] = ["3", "b"] := by decide +kernel
  rw [hsurplus] at hnot
  obtain ⟨missing, hlacks, hp, hkind⟩ := hnot fun h => absurd h.apart (by decide +kernel)
  -- The form that only "a" and "A" have is no text's, so the later of the two is missing.
  have hmem : "A" ∈ missing :=
    (hlacks.mem "A").mpr ⟨"a", by decide +kernel, by decide +kernel⟩
  exact ⟨hkeys, missing, hlacks, hp, (hkind .both).mpr ⟨by simp, List.ne_nil_of_mem hmem⟩⟩

end PropertyKeys

end GraphTemplate
