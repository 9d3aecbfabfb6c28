import GraphTemplate.Proofs.Build.Outcome
import GraphTemplate.Proofs.Template.Checks
import Mathlib.Data.List.Induction
import Mathlib.Data.List.Nodup
import Mathlib.Data.Set.Function

/-! Keys of data for declared ones. Of the declared keys with one lowercase form only the last can
be stood for, so data with a key for every declared key passes just if no two of those have one
form. -/
namespace GraphTemplate

namespace NameTable

variable {α : Type}

theorem lookup_filter_ne (es : List (String × α)) (name other : String) :
    (es.filter (·.1 != name)).lookup other = if other = name then none else es.lookup other := by
  induction es with
  | nil => exact (ite_self none).symm
  | cons e es ih =>
    rw [List.filter_cons, List.lookup_cons]
    by_cases hn : e.1 = name
    · rw [if_neg (by simpa using hn), ih]
      by_cases ho : other = name
      · rw [if_pos ho, if_pos ho]
      · rw [if_neg ho, if_neg ho, beq_eq_false_iff_ne.mpr (hn ▸ ho)]
    · rw [if_pos (by simpa using hn), List.lookup_cons, ih]
      by_cases he : other = e.1
      · have hne : other ≠ name := fun h => hn (he.symm.trans h)
        rw [if_neg hne, if_neg hne]
      · rw [beq_eq_false_iff_ne.mpr he]

theorem get?_erase (t : NameTable α) (name other : String) :
    (t.erase name).get? other = if other = name then none else t.get? other :=
  lookup_filter_ne t.entries name other

theorem values_eq_nil_iff {t : NameTable α} : t.values = [] ↔ ∀ name, t.get? name = none := by
  unfold values
  rw [List.map_eq_nil_iff]
  constructor
  · intro h name
    rw [get?, h]
    rfl
  · intro h
    rw [List.eq_nil_iff_forall_not_mem]
    intro e he
    exact nomatch (get?_eq_some_iff.mpr he).symm.trans (h e.1)

end NameTable

namespace PropertyKeys

variable {names keys : List String} {form key d : String} {s : State}

/-- The declared keys that no later one has the form of. -/
def enforced (names : List String) : Set String :=
  {d | ∃ earlier later, names = earlier ++ d :: later ∧
    ∀ d' ∈ later, lowercase d' ≠ lowercase d}

theorem get?_declared_append (names : List String) (d form : String) :
    (declared (names ++ [d])).get? form =
      if form = lowercase d then some d else (declared names).get? form := by
  unfold declared NameTable.ofList
  rw [List.map_append, List.foldl_append]
  exact NameTable.get?_insert _ _ _ _

theorem mem_enforced_append {d' : String} :
    d' ∈ enforced (names ++ [d]) ↔
      d' = d ∨ d' ∈ enforced names ∧ lowercase d' ≠ lowercase d := by
  constructor
  · rintro ⟨earlier, later, heq, hlater⟩
    rcases List.eq_nil_or_concat later with rfl | ⟨later, l, rfl⟩
    · obtain ⟨-, hd⟩ := List.append_inj' heq rfl
      exact .inl (List.singleton_inj.mp hd).symm
    · rw [List.concat_eq_append, ← List.cons_append, ← List.append_assoc] at heq
      obtain ⟨hnames, hd⟩ := List.append_inj' heq rfl
      rw [List.concat_eq_append, List.forall_mem_append] at hlater
      obtain rfl := List.singleton_inj.mp hd
      exact .inr ⟨⟨earlier, later, hnames, hlater.1⟩, (hlater.2 d List.mem_cons_self).symm⟩
  · rintro (rfl | ⟨⟨earlier, later, rfl, hlater⟩, hne⟩)
    · exact ⟨names, [], rfl, fun _ h => absurd h List.not_mem_nil⟩
    · refine ⟨earlier, later ++ [d], by rw [List.append_assoc, List.cons_append], ?_⟩
      rw [List.forall_mem_append]
      exact ⟨hlater, fun _ h => List.mem_singleton.mp h ▸ hne.symm⟩

theorem get?_declared :
    (declared names).get? form = some d ↔ d ∈ enforced names ∧ lowercase d = form := by
  induction names using List.reverseRecOn with
  | nil =>
    constructor
    · intro h
      exact nomatch h
    · rintro ⟨⟨earlier, later, h, -⟩, -⟩
      exact absurd h.symm (List.append_ne_nil_of_right_ne_nil _ (List.cons_ne_nil _ _))
  | append_singleton names l ih =>
    rw [get?_declared_append, mem_enforced_append]
    by_cases hf : form = lowercase l
    · subst hf
      rw [if_pos rfl, Option.some.injEq]
      constructor
      · rintro rfl
        exact ⟨.inl rfl, rfl⟩
      · rintro ⟨rfl | ⟨-, hne⟩, he⟩
        · rfl
        · exact absurd he hne
    · rw [if_neg hf, ih]
      constructor
      · rintro ⟨hd, rfl⟩
        exact ⟨.inr ⟨hd, hf⟩, rfl⟩
      · rintro ⟨rfl | ⟨hd, -⟩, rfl⟩
        · exact absurd rfl hf
        · exact ⟨hd, rfl⟩

theorem mem_of_enforced (h : d ∈ enforced names) : d ∈ names := by
  obtain ⟨earlier, later, rfl, -⟩ := h
  exact List.mem_append_right _ List.mem_cons_self

theorem enforced_of_nodup (h : (names.map lowercase).Nodup) : enforced names = {d | d ∈ names} := by
  refine Set.Subset.antisymm (fun d hd => mem_of_enforced hd) fun d hd => ?_
  obtain ⟨earlier, later, rfl⟩ := List.append_of_mem hd
  refine ⟨earlier, later, rfl, fun d' hd' hf => ?_⟩
  rw [List.map_append, List.map_cons] at h
  have hnot := (List.nodup_cons.mp (List.nodup_append.mp h).2.1).1
  exact hnot (hf ▸ List.mem_map_of_mem hd')

section

variable {keys : List (Value × String)}

def State.assign (s : State) (key : Value × String) : State :=
  match s.free.get? (lowercase key.2) with
  | some name => { s with
      free := s.free.erase (lowercase key.2), found := putPair key.1 name s.found }
  | none => { s with extra := s.extra ++ [key.2] }

def forms (keys : List (Value × String)) : List String := keys.map fun key => lowercase key.2

theorem step_of_toText {key : Value × String} (h : key.1.toText = .ok key.2) :
    step s key.1 = .ok (s.assign key) := by
  unfold step State.assign
  rw [h]
  show (match s.free.get? (lowercase key.2) with
    | some name => _
    | none => _) = _
  cases s.free.get? (lowercase key.2) <;> rfl

theorem foldlM_step (h : ∀ key ∈ keys, key.1.toText = .ok key.2) :
    (keys.map Prod.fst).foldlM step s = .ok (keys.foldl State.assign s) := by
  induction keys generalizing s with
  | nil => rfl
  | cons key keys ih =>
    rw [List.forall_mem_cons] at h
    rw [List.map_cons, List.foldlM_cons, step_of_toText h.1]
    exact ih h.2

theorem get?_free_foldl :
    (keys.foldl State.assign s).free.get? form =
      if form ∈ forms keys then none else s.free.get? form := by
  unfold forms
  induction keys generalizing s with
  | nil => rfl
  | cons key keys ih =>
    rw [List.foldl_cons, ih, List.map_cons]
    simp only [List.mem_cons]
    by_cases hk : form ∈ keys.map fun key => lowercase key.2
    · rw [if_pos hk, if_pos (.inr hk)]
    · rw [if_neg hk]
      unfold State.assign
      cases hs : s.free.get? (lowercase key.2) with
      | some name =>
        dsimp only
        rw [NameTable.get?_erase]
        simp only [hk, or_false]
      | none =>
        dsimp only
        by_cases hf : form = lowercase key.2
        · rw [if_pos (.inl hf), hf, hs]
        · rw [if_neg (not_or.mpr ⟨hf, hk⟩)]

theorem extra_foldl_eq_nil_iff :
    (keys.foldl State.assign s).extra = [] ↔
      s.extra = [] ∧ (forms keys).Nodup ∧
        ∀ form ∈ forms keys, (s.free.get? form).isSome = true := by
  unfold forms
  induction keys generalizing s with
  | nil => simp
  | cons key keys ih =>
    rw [List.foldl_cons, ih, List.map_cons, List.nodup_cons, List.forall_mem_cons]
    unfold State.assign
    cases hs : s.free.get? (lowercase key.2) with
    | none =>
      dsimp only
      constructor
      · rintro ⟨h, -⟩
        exact absurd h (List.append_ne_nil_of_right_ne_nil _ (List.cons_ne_nil _ _))
      · rintro ⟨-, -, h, -⟩
        exact nomatch h
    | some name =>
      dsimp only
      constructor
      · rintro ⟨hx, hn, hall⟩
        refine ⟨hx, ⟨fun hm => ?_, hn⟩, rfl, fun form hform => ?_⟩
        · have h := hall _ hm
          rw [NameTable.get?_erase, if_pos rfl] at h
          exact nomatch h
        · have h := hall form hform
          rw [NameTable.get?_erase] at h
          split at h
          · exact nomatch h
          · exact h
      · rintro ⟨hx, ⟨hk, hn⟩, -, hall⟩
        refine ⟨hx, hn, fun form hform => ?_⟩
        rw [NameTable.get?_erase, if_neg fun h : form = lowercase key.2 => hk (h ▸ hform)]
        exact hall form hform

theorem putPair_of_absent {key : Value} {name : String} {pairs : List (Value × String)}
    (h : ∀ e ∈ pairs, e.1.sameKey key = false) :
    putPair key name pairs = pairs ++ [(key, name)] := by
  induction pairs with
  | nil => rfl
  | cons e pairs ih =>
    rw [List.forall_mem_cons] at h
    rw [putPair, if_neg (by rw [h.1]; exact Bool.false_ne_true), ih h.2, List.cons_append]

/-- The pairs found if every key finds a declared one; `name` tells which. -/
theorem found_foldl {name : Value × String → String} (hn : (forms keys).Nodup)
    (hk : keys.Pairwise fun key other => key.1.sameKey other.1 = false)
    (hf : ∀ key ∈ keys, s.free.get? (lowercase key.2) = some (name key))
    (hs : ∀ e ∈ s.found, ∀ key ∈ keys, e.1.sameKey key.1 = false) :
    (keys.foldl State.assign s).found = s.found ++ keys.map fun key => (key.1, name key) := by
  unfold forms at hn
  induction keys generalizing s with
  | nil => exact (List.append_nil _).symm
  | cons key keys ih =>
    rw [List.map_cons, List.nodup_cons] at hn
    rw [List.pairwise_cons] at hk
    rw [List.forall_mem_cons] at hf
    have hassign : s.assign key =
        { s with
          free := s.free.erase (lowercase key.2)
          found := s.found ++ [(key.1, name key)] } := by
      rw [State.assign, hf.1]
      dsimp only
      rw [putPair_of_absent fun e he => hs e he key List.mem_cons_self]
    rw [List.foldl_cons, hassign, ih hn.2 hk.2, List.map_cons, List.append_assoc]
    · rfl
    · intro other hother
      have hne : lowercase other.2 ≠ lowercase key.2 :=
        fun h => hn.1 (List.mem_map.mpr ⟨other, hother, h⟩)
      rw [NameTable.get?_erase, if_neg hne]
      exact hf.2 other hother
    · intro e he other hother
      rcases List.mem_append.mp he with he | he
      · exact hs e he other (List.mem_cons_of_mem _ hother)
      · obtain rfl := List.mem_singleton.mp he
        exact hk.1 other hother

theorem sorted_isEmpty (xs : List String) : (sorted xs).isEmpty = xs.isEmpty := by
  rw [Bool.eq_iff_iff, List.isEmpty_iff, List.isEmpty_iff]
  have hp := perm_sorted xs
  constructor
  · intro h
    exact List.nil_perm.mp (h ▸ hp)
  · rintro rfl
    exact hp.eq_nil

theorem pairing_of_texts (h : ∀ key ∈ keys, key.1.toText = .ok key.2) :
    pairing names (keys.map Prod.fst) =
      let s := keys.foldl State.assign ⟨declared names, [], []⟩
      if s.extra = [] ∧ s.free.values = [] then .ok s.found
      else Check.violated (.keys s.extra (sorted s.free.values)) := by
  unfold pairing
  rw [foldlM_step h]
  show (if _ then _ else _) = _
  dsimp only
  rw [sorted_isEmpty]
  simp only [Bool.and_eq_true, List.isEmpty_iff]
  rfl

/-- Keys that are told apart have their declared keys just if each has one of its own form and every
declared form is one of a key. -/
theorem pairing_eq_ok_iff {pairs : List (Value × String)}
    (h : ∀ key ∈ keys, key.1.toText = .ok key.2)
    (hk : keys.Pairwise fun key other => key.1.sameKey other.1 = false) :
    pairing names (keys.map Prod.fst) = .ok pairs ↔
      ((forms keys).Nodup ∧
        (∀ form ∈ forms keys, ((declared names).get? form).isSome = true) ∧
        ∀ form d, (declared names).get? form = some d → form ∈ forms keys) ∧
      pairs = keys.map fun key => (key.1, ((declared names).get? (lowercase key.2)).getD "") := by
  have hfree : (∀ form, (keys.foldl State.assign ⟨declared names, [], []⟩).free.get? form = none) ↔
      ∀ form d, (declared names).get? form = some d → form ∈ forms keys := by
    simp only [get?_free_foldl, ite_eq_left_iff]
    refine forall_congr' fun form => ⟨fun h d hd => ?_, fun h hform => ?_⟩
    · by_contra hform
      exact Option.some_ne_none d (hd.symm.trans (h hform))
    · exact Option.eq_none_iff_forall_ne_some.mpr fun d hd => hform (h d hd)
  have hall : (keys.foldl State.assign ⟨declared names, [], []⟩).extra = [] ∧
      (keys.foldl State.assign ⟨declared names, [], []⟩).free.values = [] ↔
        (forms keys).Nodup ∧
          (∀ form ∈ forms keys, ((declared names).get? form).isSome = true) ∧
          ∀ form d, (declared names).get? form = some d → form ∈ forms keys := by
    rw [extra_foldl_eq_nil_iff, NameTable.values_eq_nil_iff, hfree]
    simp only [true_and, and_assoc]
  rw [pairing_of_texts h]
  dsimp only
  rw [← hall]
  have hfound (hn : (forms keys).Nodup)
      (hsome : ∀ form ∈ forms keys, ((declared names).get? form).isSome = true) :
      (keys.foldl State.assign ⟨declared names, [], []⟩).found =
        keys.map fun key => (key.1, ((declared names).get? (lowercase key.2)).getD "") := by
    refine found_foldl hn hk (fun key hkey => ?_) fun _ he => absurd he List.not_mem_nil
    obtain ⟨d, hd⟩ := Option.isSome_iff_exists.mp (hsome _ (List.mem_map_of_mem hkey))
    simp [hd]
  split
  · next hc =>
    rw [hfound (hall.mp hc).1 (hall.mp hc).2.1]
    exact ⟨fun he => ⟨hc, (Except.ok.inj he).symm⟩, fun he => congrArg Except.ok he.2.symm⟩
  · next hc =>
    constructor
    · intro he
      cases he
    · exact fun he => absurd he.1 hc

end

theorem sameKey_text {k k' : String} : (Value.text k).sameKey (.text k') = (k == k') := by
  rw [Value.sameKey]
  · rfl
  all_goals simp

/-- Keys stand for declared ones just if they do so one by one, each for one of its own form. -/
structure Pairs (names keys : List String) (f : String → String) : Prop where
  bij : Set.BijOn f {key | key ∈ keys} (enforced names)
  form : ∀ key ∈ keys, lowercase (f key) = lowercase key

namespace Pairs

variable {f : String → String}

theorem get?_declared (h : Pairs names keys f) (hk : key ∈ keys) :
    (declared names).get? (lowercase key) = some (f key) :=
  PropertyKeys.get?_declared.mpr ⟨h.bij.mapsTo hk, h.form key hk⟩

theorem nodup_forms (h : Pairs names keys f) (hk : keys.Nodup) : (keys.map lowercase).Nodup := by
  refine hk.map_on fun key hkey other hother hf => h.bij.injOn hkey hother ?_
  have he := h.get?_declared hkey
  rw [hf, h.get?_declared hother] at he
  exact (Option.some.inj he).symm

theorem mem_forms (h : Pairs names keys f) (hd : (declared names).get? form = some d) :
    form ∈ keys.map lowercase := by
  obtain ⟨henforced, rfl⟩ := PropertyKeys.get?_declared.mp hd
  obtain ⟨key, hkey, rfl⟩ := h.bij.surjOn henforced
  exact h.form key hkey ▸ List.mem_map_of_mem hkey

theorem of_forms (hn : (keys.map lowercase).Nodup)
    (hf : ∀ key ∈ keys, (declared names).get? (lowercase key) = some (f key))
    (hall : ∀ form d, (declared names).get? form = some d → form ∈ keys.map lowercase) :
    Pairs names keys f := by
  have hd := fun key hkey => PropertyKeys.get?_declared.mp (hf key hkey)
  refine ⟨⟨fun key hkey => (hd key hkey).1, ?_, ?_⟩, fun key hkey => (hd key hkey).2⟩
  · intro key hkey other hother he
    have hform := (hd key hkey).2.symm.trans (he ▸ (hd other hother).2)
    exact List.inj_on_of_nodup_map hn hkey hother hform
  · intro d hd
    have hget := PropertyKeys.get?_declared.mpr ⟨hd, rfl⟩
    obtain ⟨key, hkey, he⟩ := List.mem_map.mp (hall _ d hget)
    refine ⟨key, hkey, Option.some.inj ((hf key hkey).symm.trans ?_)⟩
    rw [he, hget]

end Pairs

theorem exists_pairs_iff (hk : keys.Nodup) :
    (∃ f, Pairs names keys f) ↔
      (keys.map lowercase).Nodup ∧
        (∀ form ∈ keys.map lowercase, ((declared names).get? form).isSome = true) ∧
          ∀ form d, (declared names).get? form = some d → form ∈ keys.map lowercase := by
  constructor
  · rintro ⟨f, h⟩
    refine ⟨h.nodup_forms hk, fun form hform => ?_, fun form d hd => h.mem_forms hd⟩
    obtain ⟨key, hkey, rfl⟩ := List.mem_map.mp hform
    rw [h.get?_declared hkey]
    rfl
  · rintro ⟨hn, hsome, hall⟩
    refine ⟨fun key => ((declared names).get? (lowercase key)).getD key, .of_forms hn ?_ hall⟩
    intro key hkey
    obtain ⟨d, hd⟩ := Option.isSome_iff_exists.mp (hsome _ (List.mem_map_of_mem hkey))
    rw [hd]
    rfl

theorem pairing_text_eq_ok_iff {pairs : List (Value × String)} (hk : keys.Nodup) :
    pairing names (keys.map Value.text) = .ok pairs ↔
      ∃ f, Pairs names keys f ∧ pairs = keys.map fun key => (.text key, f key) := by
  let shown := keys.map fun key => (Value.text key, key)
  have hkeys : keys.map Value.text = shown.map Prod.fst := by
    rw [List.map_map]
    rfl
  have hforms : forms shown = keys.map lowercase := List.map_map
  have htext : ∀ key ∈ shown, key.1.toText = .ok key.2 := by
    intro key hkey
    obtain ⟨key, -, rfl⟩ := List.mem_map.mp hkey
    rfl
  have hdiff : shown.Pairwise fun key other => key.1.sameKey other.1 = false := by
    refine List.pairwise_map.mpr (hk.imp fun hne => ?_)
    rwa [sameKey_text, beq_eq_false_iff_ne]
  rw [hkeys, pairing_eq_ok_iff htext hdiff, hforms, ← exists_pairs_iff hk, List.map_map]
  constructor
  · rintro ⟨⟨f, h⟩, rfl⟩
    refine ⟨f, h, List.map_congr_left fun key hkey => ?_⟩
    rw [Function.comp_apply, h.get?_declared hkey]
    rfl
  · rintro ⟨f, h, rfl⟩
    refine ⟨⟨f, h⟩, List.map_congr_left fun key hkey => ?_⟩
    rw [Function.comp_apply, h.get?_declared hkey]
    rfl

end PropertyKeys

namespace EntityType

variable {type : EntityType} {values : NameTable Value}

def textEntries (values : NameTable Value) : List (Value × Value) :=
  values.entries.map fun e => (.text e.1, e.2)

theorem find?_textEntries (values : NameTable Value) (key : String) :
    (textEntries values).find? (·.1.sameKey (.text key)) =
      (values.get? key).map fun v => (.text key, v) := by
  unfold textEntries NameTable.get?
  induction values.entries with
  | nil => rfl
  | cons e es ih =>
    rw [List.map_cons, List.find?_cons, PropertyKeys.sameKey_text, List.lookup_cons]
    by_cases he : e.1 = key
    · rw [beq_iff_eq.mpr he, beq_iff_eq.mpr he.symm, he]
      rfl
    · rw [beq_eq_false_iff_ne.mpr he, beq_eq_false_iff_ne.mpr (Ne.symm he)]
      exact ih

theorem checkPairs_eq_ok_iff {entries : List (Value × Value)} {pairs : List (Value × String)} :
    type.checkPairs entries pairs = .ok () ↔
      ∀ e ∈ pairs, ∀ p, type.properties.get? e.2 = some p →
        ∀ x, entries.find? (·.1.sameKey e.1) = some x → p.check x.2 = .ok () := by
  induction pairs with
  | nil => exact ⟨fun _ _ h => absurd h List.not_mem_nil, fun _ => rfl⟩
  | cons e pairs ih =>
    rw [List.forall_mem_cons, ← ih, checkPairs]
    cases type.properties.get? e.2 with
    | none => exact ⟨fun h => ⟨fun _ hp => (nomatch hp), h⟩, fun h => h.2⟩
    | some p =>
      cases entries.find? (·.1.sameKey e.1) with
      | none => exact ⟨fun h => ⟨fun _ _ _ hx => (nomatch hx), h⟩, fun h => h.2⟩
      | some x =>
        show (p.check x.2 >>= fun _ => type.checkPairs entries pairs) = .ok () ↔ _
        rw [Check.seq_eq_ok_iff]
        refine and_congr_left fun _ => ⟨?_, fun h => h p rfl x rfl⟩
        intro h _ hp _ hx
        obtain rfl := Option.some.inj hp
        obtain rfl := Option.some.inj hx
        exact h

/-- Keys of an entity for declared ones, each for one that it differs from in case alone, with
values that pass. -/
structure Fits (type : EntityType) (values : NameTable Value) (declared : Set String)
    (f : String → String) : Prop where
  bij : Set.BijOn f {key | key ∈ values.names} declared
  form : ∀ key ∈ values.names, lowercase (f key) = lowercase key
  passes : ∀ key v, values.get? key = some v →
    ∃ p, type.properties.get? (f key) = some p ∧ p.check v = .ok ()

theorem Fits.pairs {declared : Set String} {f : String → String} (h : Fits type values declared f)
    (hd : declared = PropertyKeys.enforced type.properties.names) :
    PropertyKeys.Pairs type.properties.names values.names f :=
  ⟨hd ▸ h.bij, h.form⟩

theorem Fits.of_perm {f : String → String}
    (hperm : (values.names.map f).Perm type.properties.names)
    (hform : ∀ key ∈ values.names, lowercase (f key) = lowercase key)
    (hpass : ∀ e ∈ values.entries, ∃ p, type.properties.get? (f e.1) = some p ∧
      p.check e.2 = .ok ()) : Fits type values {d | d ∈ type.properties.names} f := by
  refine ⟨⟨?_, ?_, ?_⟩, hform, ?_⟩
  · intro key hkey
    exact hperm.mem_iff.mp (List.mem_map_of_mem hkey)
  · intro key hkey other hother he
    have hn := hperm.nodup_iff.mpr type.properties.names_nodup
    exact List.inj_on_of_nodup_map hn hkey hother he
  · intro d hd
    exact List.mem_map.mp (hperm.mem_iff.mpr hd)
  · intro key v hv
    exact hpass _ (NameTable.get?_eq_some_iff.mp hv)

theorem check_textEntries_eq_ok_iff :
    type.check (textEntries values) = .ok () ↔
      ∃ f, Fits type values (PropertyKeys.enforced type.properties.names) f := by
  have hkeys : (textEntries values).map Prod.fst = values.names.map Value.text := by
    unfold textEntries NameTable.names
    rw [List.map_map, List.map_map]
    rfl
  unfold check
  rw [hkeys, Check.bind_eq_ok_iff]
  simp only [PropertyKeys.pairing_text_eq_ok_iff values.names_nodup, checkPairs_eq_ok_iff]
  constructor
  · rintro ⟨pairs, ⟨f, hf, rfl⟩, hpass⟩
    refine ⟨f, hf.bij, hf.form, fun key v hv => ?_⟩
    have hkey : key ∈ values.names := NameTable.mem_names_iff.mpr ⟨v, hv⟩
    have hname : f key ∈ type.properties.names :=
      PropertyKeys.mem_of_enforced (hf.bij.mapsTo hkey)
    obtain ⟨p, hp⟩ := NameTable.mem_names_iff.mp hname
    refine ⟨p, hp, hpass _ (List.mem_map_of_mem hkey) p hp (.text key, v) ?_⟩
    rw [find?_textEntries, hv]
    rfl
  · rintro ⟨f, hf⟩
    refine ⟨_, ⟨f, hf.pairs rfl, rfl⟩, fun e he p hp x hx => ?_⟩
    obtain ⟨key, -, rfl⟩ := List.mem_map.mp he
    rw [find?_textEntries] at hx
    obtain ⟨v, hv, rfl⟩ := Option.map_eq_some_iff.mp hx
    obtain ⟨p', hp', hpass⟩ := hf.passes key v hv
    obtain rfl := Option.some.inj (hp.symm.trans hp')
    exact hpass

/-- Two declared keys of one form are never both stood for. -/
theorem Fits.nodup_forms {f g : String → String}
    (hf : Fits type values {d | d ∈ type.properties.names} f)
    (hg : Fits type values (PropertyKeys.enforced type.properties.names) g) :
    (type.properties.names.map lowercase).Nodup := by
  refine type.properties.names_nodup.map_on fun d hd d' hd' hform => ?_
  obtain ⟨key, hkey, rfl⟩ := hf.bij.surjOn hd
  obtain ⟨key', hkey', rfl⟩ := hf.bij.surjOn hd'
  rw [hf.form key hkey, hf.form key' hkey'] at hform
  exact congrArg f (List.inj_on_of_nodup_map ((hg.pairs rfl).nodup_forms values.names_nodup)
    hkey hkey' hform)

end EntityType

namespace Template

open EntityType

/-- When an entity of a type with keys that are text passes: its keys are for those declared keys
that no later one has the form of. If these are all declared keys, it passes just if there is a key
for every one; if they are not, then no entity with a key for every one passes. -/
theorem checkEntity_textEntries (t : Template) (kind : EntityKind) (values : NameTable Value)
    {name : String} {type : EntityType} (htype : (t.typesOf kind).get? name = some type) :
    (t.checkEntity kind ⟨name, textEntries values⟩ = .ok () ↔
      ∃ f, Fits type values (PropertyKeys.enforced type.properties.names) f) ∧
    ((type.properties.names.map lowercase).Nodup →
      (t.checkEntity kind ⟨name, textEntries values⟩ = .ok () ↔
        ∃ f, Fits type values {d | d ∈ type.properties.names} f)) ∧
    (¬ (type.properties.names.map lowercase).Nodup →
      (∃ f, Fits type values {d | d ∈ type.properties.names} f) →
        t.checkEntity kind ⟨name, textEntries values⟩ ≠ .ok ()) := by
  have hcheck : t.checkEntity kind ⟨name, textEntries values⟩ = .ok () ↔
      ∃ f, Fits type values (PropertyKeys.enforced type.properties.names) f := by
    unfold checkEntity
    dsimp only
    rw [htype]
    dsimp only
    rw [Check.within_eq_ok, check_textEntries_eq_ok_iff]
  refine ⟨hcheck, fun hn => ?_, ?_⟩
  · rw [hcheck, PropertyKeys.enforced_of_nodup hn]
  · rintro hn ⟨f, hf⟩ hok
    obtain ⟨g, hg⟩ := hcheck.mp hok
    exact hn (hf.nodup_forms hg)

def labelled : Document where
  labels := .ofList [("l", ⟨.ofList [("size", ⟨"int", ⟨[], [], [], []⟩⟩)], .empty⟩)]
  nodes := .ofList [("n", ⟨["l"], .ofList [("Name", ⟨"string", ⟨[], [], [], []⟩⟩)], .empty⟩)]
  edges := .ofList [("e", ⟨.empty⟩)]

theorem checkEntity_labelled :
    ∃ type, (labelled.template.typesOf .node).get? "n" = some type ∧
      (type.properties.names.map lowercase).Nodup ∧
      labelled.template.checkEntity .node
        ⟨"n", textEntries (.ofList [("Size", .int 3), ("NAME", .text "x")])⟩ = .ok () := by
  let type : EntityType := ⟨"n", .ofList [("Name", ⟨"Name", .scalar .string, [], []⟩),
    ("size", ⟨"size", .scalar .int, [], []⟩)]⟩
  have htype : (labelled.template.typesOf .node).get? "n" = some type := by rfl
  have hn : (type.properties.names.map lowercase).Nodup := by decide +kernel
  let f key := if key = "Size" then "size" else "Name"
  refine ⟨type, htype, hn,
    ((checkEntity_textEntries labelled.template .node _ htype).2.1 hn).mpr
      ⟨f, .of_perm (by decide) (by decide +kernel) ?_⟩⟩
  intro e he
  rcases List.mem_pair.mp he with rfl | rfl
  · exact ⟨⟨"size", .scalar .int, [], []⟩, by rfl, by rfl⟩
  · exact ⟨⟨"Name", .scalar .string, [], []⟩, by rfl, by rfl⟩

def twins : Document where
  labels := .empty
  nodes := .ofList [("n", ⟨[], .ofList [("a", ⟨"string", ⟨[], [], [], []⟩⟩),
    ("A", ⟨"string", ⟨[], [], [], []⟩⟩)], .empty⟩)]
  edges := .ofList [("e", ⟨.empty⟩)]

theorem twins_rejected :
    ∃ type, (Build.ofDocument twins).result = .ok twins.template ∧
      (twins.template.typesOf .node).get? "n" = some type ∧
      Fits type (.ofList [("a", .text "x"), ("A", .text "y")]) {d | d ∈ type.properties.names} id ∧
      twins.template.checkEntity .node
        ⟨"n", textEntries (.ofList [("a", .text "x"), ("A", .text "y")])⟩ ≠ .ok () := by
  let type : EntityType := ⟨"n", .ofList [("a", ⟨"a", .scalar .string, [], []⟩),
    ("A", ⟨"A", .scalar .string, [], []⟩)]⟩
  have ht : (Build.ofDocument twins).result = .ok twins.template := by
    have hf : twins.fault? = none := by decide
    have hd : twins.defects = [] := by decide
    rw [Build.result_ofDocument, hf]
    exact if_pos hd
  have htype : (twins.template.typesOf .node).get? "n" = some type := by rfl
  refine ⟨type, ht, htype, ?_, ?_⟩
  · refine .of_perm (List.Perm.refl _) (fun _ _ => rfl) fun e he => ?_
    rcases List.mem_pair.mp he with rfl | rfl
    · exact ⟨⟨"a", .scalar .string, [], []⟩, by rfl, by rfl⟩
    · exact ⟨⟨"A", .scalar .string, [], []⟩, by rfl, by rfl⟩
  · have hrejected : twins.template.checkEntity .node
        ⟨"n", textEntries (.ofList [("a", .text "x"), ("A", .text "y")])⟩ =
          .error (.violation ⟨.keys ["A"] [], ["\"n\"-node"]⟩) := by decide +kernel
    simp [hrejected]

end Template

end GraphTemplate
