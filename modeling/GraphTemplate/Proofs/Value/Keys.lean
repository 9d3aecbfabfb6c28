import GraphTemplate.Proofs.Value.Equivalence
import Mathlib.Data.Fintype.Card
import Mathlib.Data.List.Pairwise

/-! Keys of mappings and elements of sets. They are told apart by their own equality, so that no two
of one mapping or set are alike; values entered one after the other are well-formed in this way. -/
namespace GraphTemplate.Value

variable {v w : Value}

inductive Key : Value → Prop where
  | atom {v : Value} (hv : v.isAtom = true) (hf : v.hashFault? = none) : Key v
  | tuple {xs : List Value} (h : ∀ x ∈ xs, Key x) : Key (.sequence .tuple xs)
  | frozen {xs : List Value} (h : ∀ x ∈ xs, Key x)
      (apart : xs.Pairwise fun x y => x.sameKey y = false) : Key (.set true xs)
  | namedTuple {name : String} {i : Nat} {fs : List (String × Value)} (h : ∀ f ∈ fs, Key f.2) :
      Key (.record .namedTuple name i fs)

def Reduced : Value → Prop
  | fraction n d => 0 < d ∧ Nat.Coprime n.natAbs d
  | _ => True

/-- Sets hold keys that are told apart, and so do mappings. -/
inductive WellFormed : Value → Prop where
  | atom {v : Value} (hv : v.isAtom = true) (h : v.Reduced) : WellFormed v
  | sequence {k : SequenceKind} {xs : List Value} (h : ∀ x ∈ xs, WellFormed x) :
      WellFormed (.sequence k xs)
  | set {b : Bool} {xs : List Value} (h : ∀ x ∈ xs, WellFormed x) (keys : ∀ x ∈ xs, Key x)
      (apart : xs.Pairwise fun x y => x.sameKey y = false) : WellFormed (.set b xs)
  | mapping {k : MappingKind} {es : List (Value × Value)} (hk : ∀ e ∈ es, WellFormed e.1)
      (hv : ∀ e ∈ es, WellFormed e.2) (keys : ∀ e ∈ es, Key e.1)
      (apart : es.Pairwise fun e f => e.1.sameKey f.1 = false) : WellFormed (.mapping k es)
  | namedTuple {name : String} {i : Nat} {fs : List (String × Value)}
      (h : ∀ f ∈ fs, WellFormed f.2) : WellFormed (.record .namedTuple name i fs)

theorem Key.items {k : SequenceKind} {xs : List Value} (h : Key (.sequence k xs)) :
    ∀ x ∈ xs, Key x := by
  cases h with
  | atom hv => cases hv
  | tuple h => exact h

theorem Key.elements {b : Bool} {xs : List Value} (h : Key (.set b xs)) :
    (∀ x ∈ xs, Key x) ∧ xs.Pairwise fun x y => x.sameKey y = false := by
  cases h with
  | atom hv => cases hv
  | frozen h apart => exact ⟨h, apart⟩

theorem Key.fields {name : String} {i : Nat} {fs : List (String × Value)}
    (h : Key (.record .namedTuple name i fs)) : ∀ f ∈ fs, Key f.2 := by
  cases h with
  | atom hv => cases hv
  | namedTuple h => exact h

theorem not_key_mapping {k : MappingKind} {es : List (Value × Value)} : ¬Key (.mapping k es) := by
  intro h
  cases h with
  | atom hv => cases hv

/-- If each has a partner among the others with a key alike, and the keys of no two are alike, the
partners are those of a bijection. -/
theorem exists_pairing {α : Type} {R : α → α → Prop} (key : α → Value) {xs ys : List α}
    (hkey : ∀ {x y}, R x y → (key x).alike (key y) = true) (h : ∀ x ∈ xs, ∃ y ∈ ys, R x y)
    (k : ∀ y ∈ ys, ∃ x ∈ xs, R x y)
    (left : xs.Pairwise fun x x' => (key x).alike (key x') = false)
    (right : ys.Pairwise fun y y' => (key y).alike (key y') = false) :
    ∃ pairing : Fin xs.length ≃ Fin ys.length, ∀ i, R (xs.get i) (ys.get (pairing i)) := by
  have hget (i : Fin xs.length) : ∃ j, R (xs.get i) (ys.get j) := by
    obtain ⟨y, hy, hr⟩ := h _ (xs.get_mem i)
    obtain ⟨j, rfl⟩ := List.mem_iff_get.mp hy
    exact ⟨j, hr⟩
  choose f hf using hget
  have hleft {i i' : Fin xs.length} (hlt : i < i') {y : α} (hr : R (xs.get i) y) :
      ¬R (xs.get i') y := by
    intro hr'
    have hsame := alike_trans (hkey hr) (alike_symm (hkey hr'))
    exact Bool.false_ne_true ((List.pairwise_iff_get.mp left i i' hlt).symm.trans hsame)
  have hright {j j' : Fin ys.length} (hlt : j < j') {x : α} (hr : R x (ys.get j)) :
      ¬R x (ys.get j') := by
    intro hr'
    have hsame := alike_trans (alike_symm (hkey hr)) (hkey hr')
    exact Bool.false_ne_true ((List.pairwise_iff_get.mp right j j' hlt).symm.trans hsame)
  have hinj : Function.Injective f := by
    intro i i' he
    rcases Nat.lt_trichotomy i.val i'.val with hlt | heq | hlt
    · exact absurd (he ▸ hf i') (hleft hlt (hf i))
    · exact Fin.ext heq
    · exact absurd (he ▸ hf i) (hleft hlt (hf i'))
  have hsurj : Function.Surjective f := by
    intro j
    obtain ⟨x, hx, hr⟩ := k _ (ys.get_mem j)
    obtain ⟨i, rfl⟩ := List.mem_iff_get.mp hx
    refine ⟨i, ?_⟩
    rcases Nat.lt_trichotomy (f i).val j.val with hlt | heq | hlt
    · exact absurd hr (hright hlt (hf i))
    · exact Fin.ext heq
    · exact absurd (hf i) (hright hlt hr)
  exact ⟨Equiv.ofBijective f ⟨hinj, hsurj⟩, hf⟩

/-- A bijection finds a partner for each, in both lists. -/
theorem partners_of_pairing {α β : Type} {R : α → β → Prop} {xs : List α} {ys : List β}
    (pairing : Fin xs.length ≃ Fin ys.length) (h : ∀ i, R (xs.get i) (ys.get (pairing i))) :
    (∀ x ∈ xs, ∃ y ∈ ys, R x y) ∧ ∀ y ∈ ys, ∃ x ∈ xs, R x y := by
  constructor
  · intro x hx
    obtain ⟨i, rfl⟩ := List.mem_iff_get.mp hx
    exact ⟨_, ys.get_mem _, h i⟩
  · intro y hy
    obtain ⟨j, rfl⟩ := List.mem_iff_get.mp hy
    refine ⟨_, xs.get_mem (pairing.symm j), ?_⟩
    have hj := h (pairing.symm j)
    rwa [Equiv.apply_symm_apply] at hj

theorem sameKey_atom (hv : v.isAtom = true) : v.sameKey w = v.sameAtom w := by
  cases v with
  | record k =>
    cases k with
    | namedTuple => cases hv
    | _ => unfold sameKey; rfl
  | sequence | set | mapping => cases hv
  | _ => unfold sameKey; rfl

theorem AtomsAlike.sameAtom (h : AtomsAlike v w) : v.sameAtom w = true := by
  cases h with
  | float h | decimal h | moment h => exact h
  | range h => exact beq_iff_eq.mpr h
  | null => rfl
  | _ => exact beq_self_eq_true _

theorem sameKeys_iff {xs ys : List Value} :
    sameKeys xs ys = true ↔ List.Forall₂ (fun x y => x.sameKey y = true) xs ys := by
  induction xs generalizing ys with
  | nil => cases ys <;> simp [sameKeys]
  | cons x xs ih => cases ys <;> simp [sameKeys, ih]

theorem sameFields_iff {fs : List (String × Value)} {ys : List Value} :
    sameFields fs ys = true ↔ List.Forall₂ (fun f y => f.2.sameKey y = true) fs ys := by
  induction fs generalizing ys with
  | nil => cases ys <;> simp [sameFields]
  | cons f fs ih =>
    obtain ⟨n, x⟩ := f
    cases ys <;> simp [sameFields, ih]

theorem allAmong_iff {xs ys : List Value} :
    allAmong xs ys = true ↔ ∀ x ∈ xs, ∃ y ∈ ys, x.sameKey y = true := by
  induction xs with
  | nil => simp [allAmong]
  | cons x xs ih => simp [allAmong, ih]

theorem forall₂_span {α β γ : Type} {R : α → β → Prop} {S : α → γ → Prop} {T : β → γ → Prop}
    {xs : List α} {ys : List β} {zs : List γ} (h : List.Forall₂ R xs ys)
    (k : List.Forall₂ S xs zs)
    (ht : ∀ x ∈ xs, ∀ y ∈ ys, ∀ z ∈ zs, R x y → S x z → T y z) : List.Forall₂ T ys zs := by
  induction h generalizing zs with
  | nil => cases k; exact .nil
  | cons hr _ ih =>
    cases k with
    | cons hs k =>
      refine .cons (ht _ (by simp) _ (by simp) _ (by simp) hr hs) (ih k fun x hx y hy z hz => ?_)
      exact ht x (by simp [hx]) y (by simp [hy]) z (by simp [hz])

theorem sameKey_sequence {k : SequenceKind} {xs ys : List Value} :
    (sequence k xs).sameKey (sequence k ys) = sameKeys xs ys := by
  rw [sameKey, beq_self_eq_true, Bool.true_and]

theorem sameKey_namedTuple {name name' : String} {i j : Nat} {fs gs : List (String × Value)} :
    (record .namedTuple name i fs).sameKey (record .namedTuple name' j gs) =
      sameFields fs (gs.map Prod.snd) := by
  rw [sameKey]

theorem sameKey_set {a b : Bool} {xs ys : List Value} :
    (set a xs).sameKey (set b ys) = true ↔
      xs.length = ys.length ∧ ∀ x ∈ xs, ∃ y ∈ ys, x.sameKey y = true := by
  rw [sameKey, Bool.and_eq_true, beq_iff_eq, allAmong_iff]

theorem partners_span {xs ys zs : List Value} (h : ∀ y ∈ ys, ∃ x ∈ xs, x.alike y = true)
    (k : ∀ x ∈ xs, ∃ z ∈ zs, x.alike z = true) : ∀ y ∈ ys, ∃ z ∈ zs, y.alike z = true := by
  intro y hy
  obtain ⟨x, hx, hxy⟩ := h y hy
  obtain ⟨z, hz, hxz⟩ := k x hx
  exact ⟨z, hz, alike_trans (alike_symm hxy) hxz⟩

/-- Keys that are alike are one key. The induction is on a value that both are alike, as either of
two elements of a set may be on either side. -/
theorem sameKey_of_alike_both {u v w : Value} (hv : Key v) (hw : Key w) (h : u.alike v = true)
    (k : u.alike w = true) : v.sameKey w = true := by
  induction u using induction_on_parts generalizing v w with
  | atom u hu =>
    have ha := (alike_atom_iff hu).mp h
    rw [sameKey_atom (ha.isAtom hu)]
    exact (ha.symm.trans ((alike_atom_iff hu).mp k)).sameAtom
  | sequence l xs ih =>
    obtain ⟨ys, rfl, hp⟩ := alike_sequence_iff.mp h
    obtain ⟨zs, rfl, kp⟩ := alike_sequence_iff.mp k
    rw [sameKey_sequence, sameKeys_iff]
    exact forall₂_span hp kp fun x hx y hy z hz hxy hxz =>
      ih x hx (hv.items y hy) (hw.items z hz) hxy hxz
  | set b xs ih =>
    obtain ⟨ys, rfl, h, h'⟩ := alike_set_iff.mp h
    obtain ⟨zs, rfl, k, k'⟩ := alike_set_iff.mp k
    have hapart {ys : List Value} (hkeys : Key (.set b ys))
        (h' : ∀ y ∈ ys, ∃ x ∈ xs, x.alike y = true) :
        ys.Pairwise fun y y' => y.alike y' = false := by
      refine hkeys.elements.2.imp_of_mem fun {y y'} hy hy' hne => ?_
      refine Bool.eq_false_iff.mpr fun hyy => ?_
      obtain ⟨x, hx, hxy⟩ := h' y hy
      have hsame := ih x hx (hkeys.elements.1 y hy) (hkeys.elements.1 y' hy') hxy
        (alike_trans hxy hyy)
      exact Bool.false_ne_true (hne.symm.trans hsame)
    obtain ⟨pairing, -⟩ := exists_pairing id id (partners_span h' k)
      (fun z hz => (partners_span k' h z hz).imp fun _ hy => ⟨hy.1, alike_symm hy.2⟩)
      (hapart hv h') (hapart hw k')
    refine sameKey_set.mpr ⟨by simpa using Fintype.card_congr pairing, fun y hy => ?_⟩
    obtain ⟨x, hx, hxy⟩ := h' y hy
    obtain ⟨z, hz, hxz⟩ := k x hx
    exact ⟨z, hz, ih x hx (hv.elements.1 y hy) (hw.elements.1 z hz) hxy hxz⟩
  | mapping l es ih =>
    obtain ⟨_, _, rfl, -⟩ := alike_mapping_iff.mp h
    exact absurd hv not_key_mapping
  | namedTuple name i fs ih =>
    obtain ⟨_, gs, rfl, hp⟩ := alike_namedTuple_iff.mp h
    obtain ⟨_, hs, rfl, kp⟩ := alike_namedTuple_iff.mp k
    rw [sameKey_namedTuple, sameFields_iff, List.forall₂_map_right_iff]
    exact forall₂_span hp kp fun f hf g hg g' hg' hfg hfg' =>
      ih f hf (hv.fields g hg) (hw.fields g' hg') hfg hfg'

theorem Key.sameKey_of_alike (hv : Key v) (hw : Key w) (h : v.alike w = true) :
    v.sameKey w = true :=
  sameKey_of_alike_both hv hw (alike_refl v) h

/-- What is told apart as keys is not alike. -/
theorem pairwise_not_alike {α : Type} (key : α → Value) {xs : List α} (h : ∀ x ∈ xs, Key (key x))
    (apart : xs.Pairwise fun x y => (key x).sameKey (key y) = false) :
    xs.Pairwise fun x y => (key x).alike (key y) = false := by
  refine apart.imp_of_mem fun {x y} hx hy hne => Bool.eq_false_iff.mpr fun hxy => ?_
  exact Bool.false_ne_true (hne.symm.trans ((h x hx).sameKey_of_alike (h y hy) hxy))

theorem WellFormed.reduced (h : WellFormed v) (hv : v.isAtom = true) : v.Reduced := by
  cases h with
  | atom _ h => exact h
  | _ => cases hv

theorem WellFormed.items {k : SequenceKind} {xs : List Value} (h : WellFormed (.sequence k xs)) :
    ∀ x ∈ xs, WellFormed x := by
  cases h with
  | atom hv => cases hv
  | sequence h => exact h

theorem WellFormed.elements {b : Bool} {xs : List Value} (h : WellFormed (.set b xs)) :
    (∀ x ∈ xs, WellFormed x) ∧ xs.Pairwise fun x y => x.alike y = false := by
  cases h with
  | atom hv => cases hv
  | set h keys apart => exact ⟨h, pairwise_not_alike id keys apart⟩

theorem WellFormed.entries {k : MappingKind} {es : List (Value × Value)}
    (h : WellFormed (.mapping k es)) :
    (∀ e ∈ es, WellFormed e.1 ∧ WellFormed e.2) ∧ es.Pairwise fun e f => e.1.alike f.1 = false := by
  cases h with
  | atom hv => cases hv
  | mapping hk hv keys apart =>
    exact ⟨fun e he => ⟨hk e he, hv e he⟩, pairwise_not_alike Prod.fst keys apart⟩

theorem WellFormed.fields {name : String} {i : Nat} {fs : List (String × Value)}
    (h : WellFormed (.record .namedTuple name i fs)) : ∀ f ∈ fs, WellFormed f.2 := by
  cases h with
  | atom hv => cases hv
  | namedTuple h => exact h

theorem mem_putEntry {key value : Value} {es : List (Value × Value)} {e : Value × Value}
    (h : e ∈ putEntry key value es) :
    e ∈ es ∨ e.2 = value ∧ (e.1 = key ∨ ∃ e' ∈ es, e'.1 = e.1) := by
  induction es with
  | nil =>
    obtain rfl := List.mem_singleton.mp h
    exact .inr ⟨rfl, .inl rfl⟩
  | cons x es ih =>
    unfold putEntry at h
    split at h
    · rcases List.mem_cons.mp h with rfl | he
      · exact .inr ⟨rfl, .inr ⟨x, List.mem_cons_self, rfl⟩⟩
      · exact .inl (List.mem_cons_of_mem x he)
    · rcases List.mem_cons.mp h with rfl | he
      · exact .inl List.mem_cons_self
      · rcases ih he with he | ⟨hv, hk | ⟨e', he', hk⟩⟩
        · exact .inl (List.mem_cons_of_mem x he)
        · exact .inr ⟨hv, .inl hk⟩
        · exact .inr ⟨hv, .inr ⟨e', List.mem_cons_of_mem x he', hk⟩⟩

theorem pairwise_putEntry {key value : Value} {es : List (Value × Value)}
    (h : es.Pairwise fun e f => e.1.sameKey f.1 = false) :
    (putEntry key value es).Pairwise fun e f => e.1.sameKey f.1 = false := by
  induction es with
  | nil => exact List.pairwise_singleton _ _
  | cons x es ih =>
    obtain ⟨hx, hes⟩ := List.pairwise_cons.mp h
    unfold putEntry
    split
    · exact List.pairwise_cons.mpr ⟨hx, hes⟩
    · next hne =>
      refine List.pairwise_cons.mpr ⟨fun f hf => ?_, ih hes⟩
      rcases mem_putEntry hf with hf | ⟨-, hk | ⟨e', he', hk⟩⟩
      · exact hx f hf
      · exact hk ▸ Bool.eq_false_iff.mpr hne
      · exact hk ▸ hx e' he'

theorem WellFormed.putEntry {k : MappingKind} {key value : Value} {es : List (Value × Value)}
    (h : WellFormed (.mapping k es)) (hkey : Key key) (hk : WellFormed key)
    (hv : WellFormed value) : WellFormed (.mapping k (putEntry key value es)) := by
  cases h with
  | atom ha => cases ha
  | mapping hks hvs keys apart =>
    have hmem {P : Value → Prop} (hes : ∀ e ∈ es, P e.1) (hP : P key) :
        ∀ e ∈ Value.putEntry key value es, P e.1 := by
      intro e he
      rcases mem_putEntry he with he | ⟨-, hk | ⟨e', he', hk⟩⟩
      · exact hes e he
      · exact hk ▸ hP
      · exact hk ▸ hes e' he'
    refine .mapping (hmem hks hk) (fun e he => ?_) (hmem keys hkey) (pairwise_putEntry apart)
    rcases mem_putEntry he with he | ⟨hvalue, -⟩
    · exact hvs e he
    · exact hvalue ▸ hv

/-- A mapping is well-formed whatever is entered under its keys, and in whatever order. -/
theorem wellFormed_entriesOf {k : MappingKind} {pairs : List (Value × Value)}
    (hkey : ∀ p ∈ pairs, Key p.1) (h : ∀ p ∈ pairs, WellFormed p.1 ∧ WellFormed p.2) :
    WellFormed (.mapping k (entriesOf pairs)) := by
  have hfold (es : List (Value × Value)) (hes : WellFormed (.mapping k es)) :
      WellFormed (.mapping k (pairs.foldl (fun es p => Value.putEntry p.1 p.2 es) es)) := by
    induction pairs generalizing es with
    | nil => exact hes
    | cons p pairs ih =>
      rw [List.forall_mem_cons] at hkey h
      exact ih hkey.2 h.2 _ (hes.putEntry hkey.1 h.1.1 h.1.2)
  exact hfold [] (.mapping (by simp) (by simp) (by simp) .nil)

theorem wellFormed_elementsOf {b : Bool} {vs : List Value} (hkey : ∀ v ∈ vs, Key v)
    (h : ∀ v ∈ vs, WellFormed v) : WellFormed (.set b (elementsOf vs)) := by
  have hfold (xs : List Value) (hx : ∀ x ∈ xs, WellFormed x) (keys : ∀ x ∈ xs, Key x)
      (apart : xs.Pairwise fun x y => x.sameKey y = false) :
      WellFormed (.set b
        (vs.foldl (fun xs v => if xs.any (·.sameKey v) then xs else xs ++ [v]) xs)) := by
    induction vs generalizing xs with
    | nil => exact .set hx keys apart
    | cons v vs ih =>
      rw [List.forall_mem_cons] at hkey h
      rw [List.foldl_cons]
      split
      · exact ih hkey.2 h.2 xs hx keys apart
      · next hnew =>
        simp only [List.any_eq_true, not_exists, not_and, Bool.not_eq_true] at hnew
        refine ih hkey.2 h.2 (xs ++ [v]) ?_ ?_ ?_
        · simpa [or_imp, forall_and] using ⟨hx, h.1⟩
        · simpa [or_imp, forall_and] using ⟨keys, hkey.1⟩
        · simpa [List.pairwise_append] using ⟨apart, hnew⟩
  exact hfold [] (by simp) (by simp) .nil

end GraphTemplate.Value
