import GraphTemplate.Entity
import Mathlib.Data.List.Forall2
import Mathlib.Tactic.Ring

/-! Deep equality of values and of contents is an equivalence relation. Values with parts are
compared part by part, all others by kind; induction on values follows the same division. -/
namespace GraphTemplate

namespace Moment

theorem same_iff {a b : Moment} :
    a.same b = true ↔ a.offset.isSome = b.offset.isSome ∧ a.instant = b.instant := by
  simp [same]

end Moment

namespace Binary64

theorem same_iff {x y : Binary64} : x.same y = true ↔
    (x.isFinite = true ∧ y.isFinite = true ∧ x.scaledInt = y.scaledInt) ∨
    ((x.isFinite = false ∨ y.isFinite = false) ∧ x.isInfinite = true ∧ y.isInfinite = true ∧
      x.negative = y.negative) := by
  unfold same
  cases x.isFinite <;> cases y.isFinite <;> simp [and_assoc]

theorem not_isFinite_of_isInfinite {x : Binary64} (h : x.isInfinite = true) :
    x.isFinite = false := by
  simp only [isInfinite, Bool.and_eq_true, beq_iff_eq] at h
  simp [isFinite, h.1]

theorem same_trans {x y z : Binary64} (h : x.same y = true) (k : y.same z = true) :
    x.same z = true := by
  rw [same_iff] at h k ⊢
  rcases h with ⟨hx, hy, he⟩ | ⟨_, hx, hy, he⟩
  · rcases k with ⟨_, hz, ke⟩ | ⟨_, hy', _⟩
    · exact Or.inl ⟨hx, hz, he.trans ke⟩
    · rw [not_isFinite_of_isInfinite hy'] at hy; cases hy
  · rcases k with ⟨hy', _⟩ | ⟨_, _, hz, ke⟩
    · rw [not_isFinite_of_isInfinite hy] at hy'; cases hy'
    · exact Or.inr ⟨Or.inl (not_isFinite_of_isInfinite hx), hx, hz, he.trans ke⟩

end Binary64

namespace DecimalNumber

theorem ratio?_pos {d : DecimalNumber} {a : Int} {m : Nat} (h : d.ratio? = some (a, m)) :
    0 < m := by
  cases d with
  | finite s c e =>
    simp only [ratio?, Option.some.injEq] at h
    split at h <;> cases h
    · exact Nat.one_pos
    · exact Nat.pow_pos (by decide)
  | _ => simp [ratio?] at h

end DecimalNumber

namespace Value

theorem same_float_iff {x y : Binary64} {i j : Nat} :
    sameNumber (.float x i) (.float y j) = true ↔ x.same y = true ∨ (i = j ∧ x = y) := by
  simp [sameNumber]

/-- A finite decimal number is a quotient; any other equals itself unless it is a non-number, and
that only as one object. -/
theorem same_decimal_iff {d e : DecimalNumber} {i j : Nat} :
    sameNumber (.decimal d i) (.decimal e j) = true ↔ (i = j ∧ d = e) ∨
      (∃ a m b n, d.ratio? = some (a, m) ∧ e.ratio? = some (b, n) ∧ a * n = b * m) ∨
      ((d.ratio? = none ∨ e.ratio? = none) ∧ d = e ∧ d.isNaN = false) := by
  unfold sameNumber
  cases hd : d.ratio? <;> cases he : e.ratio? <;> simp [hd, he, Prod.ext_iff]

theorem same_decimal_trans {d e f : DecimalNumber} {i j l : Nat}
    (h : sameNumber (.decimal d i) (.decimal e j) = true)
    (k : sameNumber (.decimal e j) (.decimal f l) = true) :
    sameNumber (.decimal d i) (.decimal f l) = true := by
  rw [same_decimal_iff] at h k
  rcases h with ⟨rfl, rfl⟩ | ⟨a, m, b, n, hd, he, h⟩ | ⟨hn, rfl, h⟩
  · exact same_decimal_iff.mpr k
  · rcases k with ⟨rfl, rfl⟩ | ⟨b', n', c, p, he', hf, k⟩ | ⟨kn, rfl, k⟩
    · exact same_decimal_iff.mpr (Or.inr (Or.inl ⟨a, m, b, n, hd, he, h⟩))
    · rw [he] at he'
      cases he'
      have hp : (n : Int) ≠ 0 := by have := DecimalNumber.ratio?_pos he; omega
      have hx : a * p = c * m := by
        apply mul_right_cancel₀ hp
        calc a * p * n = a * n * p := by ring
          _ = b * m * p := by rw [h]
          _ = b * p * m := by ring
          _ = c * n * m := by rw [k]
          _ = c * m * n := by ring
      exact same_decimal_iff.mpr (Or.inr (Or.inl ⟨a, m, c, p, hd, hf, hx⟩))
    · exact same_decimal_iff.mpr (Or.inr (Or.inl ⟨a, m, b, n, hd, he, h⟩))
  · rcases k with ⟨rfl, rfl⟩ | ⟨b', n', c, p, he', hf, k⟩ | ⟨kn, rfl, k⟩
    · exact same_decimal_iff.mpr (Or.inr (Or.inr ⟨hn, rfl, h⟩))
    · exact same_decimal_iff.mpr (Or.inr (Or.inl ⟨b', n', c, p, he', hf, k⟩))
    · exact same_decimal_iff.mpr (Or.inr (Or.inr ⟨kn, rfl, k⟩))

def isAtom : Value → Bool
  | sequence .. | set .. | mapping .. | record .namedTuple .. => false
  | _ => true

/-- Induction over the parts that deep equality looks at. -/
@[elab_as_elim]
theorem induction_on_parts {P : Value → Prop} (v : Value)
    (atom : ∀ v, v.isAtom = true → P v)
    (sequence : ∀ k xs, (∀ x ∈ xs, P x) → P (.sequence k xs))
    (set : ∀ b xs, (∀ x ∈ xs, P x) → P (.set b xs))
    (mapping : ∀ k es, (∀ e ∈ es, P e.1 ∧ P e.2) → P (.mapping k es))
    (namedTuple : ∀ name i fs, (∀ f ∈ fs, P f.2) → P (.record .namedTuple name i fs)) : P v :=
  match v with
  | .sequence k xs => sequence k xs fun x hx => by
      have := List.sizeOf_lt_of_mem hx
      exact induction_on_parts x atom sequence set mapping namedTuple
  | .set b xs => set b xs fun x hx => by
      have := List.sizeOf_lt_of_mem hx
      exact induction_on_parts x atom sequence set mapping namedTuple
  | .mapping k es => mapping k es fun e he => by
      have := List.sizeOf_lt_of_mem he
      have hs : sizeOf e = 1 + sizeOf e.1 + sizeOf e.2 := by cases e; rfl
      exact ⟨induction_on_parts e.1 atom sequence set mapping namedTuple,
        induction_on_parts e.2 atom sequence set mapping namedTuple⟩
  | .record .namedTuple name i fs => namedTuple name i fs fun f hf => by
      have := List.sizeOf_lt_of_mem hf
      have hs : sizeOf f = 1 + sizeOf f.1 + sizeOf f.2 := by cases f; rfl
      exact induction_on_parts f.2 atom sequence set mapping namedTuple
  | .record .dataclass n i fs => atom (.record .dataclass n i fs) rfl
  | .record .object n i fs => atom (.record .object n i fs) rfl
  | .record .nameless n i fs => atom (.record .nameless n i fs) rfl
  | .null => atom .null rfl
  | .bool b => atom (.bool b) rfl
  | .int n => atom (.int n) rfl
  | .float x i => atom (.float x i) rfl
  | .decimal d i => atom (.decimal d i) rfl
  | .fraction n d => atom (.fraction n d) rfl
  | .text s => atom (.text s) rfl
  | .bytes m os => atom (.bytes m os) rfl
  | .date d => atom (.date d) rfl
  | .moment m => atom (.moment m) rfl
  | .range a b s => atom (.range a b s) rfl
  | .special s => atom (.special s) rfl
termination_by sizeOf v
decreasing_by all_goals simp_wf; omega

theorem forall₂_flip {α β : Type} {R : α → β → Prop} {S : β → α → Prop} {xs : List α}
    {ys : List β} (h : List.Forall₂ R xs ys) (hs : ∀ x ∈ xs, ∀ y, R x y → S y x) :
    List.Forall₂ S ys xs := by
  induction h with
  | nil => exact .nil
  | cons hr _ ih =>
    exact .cons (hs _ (by simp) _ hr) (ih fun x hx => hs x (by simp [hx]))

theorem forall₂_comp {α β γ : Type} {R : α → β → Prop} {S : β → γ → Prop} {T : α → γ → Prop}
    {xs : List α} {ys : List β} {zs : List γ} (h : List.Forall₂ R xs ys)
    (k : List.Forall₂ S ys zs) (ht : ∀ x ∈ xs, ∀ y z, R x y → S y z → T x z) :
    List.Forall₂ T xs zs := by
  induction h generalizing zs with
  | nil => cases k; exact .nil
  | cons hr _ ih =>
    cases k with
    | cons hs k =>
      exact .cons (ht _ (by simp) _ _ hr hs) (ih k fun x hx => ht x (by simp [hx]))

theorem allAlike_iff {xs ys : List Value} :
    allAlike xs ys = true ↔ List.Forall₂ (fun x y => x.alike y = true) xs ys := by
  induction xs generalizing ys with
  | nil => cases ys <;> simp [allAlike]
  | cons x xs ih => cases ys <;> simp [allAlike, ih]

theorem fieldsAlike_iff {fs gs : List (String × Value)} :
    fieldsAlike fs gs = true ↔ List.Forall₂ (fun f g => f.2.alike g.2 = true) fs gs := by
  induction fs generalizing gs with
  | nil => cases gs <;> simp [fieldsAlike]
  | cons f fs ih =>
    cases gs with
    | nil => simp [fieldsAlike]
    | cons g gs => obtain ⟨n, x⟩ := f; simp [fieldsAlike, ih]

theorem elementsWithin_iff {xs ys : List Value} :
    elementsWithin xs ys = true ↔ ∀ x ∈ xs, ∃ y ∈ ys, x.alike y = true := by
  induction xs with
  | nil => simp [elementsWithin]
  | cons x xs ih => simp [elementsWithin, ih]

theorem elementAmong_iff {xs : List Value} {y : Value} :
    elementAmong xs y = true ↔ ∃ x ∈ xs, x.alike y = true := by
  induction xs with
  | nil => simp [elementAmong]
  | cons x xs ih => simp [elementAmong, ih]

theorem entriesWithin_iff {es fs : List (Value × Value)} :
    entriesWithin es fs = true ↔
      ∀ e ∈ es, ∃ f ∈ fs, e.1.alike f.1 = true ∧ e.2.alike f.2 = true := by
  induction es with
  | nil => simp [entriesWithin]
  | cons e es ih => obtain ⟨k, v⟩ := e; simp [entriesWithin, ih]

theorem entryAmong_iff {es : List (Value × Value)} {k v : Value} :
    entryAmong es k v = true ↔ ∃ e ∈ es, e.1.alike k = true ∧ e.2.alike v = true := by
  induction es with
  | nil => simp [entryAmong]
  | cons e es ih => obtain ⟨k', v'⟩ := e; simp [entryAmong, ih]

theorem alike_sequence_iff {k : SequenceKind} {xs : List Value} {w : Value} :
    (sequence k xs).alike w = true ↔
      ∃ ys, w = sequence k ys ∧ List.Forall₂ (fun x y => x.alike y = true) xs ys := by
  constructor
  · intro h
    cases w with
    | sequence l ys =>
      simp only [alike, Bool.and_eq_true, beq_iff_eq, allAlike_iff] at h
      obtain ⟨rfl, h⟩ := h
      exact ⟨ys, rfl, h⟩
    | _ => unfold alike at h; cases h
  · rintro ⟨ys, rfl, h⟩
    simpa only [alike, beq_self_eq_true, Bool.true_and, allAlike_iff] using h

theorem alike_set_iff {b : Bool} {xs : List Value} {w : Value} :
    (set b xs).alike w = true ↔ ∃ ys, w = set b ys ∧
      (∀ x ∈ xs, ∃ y ∈ ys, x.alike y = true) ∧ ∀ y ∈ ys, ∃ x ∈ xs, x.alike y = true := by
  constructor
  · intro h
    cases w with
    | set c ys =>
      simp only [alike, Bool.and_eq_true, beq_iff_eq, elementsWithin_iff, List.all_eq_true,
        elementAmong_iff] at h
      obtain ⟨⟨rfl, h⟩, k⟩ := h
      exact ⟨ys, rfl, h, k⟩
    | _ => unfold alike at h; cases h
  · rintro ⟨ys, rfl, h, k⟩
    simp only [alike, beq_self_eq_true, Bool.true_and, Bool.and_eq_true, elementsWithin_iff,
      List.all_eq_true, elementAmong_iff]
    exact ⟨h, k⟩

theorem alike_mapping_iff {k : MappingKind} {es : List (Value × Value)} {w : Value} :
    (mapping k es).alike w = true ↔ ∃ l fs, w = mapping l fs ∧
      (∀ e ∈ es, ∃ f ∈ fs, e.1.alike f.1 = true ∧ e.2.alike f.2 = true) ∧
      ∀ f ∈ fs, ∃ e ∈ es, e.1.alike f.1 = true ∧ e.2.alike f.2 = true := by
  constructor
  · intro h
    cases w with
    | mapping l fs =>
      simp only [alike, Bool.and_eq_true, entriesWithin_iff, List.all_eq_true,
        entryAmong_iff] at h
      exact ⟨l, fs, rfl, h⟩
    | _ => unfold alike at h; cases h
  · rintro ⟨l, fs, rfl, h, k⟩
    simp only [alike, Bool.and_eq_true, entriesWithin_iff, List.all_eq_true, entryAmong_iff]
    exact ⟨h, k⟩

theorem alike_namedTuple_iff {name : String} {i : Nat} {fs : List (String × Value)} {w : Value} :
    (record .namedTuple name i fs).alike w = true ↔ ∃ name' gs,
      w = record .namedTuple name' i gs ∧
      List.Forall₂ (fun f g => f.2.alike g.2 = true) fs gs := by
  constructor
  · intro h
    cases w with
    | record k n j gs =>
      cases k with
      | namedTuple =>
        simp only [alike, Bool.and_eq_true, beq_iff_eq, fieldsAlike_iff] at h
        obtain ⟨rfl, h⟩ := h
        exact ⟨n, gs, rfl, h⟩
      | _ => unfold alike at h; cases h
    | _ => unfold alike at h; cases h
  · rintro ⟨n, gs, rfl, h⟩
    simpa only [alike, beq_self_eq_true, Bool.true_and, fieldsAlike_iff] using h

inductive AtomsAlike : Value → Value → Prop where
  | null : AtomsAlike .null .null
  | bool (b) : AtomsAlike (.bool b) (.bool b)
  | int (n) : AtomsAlike (.int n) (.int n)
  | float {x i y j} : sameNumber (.float x i) (.float y j) = true →
      AtomsAlike (.float x i) (.float y j)
  | decimal {d i e j} : sameNumber (.decimal d i) (.decimal e j) = true →
      AtomsAlike (.decimal d i) (.decimal e j)
  | fraction (n d) : AtomsAlike (.fraction n d) (.fraction n d)
  | text (s) : AtomsAlike (.text s) (.text s)
  | bytes (m os) : AtomsAlike (.bytes m os) (.bytes m os)
  | date (d) : AtomsAlike (.date d) (.date d)
  | moment {m n} : m.same n = true → AtomsAlike (.moment m) (.moment n)
  | range {a b s a' b' s'} : rangeItems a b s = rangeItems a' b' s' →
      AtomsAlike (.range a b s) (.range a' b' s')
  | record (k name name' i fs gs) : AtomsAlike (.record k name i fs) (.record k name' i gs)
  | special (s) : AtomsAlike (.special s) (.special s)

theorem alikeAtom_iff {v w : Value} : alikeAtom v w = true ↔ AtomsAlike v w := by
  constructor
  · intro h
    unfold alikeAtom at h
    split at h
    · exact .null
    · rw [beq_iff_eq.mp h]; exact .bool _
    · rw [beq_iff_eq.mp h]; exact .int _
    · exact .float h
    · exact .decimal h
    · obtain ⟨hn, hd⟩ := Bool.and_eq_true_iff.mp h
      rw [beq_iff_eq.mp hn, beq_iff_eq.mp hd]
      exact .fraction _ _
    · rw [beq_iff_eq.mp h]; exact .text _
    · obtain ⟨hm, ho⟩ := Bool.and_eq_true_iff.mp h
      rw [beq_iff_eq.mp hm, beq_iff_eq.mp ho]
      exact .bytes _ _
    · rw [beq_iff_eq.mp h]; exact .date _
    · exact .moment h
    · exact .range (beq_iff_eq.mp h)
    · obtain ⟨hk, hi⟩ := Bool.and_eq_true_iff.mp h
      rw [beq_iff_eq.mp hk, beq_iff_eq.mp hi]
      exact .record _ _ _ _ _ _
    · rw [beq_iff_eq.mp h]; exact .special _
    · cases h
  · intro h
    cases h with
    | float h | decimal h | moment h => exact h
    | range h => exact beq_iff_eq.mpr h
    | null => rfl
    | fraction | bytes | record =>
      exact Bool.and_eq_true_iff.mpr ⟨beq_iff_eq.mpr rfl, beq_iff_eq.mpr rfl⟩
    | _ => exact beq_iff_eq.mpr rfl

theorem alike_atom_iff {v w : Value} (h : v.isAtom = true) :
    v.alike w = true ↔ AtomsAlike v w := by
  rw [← alikeAtom_iff]
  cases v with
  | record k n i fs =>
    cases k with
    | namedTuple => cases h
    | _ => unfold alike; rfl
  | sequence | set | mapping => cases h
  | _ => unfold alike; rfl

theorem AtomsAlike.isAtom {v w : Value} (h : AtomsAlike v w) (hv : v.isAtom = true) :
    w.isAtom = true := by
  cases h with
  | record k => cases k <;> first | rfl | cases hv
  | _ => rfl

theorem AtomsAlike.refl {v : Value} (h : v.isAtom = true) : AtomsAlike v v := by
  cases v with
  | float x i => exact .float (same_float_iff.mpr (Or.inr ⟨rfl, rfl⟩))
  | decimal d i => exact .decimal (same_decimal_iff.mpr (Or.inl ⟨rfl, rfl⟩))
  | moment m => exact .moment (Moment.same_iff.mpr ⟨rfl, rfl⟩)
  | range => exact .range rfl
  | null => exact .null
  | bool => exact .bool _
  | int => exact .int _
  | fraction => exact .fraction _ _
  | text => exact .text _
  | bytes => exact .bytes _ _
  | date => exact .date _
  | record => exact .record _ _ _ _ _ _
  | special => exact .special _
  | sequence | set | mapping => cases h

theorem AtomsAlike.symm {v w : Value} (h : AtomsAlike v w) : AtomsAlike w v := by
  cases h with
  | float h =>
    rw [same_float_iff] at h
    refine .float (same_float_iff.mpr ?_)
    rcases h with h | ⟨rfl, rfl⟩
    · exact Or.inl (by rwa [Binary64.same_comm])
    · exact Or.inr ⟨rfl, rfl⟩
  | decimal h =>
    rw [same_decimal_iff] at h
    refine .decimal (same_decimal_iff.mpr ?_)
    rcases h with ⟨rfl, rfl⟩ | ⟨a, m, b, n, hd, he, h⟩ | ⟨hn, rfl, h⟩
    · exact Or.inl ⟨rfl, rfl⟩
    · exact Or.inr (Or.inl ⟨b, n, a, m, he, hd, h.symm⟩)
    · exact Or.inr (Or.inr ⟨hn.symm, rfl, h⟩)
  | moment h =>
    have hs := Moment.same_iff.mp h
    exact .moment (Moment.same_iff.mpr ⟨hs.1.symm, hs.2.symm⟩)
  | range h => exact .range h.symm
  | null => exact .null
  | bool => exact .bool _
  | int => exact .int _
  | fraction => exact .fraction _ _
  | text => exact .text _
  | bytes => exact .bytes _ _
  | date => exact .date _
  | record => exact .record _ _ _ _ _ _
  | special => exact .special _

theorem AtomsAlike.trans {u v w : Value} (h : AtomsAlike u v) (k : AtomsAlike v w) :
    AtomsAlike u w := by
  cases h with
  | float h =>
    cases k with
    | float k =>
      rw [same_float_iff] at h k
      refine .float (same_float_iff.mpr ?_)
      rcases h with h | ⟨rfl, rfl⟩
      · rcases k with k | ⟨rfl, rfl⟩
        · exact Or.inl (Binary64.same_trans h k)
        · exact Or.inl h
      · exact k
  | decimal h => cases k with | decimal k => exact .decimal (same_decimal_trans h k)
  | moment h =>
    cases k with
    | moment k =>
      rw [Moment.same_iff] at h k
      exact .moment (Moment.same_iff.mpr ⟨h.1.trans k.1, h.2.trans k.2⟩)
  | range h => cases k with | range k => exact .range (h.trans k)
  | record => cases k; exact .record _ _ _ _ _ _
  | null => exact k
  | bool => exact k
  | int => exact k
  | fraction => exact k
  | text => exact k
  | bytes => exact k
  | date => exact k
  | special => exact k

theorem alike_refl (v : Value) : v.alike v = true := by
  induction v using induction_on_parts with
  | atom v h => exact (alike_atom_iff h).mpr (.refl h)
  | sequence k xs ih => exact alike_sequence_iff.mpr ⟨xs, rfl, List.forall₂_same.mpr ih⟩
  | set b xs ih =>
    exact alike_set_iff.mpr ⟨xs, rfl, fun x hx => ⟨x, hx, ih x hx⟩, fun x hx => ⟨x, hx, ih x hx⟩⟩
  | mapping k es ih =>
    exact alike_mapping_iff.mpr
      ⟨k, es, rfl, fun e he => ⟨e, he, ih e he⟩, fun e he => ⟨e, he, ih e he⟩⟩
  | namedTuple name i fs ih =>
    exact alike_namedTuple_iff.mpr ⟨name, fs, rfl, List.forall₂_same.mpr ih⟩

theorem alike_symm {v w : Value} (h : v.alike w = true) : w.alike v = true := by
  induction v using induction_on_parts generalizing w with
  | atom v hv =>
    have ha := (alike_atom_iff hv).mp h
    exact (alike_atom_iff (ha.isAtom hv)).mpr ha.symm
  | sequence k xs ih =>
    obtain ⟨ys, rfl, hp⟩ := alike_sequence_iff.mp h
    exact alike_sequence_iff.mpr ⟨xs, rfl, forall₂_flip hp fun x hx y hxy => ih x hx hxy⟩
  | set b xs ih =>
    obtain ⟨ys, rfl, h, k⟩ := alike_set_iff.mp h
    refine alike_set_iff.mpr ⟨xs, rfl, ?_, ?_⟩
    · intro y hy
      obtain ⟨x, hx, hxy⟩ := k y hy
      exact ⟨x, hx, ih x hx hxy⟩
    · intro x hx
      obtain ⟨y, hy, hxy⟩ := h x hx
      exact ⟨y, hy, ih x hx hxy⟩
  | mapping k es ih =>
    obtain ⟨l, fs, rfl, h, h'⟩ := alike_mapping_iff.mp h
    refine alike_mapping_iff.mpr ⟨k, es, rfl, ?_, ?_⟩
    · intro f hf
      obtain ⟨e, he, hk, hv⟩ := h' f hf
      exact ⟨e, he, (ih e he).1 hk, (ih e he).2 hv⟩
    · intro e he
      obtain ⟨f, hf, hk, hv⟩ := h e he
      exact ⟨f, hf, (ih e he).1 hk, (ih e he).2 hv⟩
  | namedTuple name i fs ih =>
    obtain ⟨n, gs, rfl, hp⟩ := alike_namedTuple_iff.mp h
    exact alike_namedTuple_iff.mpr ⟨name, fs, rfl, forall₂_flip hp fun f hf g hfg => ih f hf hfg⟩

theorem alike_trans {u v w : Value} (h : u.alike v = true) (k : v.alike w = true) :
    u.alike w = true := by
  induction u using induction_on_parts generalizing v w with
  | atom u hu =>
    have ha := (alike_atom_iff hu).mp h
    exact (alike_atom_iff hu).mpr (ha.trans ((alike_atom_iff (ha.isAtom hu)).mp k))
  | sequence l xs ih =>
    obtain ⟨ys, rfl, hp⟩ := alike_sequence_iff.mp h
    obtain ⟨zs, rfl, kp⟩ := alike_sequence_iff.mp k
    exact alike_sequence_iff.mpr
      ⟨zs, rfl, forall₂_comp hp kp fun x hx y z hxy hyz => ih x hx hxy hyz⟩
  | set b xs ih =>
    obtain ⟨ys, rfl, h, h'⟩ := alike_set_iff.mp h
    obtain ⟨zs, rfl, k, k'⟩ := alike_set_iff.mp k
    refine alike_set_iff.mpr ⟨zs, rfl, ?_, ?_⟩
    · intro x hx
      obtain ⟨y, hy, hxy⟩ := h x hx
      obtain ⟨z, hz, hyz⟩ := k y hy
      exact ⟨z, hz, ih x hx hxy hyz⟩
    · intro z hz
      obtain ⟨y, hy, hyz⟩ := k' z hz
      obtain ⟨x, hx, hxy⟩ := h' y hy
      exact ⟨x, hx, ih x hx hxy hyz⟩
  | mapping l es ih =>
    obtain ⟨_, fs, rfl, h, h'⟩ := alike_mapping_iff.mp h
    obtain ⟨m, gs, rfl, k, k'⟩ := alike_mapping_iff.mp k
    refine alike_mapping_iff.mpr ⟨m, gs, rfl, ?_, ?_⟩
    · intro e he
      obtain ⟨f, hf, hk, hv⟩ := h e he
      obtain ⟨g, hg, hk', hv'⟩ := k f hf
      exact ⟨g, hg, (ih e he).1 hk hk', (ih e he).2 hv hv'⟩
    · intro g hg
      obtain ⟨f, hf, hk', hv'⟩ := k' g hg
      obtain ⟨e, he, hk, hv⟩ := h' f hf
      exact ⟨e, he, (ih e he).1 hk hk', (ih e he).2 hv hv'⟩
  | namedTuple name i fs ih =>
    obtain ⟨_, gs, rfl, hp⟩ := alike_namedTuple_iff.mp h
    obtain ⟨n, hs, rfl, kp⟩ := alike_namedTuple_iff.mp k
    exact alike_namedTuple_iff.mpr
      ⟨n, hs, rfl, forall₂_comp hp kp fun f hf g g' hfg hgg => ih f hf hfg hgg⟩

end Value

namespace Entity

theorem alike_iff {a b : Entity} : a.alike b = true ↔ a.typeName = b.typeName ∧
    (Value.mapping .plain a.properties).alike (.mapping .plain b.properties) = true := by
  simp [alike]

@[simp] theorem alike_refl (a : Entity) : a.alike a = true :=
  alike_iff.mpr ⟨rfl, Value.alike_refl _⟩

theorem alike_symm {a b : Entity} (h : a.alike b = true) : b.alike a = true := by
  have hs := alike_iff.mp h
  exact alike_iff.mpr ⟨hs.1.symm, Value.alike_symm hs.2⟩

theorem alike_trans {a b c : Entity} (h : a.alike b = true) (k : b.alike c = true) :
    a.alike c = true := by
  have hs := alike_iff.mp h
  have ks := alike_iff.mp k
  exact alike_iff.mpr ⟨hs.1.trans ks.1, Value.alike_trans hs.2 ks.2⟩

theorem alike_comm (a b : Entity) : a.alike b = b.alike a :=
  Bool.eq_iff_iff.mpr ⟨alike_symm, alike_symm⟩

/-- Equal contents are equal to the same contents. -/
theorem alike_congr {a b : Entity} (h : a.alike b = true) (c : Entity) : a.alike c = b.alike c :=
  Bool.eq_iff_iff.mpr ⟨alike_trans (alike_symm h), alike_trans h⟩

end Entity

end GraphTemplate
