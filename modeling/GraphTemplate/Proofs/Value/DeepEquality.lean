import GraphTemplate.Proofs.Value.Keys
import GraphTemplate.Proofs.Value.Unhashable

/-! Equality of entities is typed deep equality: their values are the same tree, with the entries of
mappings and the elements of sets in any order. That each part is found among the others is enough
for a pairing, as what a mapping or a set holds is told apart. -/
namespace GraphTemplate

namespace Value

/-- Values without parts that are of one runtime type. Records and special values are equal only if
they are one object, so that their classes need not be told apart. -/
inductive SameType : Value → Value → Prop where
  | null : SameType .null .null
  | bool (a b) : SameType (.bool a) (.bool b)
  | int (m n) : SameType (.int m) (.int n)
  | float (x i y j) : SameType (.float x i) (.float y j)
  | decimal (d i e j) : SameType (.decimal d i) (.decimal e j)
  | fraction (n d n' d') : SameType (.fraction n d) (.fraction n' d')
  | text (s t) : SameType (.text s) (.text t)
  | octets (m os os') : SameType (.bytes m os) (.bytes m os')
  | date (d d') : SameType (.date d) (.date d')
  | moment (m n) : SameType (.moment m) (.moment n)
  | range (a b s a' b' s') : SameType (.range a b s) (.range a' b' s')
  | record {k} (hk : k ≠ .namedTuple) (name i fs name' j gs) :
      SameType (.record k name i fs) (.record k name' j gs)
  | special (s t) : SameType (.special s) (.special t)

/-- Mappings of any classes with a bijection between their entries, lists and tuples of one class
with equal elements, sets of one class with a bijection between their elements, and other values of
one type that are the same as keys are: one object, or equal by their own equality. -/
inductive DeepEqual : Value → Value → Prop where
  | mapping {k l : MappingKind} {es fs : List (Value × Value)}
      (pairing : Fin es.length ≃ Fin fs.length)
      (keys : ∀ i, DeepEqual (es.get i).1 (fs.get (pairing i)).1)
      (values : ∀ i, DeepEqual (es.get i).2 (fs.get (pairing i)).2) :
      DeepEqual (.mapping k es) (.mapping l fs)
  | sequence {k : SequenceKind} {xs ys : List Value} (hk : k ≠ .deque)
      (length : xs.length = ys.length)
      (items : ∀ i (h : i < xs.length) (h' : i < ys.length), DeepEqual xs[i] ys[i]) :
      DeepEqual (.sequence k xs) (.sequence k ys)
  | namedTuple {name name' : String} {i : Nat} {fs gs : List (String × Value)}
      (length : fs.length = gs.length)
      (items : ∀ i (h : i < fs.length) (h' : i < gs.length), DeepEqual fs[i].2 gs[i].2) :
      DeepEqual (.record .namedTuple name i fs) (.record .namedTuple name' i gs)
  | set {b : Bool} {xs ys : List Value} (pairing : Fin xs.length ≃ Fin ys.length)
      (elements : ∀ i, DeepEqual (xs.get i) (ys.get (pairing i))) :
      DeepEqual (.set b xs) (.set b ys)
  | atom {v w : Value} (type : SameType v w) (h : v.sameKey w = true) : DeepEqual v w

variable {v w : Value}

theorem AtomsAlike.sameType (h : AtomsAlike v w) (hv : v.isAtom = true) : SameType v w := by
  cases h with
  | record k =>
    refine .record ?_ _ _ _ _ _ _
    rintro rfl
    cases hv
  | _ => constructor

theorem SameType.isAtom (h : SameType v w) : v.isAtom = true := by
  cases h with
  | @record k hk =>
    cases k with
    | namedTuple => exact absurd rfl hk
    | _ => rfl
  | _ => rfl

theorem SameType.symm (h : SameType v w) : SameType w v := by
  cases h with
  | record hk => exact .record hk _ _ _ _ _ _
  | _ => constructor

/-- Fractions in lowest terms are equal only if their terms are. -/
theorem fraction_inj {n n' : Int} {d d' : Nat} (h : (fraction n d).Reduced)
    (h' : (fraction n' d').Reduced) (he : n * d' = n' * d) : n = n' ∧ d = d' := by
  have hnat : n.natAbs * d' = n'.natAbs * d := by
    simpa [Int.natAbs_mul] using congrArg Int.natAbs he
  have hd : d ∣ d' := h.2.symm.dvd_of_dvd_mul_left (Dvd.intro_left _ hnat.symm)
  have hd' : d' ∣ d := h'.2.symm.dvd_of_dvd_mul_left (Dvd.intro_left _ hnat)
  obtain rfl := Nat.dvd_antisymm hd hd'
  have hpos : (d : Int) ≠ 0 := Int.natCast_ne_zero.mpr h.1.ne'
  exact ⟨Int.eq_of_mul_eq_mul_right hpos he, rfl⟩

theorem SameType.atomsAlike (ht : SameType v w) (hv : v.Reduced) (hw : w.Reduced)
    (h : v.sameAtom w = true) : AtomsAlike v w := by
  cases ht with
  | null => exact .null
  | float => exact .float h
  | decimal => exact .decimal h
  | moment => exact .moment h
  | range => exact .range (beq_iff_eq.mp h)
  | record => exact beq_iff_eq.mp h ▸ .record _ _ _ _ _ _
  | bool a b => cases a <;> cases b <;> first | exact .bool _ | cases h
  | int m n =>
    have he : m * 1 = n * 1 := beq_iff_eq.mp h
    rw [Int.mul_one, Int.mul_one] at he
    exact he ▸ .int m
  | fraction n d n' d' =>
    obtain ⟨rfl, rfl⟩ := fraction_inj hv hw (beq_iff_eq.mp h)
    exact .fraction n d
  | text => exact beq_iff_eq.mp h ▸ .text _
  | octets => exact beq_iff_eq.mp h ▸ .bytes _ _
  | date => exact beq_iff_eq.mp h ▸ .date _
  | special => exact beq_iff_eq.mp h ▸ .special _

theorem deepEqual_atom_iff (hv : WellFormed v) (hw : WellFormed w) (ha : v.isAtom = true) :
    DeepEqual v w ↔ v.alike w = true := by
  rw [alike_atom_iff ha]
  constructor
  · intro h
    cases h with
    | atom type h =>
      rw [sameKey_atom ha] at h
      exact type.atomsAlike (hv.reduced ha) (hw.reduced type.symm.isAtom) h
    | _ => cases ha
  · intro h
    refine .atom (h.sameType ha) ?_
    rw [sameKey_atom ha]
    exact h.sameAtom

/-- Lists of parts are alike one by one just if they are of one length and deep-equal by place. -/
theorem forall₂_alike_iff {α : Type} (part : α → Value) {xs ys : List α}
    (h : ∀ x ∈ xs, ∀ y ∈ ys, DeepEqual (part x) (part y) ↔ (part x).alike (part y) = true) :
    List.Forall₂ (fun x y => (part x).alike (part y) = true) xs ys ↔ xs.length = ys.length ∧
      ∀ i (_ : i < xs.length) (_ : i < ys.length), DeepEqual (part xs[i]) (part ys[i]) := by
  have hiff i (hi : i < xs.length) (hi' : i < ys.length) :
      DeepEqual (part xs[i]) (part ys[i]) ↔ (part xs[i]).alike (part ys[i]) = true :=
    h _ (xs.getElem_mem hi) _ (ys.getElem_mem hi')
  rw [List.forall₂_iff_get]
  constructor
  · rintro ⟨length, h⟩
    exact ⟨length, fun i hi hi' => (hiff i hi hi').mpr (h i hi hi')⟩
  · rintro ⟨length, h⟩
    exact ⟨length, fun i hi hi' => (hiff i hi hi').mp (h i hi hi')⟩

theorem deepEqual_sequence_iff {k : SequenceKind} {xs : List Value} (hk : k ≠ .deque)
    (h : ∀ ys, w = .sequence k ys → ∀ x ∈ xs, ∀ y ∈ ys, DeepEqual x y ↔ x.alike y = true) :
    DeepEqual (.sequence k xs) w ↔ (sequence k xs).alike w = true := by
  rw [alike_sequence_iff]
  constructor
  · intro he
    cases he with
    | atom type => cases type.isAtom
    | @sequence _ _ ys _ length items =>
      exact ⟨ys, rfl, (forall₂_alike_iff id (h ys rfl)).mpr ⟨length, items⟩⟩
  · rintro ⟨ys, rfl, he⟩
    obtain ⟨length, items⟩ := (forall₂_alike_iff id (h ys rfl)).mp he
    exact .sequence hk length items

theorem deepEqual_namedTuple_iff {name : String} {i : Nat} {fs : List (String × Value)}
    (h : ∀ name' gs, w = .record .namedTuple name' i gs →
      ∀ f ∈ fs, ∀ g ∈ gs, DeepEqual f.2 g.2 ↔ f.2.alike g.2 = true) :
    DeepEqual (.record .namedTuple name i fs) w ↔
      (record .namedTuple name i fs).alike w = true := by
  rw [alike_namedTuple_iff]
  constructor
  · intro he
    cases he with
    | atom type => cases type.isAtom
    | @namedTuple _ name' _ _ gs length items =>
      exact ⟨name', gs, rfl, (forall₂_alike_iff Prod.snd (h name' gs rfl)).mpr ⟨length, items⟩⟩
  · rintro ⟨name', gs, rfl, he⟩
    obtain ⟨length, items⟩ := (forall₂_alike_iff Prod.snd (h name' gs rfl)).mp he
    exact .namedTuple length items

theorem deepEqual_set_iff {b : Bool} {xs : List Value} (hv : WellFormed (.set b xs))
    (hw : WellFormed w)
    (h : ∀ ys, w = .set b ys → ∀ x ∈ xs, ∀ y ∈ ys, DeepEqual x y ↔ x.alike y = true) :
    DeepEqual (.set b xs) w ↔ (set b xs).alike w = true := by
  rw [alike_set_iff]
  constructor
  · intro he
    cases he with
    | atom type => cases type.isAtom
    | @set _ _ ys pairing elements =>
      refine ⟨ys, rfl, partners_of_pairing pairing fun i => ?_⟩
      exact (h ys rfl _ (xs.get_mem i) _ (ys.get_mem _)).mp (elements i)
  · rintro ⟨ys, rfl, he, he'⟩
    obtain ⟨pairing, hp⟩ := exists_pairing id id he he' hv.elements.2 hw.elements.2
    exact .set pairing fun i => (h ys rfl _ (xs.get_mem i) _ (ys.get_mem _)).mpr (hp i)

theorem deepEqual_mapping_iff {k : MappingKind} {es : List (Value × Value)}
    (hv : WellFormed (.mapping k es)) (hw : WellFormed w)
    (h : ∀ l fs, w = .mapping l fs → ∀ e ∈ es, ∀ f ∈ fs,
      (DeepEqual e.1 f.1 ↔ e.1.alike f.1 = true) ∧ (DeepEqual e.2 f.2 ↔ e.2.alike f.2 = true)) :
    DeepEqual (.mapping k es) w ↔ (mapping k es).alike w = true := by
  rw [alike_mapping_iff]
  constructor
  · intro he
    cases he with
    | atom type => cases type.isAtom
    | @mapping _ l _ fs pairing keys values =>
      refine ⟨l, fs, rfl, partners_of_pairing pairing fun i => ?_⟩
      have hi := h l fs rfl _ (es.get_mem i) _ (fs.get_mem (pairing i))
      exact ⟨hi.1.mp (keys i), hi.2.mp (values i)⟩
  · rintro ⟨l, fs, rfl, he, he'⟩
    obtain ⟨pairing, hp⟩ := exists_pairing Prod.fst And.left he he' hv.entries.2 hw.entries.2
    have hi i := h l fs rfl _ (es.get_mem i) _ (fs.get_mem (pairing i))
    exact .mapping pairing (fun i => (hi i).1.mpr (hp i).1) fun i => (hi i).2.mpr (hp i).2

/-- Deep equality is what the comparison decides. -/
theorem deepEqual_iff_alike (hv : WellFormed v) (hw : WellFormed w) (hf : v.hashFault? = none) :
    DeepEqual v w ↔ v.alike w = true := by
  induction v using induction_on_parts generalizing w with
  | atom v ha => exact deepEqual_atom_iff hv hw ha
  | sequence k xs ih =>
    have hk : k ≠ .deque := by
      rintro rfl
      cases hf
    rw [hashFault?_sequence hk, itemsFault?_eq_none_iff] at hf
    refine deepEqual_sequence_iff hk ?_
    rintro ys rfl x hx y hy
    exact ih x hx (hv.items x hx) (hw.items y hy) (hf x hx)
  | set b xs ih =>
    have hf : ∀ x ∈ xs, x.hashFault? = none := itemsFault?_eq_none_iff.mp hf
    refine deepEqual_set_iff hv hw ?_
    rintro ys rfl x hx y hy
    exact ih x hx (hv.elements.1 x hx) (hw.elements.1 y hy) (hf x hx)
  | mapping k es ih =>
    have hf : ∀ e ∈ es, e.1.hashFault? = none ∧ e.2.hashFault? = none :=
      entriesFault?_eq_none_iff.mp hf
    refine deepEqual_mapping_iff hv hw ?_
    rintro l fs rfl e he f hfs
    exact ⟨(ih e he).1 (hv.entries.1 e he).1 (hw.entries.1 f hfs).1 (hf e he).1,
      (ih e he).2 (hv.entries.1 e he).2 (hw.entries.1 f hfs).2 (hf e he).2⟩
  | namedTuple name i fs ih =>
    have hf : ∀ f ∈ fs, f.2.hashFault? = none := fieldsFault?_eq_none_iff.mp hf
    refine deepEqual_namedTuple_iff ?_
    rintro name' gs rfl f hfs g hgs
    exact ih f hfs (hv.fields f hfs) (hw.fields g hgs) (hf f hfs)

end Value

namespace Entity

open Value

variable {a b c e : Entity} {f : Fault}

def content (e : Entity) : Value := .mapping .plain e.properties

def WellFormed (e : Entity) : Prop := e.content.WellFormed

/-- No collection inside itself is a part of the entity. -/
def Finite (e : Entity) : Prop := ∀ isMapping, ¬Occurs (.special (.endless isMapping)) e.content

theorem WellFormed.setProperty {key value : Value} (h : e.WellFormed) (hkey : Key key)
    (hk : key.WellFormed) (hv : value.WellFormed) : (e.setProperty key value).WellFormed :=
  Value.WellFormed.putEntry h hkey hk hv

theorem isHashable_iff : e.isHashable = true ↔ e.content.hashFault? = none := by
  rw [isHashable, Option.isNone_iff_eq_none]
  rfl

theorem hashed_eq_error_iff : e.hashed = .error f ↔ e.content.hashFault? = some f := by
  show _ ↔ entriesFault? e.properties = some f
  unfold hashed
  cases entriesFault? e.properties <;> simp

/-- The first entity is hashed before the second one. -/
theorem same_eq_error_iff : a.same b = .error f ↔
    a.content.hashFault? = some f ∨ a.isHashable = true ∧ b.content.hashFault? = some f := by
  rw [← hashed_eq_error_iff, ← hashed_eq_error_iff]
  cases ha : a.hashed with
  | error f' =>
    have hn : a.isHashable ≠ true := fun h => nomatch ha.symm.trans (hashed_of_isHashable h)
    simp [same, ha, hn, bind, Except.bind]
  | ok a' =>
    obtain ⟨hhash, rfl⟩ := hashed_eq_ok_iff.mp ha
    cases hb : b.hashed <;> simp [same, ha, hb, hhash, bind, Except.bind, pure, Except.pure]

theorem bars_of_same (h : a.same b = .error f) :
    ∃ u, u.Bars f ∧ (Occurs u a.content ∨ Occurs u b.content) := by
  rcases same_eq_error_iff.mp h with h | ⟨-, h⟩
  · obtain ⟨u, hu, hb⟩ := exists_of_hashFault? h
    exact ⟨u, hb, .inl hu⟩
  · obtain ⟨u, hu, hb⟩ := exists_of_hashFault? h
    exact ⟨u, hb, .inr hu⟩

theorem exists_same_eq_error {u : Value} (hb : u.Bars f)
    (hu : Occurs u a.content ∨ Occurs u b.content) : ∃ f', a.same b = .error f' := by
  cases ha : a.content.hashFault? with
  | some f' => exact ⟨f', same_eq_error_iff.mpr (.inl ha)⟩
  | none =>
    rcases hu with hu | hu
    · exact absurd ha (hashFault?_ne_none_of_occurs hu hb)
    · obtain ⟨f', hf'⟩ := Option.ne_none_iff_exists'.mp (hashFault?_ne_none_of_occurs hu hb)
      exact ⟨f', same_eq_error_iff.mpr (.inr ⟨isHashable_iff.mpr ha, hf'⟩)⟩

theorem same_eq_wrongKind_iff (ha : a.Finite) (hb : b.Finite) : a.same b = .error .wrongKind ↔
    ∃ u, Unhashable u ∧ (Occurs u a.content ∨ Occurs u b.content) := by
  constructor
  · intro h
    obtain ⟨u, hu, hocc⟩ := bars_of_same h
    cases hu with
    | unhashable hu => exact ⟨u, hu, hocc⟩
  · rintro ⟨u, hu, hocc⟩
    obtain ⟨f, hf⟩ := exists_same_eq_error (.unhashable hu) hocc
    obtain ⟨w, hw, hoccw⟩ := bars_of_same hf
    cases hw with
    | unhashable => exact hf
    | endless isMapping => exact (hoccw.elim (ha isMapping) (hb isMapping)).elim

theorem same_eq_ok_true_iff : a.same b = .ok true ↔
    a.isHashable = true ∧ b.isHashable = true ∧ a.alike b = true := by
  constructor
  · intro h
    have hhash (e : Entity) (he : ∀ f, e.content.hashFault? ≠ some f) : e.isHashable = true :=
      isHashable_iff.mpr (Option.eq_none_iff_forall_ne_some.mpr he)
    have ha : a.isHashable = true := hhash a fun f hf =>
      nomatch h.symm.trans (same_eq_error_iff.mpr (.inl hf))
    have hb : b.isHashable = true := hhash b fun f hf =>
      nomatch h.symm.trans (same_eq_error_iff.mpr (.inr ⟨ha, hf⟩))
    rw [same_eq_ok ha hb] at h
    exact ⟨ha, hb, Except.ok.inj h⟩
  · rintro ⟨ha, hb, h⟩
    rw [same_eq_ok ha hb, h]

/-- Two entities that can be hashed are equal just if their type names are and their properties are
deep-equal; this is an equivalence of them. The comparison fails just if a part of one of the two
cannot be hashed, unless one is inside itself. -/
theorem same_iff_deepEqual (ha : a.WellFormed) (hb : b.WellFormed) :
    (a.isHashable = true → b.isHashable = true → ∃ equal, a.same b = .ok equal ∧
      (equal = true ↔ a.typeName = b.typeName ∧ DeepEqual a.content b.content)) ∧
    (a.isHashable = true → a.same a = .ok true) ∧
    (a.same b = .ok true → b.same a = .ok true) ∧
    (∀ c, a.same b = .ok true → b.same c = .ok true → a.same c = .ok true) ∧
    (a.Finite → b.Finite → (a.same b = .error .wrongKind ↔
      ∃ u, Unhashable u ∧ (Occurs u a.content ∨ Occurs u b.content))) ∧
    (∀ f, a.same b = .error f → ∃ u, u.Bars f ∧ (Occurs u a.content ∨ Occurs u b.content)) ∧
    ∀ u f, u.Bars f → (Occurs u a.content ∨ Occurs u b.content) → ∃ f', a.same b = .error f' := by
  refine ⟨fun hha hhb => ⟨_, same_eq_ok hha hhb, ?_⟩, fun hha => ?_, fun h => ?_, fun c h h' => ?_,
    same_eq_wrongKind_iff, fun f => bars_of_same, fun u f => exists_same_eq_error⟩
  · rw [alike_iff]
    exact and_congr_right fun _ => (deepEqual_iff_alike ha hb (isHashable_iff.mp hha)).symm
  · rw [same_eq_ok hha hha, alike_refl]
  · obtain ⟨hha, hhb, h⟩ := same_eq_ok_true_iff.mp h
    exact same_eq_ok_true_iff.mpr ⟨hhb, hha, alike_symm h⟩
  · obtain ⟨hha, -, h⟩ := same_eq_ok_true_iff.mp h
    obtain ⟨-, hhc, h'⟩ := same_eq_ok_true_iff.mp h'
    exact same_eq_ok_true_iff.mpr ⟨hha, hhc, alike_trans h h'⟩

def marks (reversed : Bool) : List Value :=
  if reversed then [.int 1, .float .nan 0] else [.float .nan 0, .int 1]

def switch (k : MappingKind) (reversed : Bool) : Entity :=
  let on := (.text "on", .mapping k (entriesOf [(.int 1, .sequence .tuple [.bool true]),
    (.text "marks", .set true (elementsOf (marks reversed)))]))
  let off := (.text "off", .null)
  ⟨"switch", entriesOf (if reversed then [off, on] else [on, off])⟩

theorem wellFormed_two {k : MappingKind} {p q : Value × Value}
    (hp : Key p.1 ∧ p.1.WellFormed ∧ p.2.WellFormed)
    (hq : Key q.1 ∧ q.1.WellFormed ∧ q.2.WellFormed) :
    Value.WellFormed (.mapping k (entriesOf [p, q])) := by
  apply wellFormed_entriesOf
  · exact List.forall_mem_cons.mpr ⟨hp.1, List.forall_mem_singleton.mpr hq.1⟩
  · exact List.forall_mem_cons.mpr ⟨hp.2, List.forall_mem_singleton.mpr hq.2⟩

theorem switch_wellFormed (k : MappingKind) (reversed : Bool) : (switch k reversed).WellFormed := by
  have htuple : Value.WellFormed (.sequence .tuple [.bool true]) :=
    .sequence (List.forall_mem_singleton.mpr (.atom rfl trivial))
  have hmark : ∀ v ∈ marks reversed, Key v ∧ v.WellFormed := by
    intro v hv
    have hv : v = .float .nan 0 ∨ v = .int 1 := by
      cases reversed <;> simpa [marks, or_comm] using hv
    rcases hv with rfl | rfl <;> exact ⟨.atom rfl rfl, .atom rfl trivial⟩
  have hmarks : Value.WellFormed (.set true (elementsOf (marks reversed))) :=
    wellFormed_elementsOf (fun v hv => (hmark v hv).1) fun v hv => (hmark v hv).2
  have hon := wellFormed_two (k := k) (p := (.int 1, _)) (q := (.text "marks", _))
    ⟨.atom rfl rfl, .atom rfl trivial, htuple⟩ ⟨.atom rfl rfl, .atom rfl trivial, hmarks⟩
  have hoff : Value.WellFormed .null := .atom rfl trivial
  cases reversed
  · exact wellFormed_two ⟨.atom rfl rfl, .atom rfl trivial, hon⟩
      ⟨.atom rfl rfl, .atom rfl trivial, hoff⟩
  · exact wellFormed_two ⟨.atom rfl rfl, .atom rfl trivial, hoff⟩
      ⟨.atom rfl rfl, .atom rfl trivial, hon⟩

theorem switch_deepEqual : (switch .plain false).WellFormed ∧ (switch .ordered true).WellFormed ∧
    DeepEqual (switch .plain false).content (switch .ordered true).content := by
  have ha := switch_wellFormed .plain false
  have hb := switch_wellFormed .ordered true
  refine ⟨ha, hb, ?_⟩
  obtain ⟨equal, hsame, hiff⟩ :=
    (same_iff_deepEqual ha hb).1 (by decide +kernel) (by decide +kernel)
  have hcomputed : (switch .plain false).same (switch .ordered true) = .ok true := by
    decide +kernel
  obtain rfl := Except.ok.inj (hsame.symm.trans hcomputed)
  exact (hiff.mp rfl).2

end Entity

end GraphTemplate
