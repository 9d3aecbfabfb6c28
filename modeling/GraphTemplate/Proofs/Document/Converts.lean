import GraphTemplate.Proofs.Document.Shape
import Mathlib.Data.List.Forall2

/-! Tests and conversions that agree with a rule of the grammar, and how they are put together: the
data that pass are those that the rule has a meaning for, and they are converted to it unless a
bound has too many digits. -/
namespace GraphTemplate.Grammar

variable {δ δ' α β : Type}

def Any : Nat → Prop := fun _ => True

def Readable : Nat → Prop := fun digits => digits ≤ digitLimit

def TooLong (result : Except Fault α) : Prop :=
  ∃ digits, digitLimit < digits ∧ result = .error (.integerTooLong (some digits))

/-- The data that pass a test are those that a rule has a meaning for if bounds may have any number
of digits, and they are converted to it unless it takes a bound that cannot be read. -/
structure Converts (domain passes : δ → Prop) (convert : δ → Except Fault α)
    (rule : (Nat → Prop) → δ → α → Prop) : Prop where
  passes_iff : ∀ {v}, domain v → (passes v ↔ ∃ a, rule Any v a)
  converted : ∀ {v a}, domain v → rule Any v a →
    (convert v = .ok a ∧ rule Readable v a) ∨ (TooLong (convert v) ∧ ∀ b, ¬rule Readable v b)
  weaken : ∀ {v a}, rule Readable v a → rule Any v a

namespace Converts

section

variable {domain passes passes' : δ → Prop} {convert : δ → Except Fault α}
  {convert' : δ → Except Fault β} {rule : (Nat → Prop) → δ → α → Prop}
  {rule' : (Nat → Prop) → δ → β → Prop}

theorem eq_ok_iff (h : Converts domain passes convert rule) {v : δ} (hv : domain v)
    (hp : passes v) {a : α} : convert v = .ok a ↔ rule Readable v a := by
  constructor
  · intro ha
    obtain ⟨b, hb⟩ := (h.passes_iff hv).mp hp
    rcases h.converted hv hb with ⟨hc, hr⟩ | ⟨⟨n, -, hc⟩, -⟩
    · rw [ha] at hc
      obtain rfl := Except.ok.inj hc
      exact hr
    · rw [ha] at hc
      exact nomatch hc
  · intro ha
    rcases h.converted hv (h.weaken ha) with ⟨hc, -⟩ | ⟨-, hn⟩
    · exact hc
    · exact absurd ha (hn a)

theorem passes_of_readable (h : Converts domain passes convert rule) {v : δ} (hv : domain v)
    {a : α} (ha : rule Readable v a) : passes v :=
  (h.passes_iff hv).mpr ⟨a, h.weaken ha⟩

/-- A conversion that cannot fail. -/
theorem total {f : δ → α} {r : δ → α → Prop} (hp : ∀ {v}, domain v → (passes v ↔ ∃ a, r v a))
    (hf : ∀ {v a}, r v a → f v = a) :
    Converts domain passes (fun v => .ok (f v)) fun _ => r where
  passes_iff := hp
  converted := fun _ ha => Or.inl ⟨congrArg Except.ok (hf ha), ha⟩
  weaken := id

theorem congr (h : Converts domain passes convert rule) {convert₂ : δ → Except Fault α}
    (hc : ∀ v, convert₂ v = convert v) : Converts domain passes convert₂ rule where
  passes_iff := h.passes_iff
  converted := by
    intro v a hv ha
    rw [hc]
    exact h.converted hv ha
  weaken := h.weaken

/-- The same data in another form. -/
theorem map (h : Converts domain passes convert rule) (f : α → β) (g : β → α)
    (hgf : ∀ a, g (f a) = a) (hfg : ∀ b, f (g b) = b) :
    Converts domain passes (fun v => (convert v).map f) fun fits v b => rule fits v (g b) where
  passes_iff := by
    intro v hv
    rw [h.passes_iff hv]
    constructor
    · rintro ⟨a, ha⟩
      exact ⟨f a, by rwa [hgf]⟩
    · rintro ⟨b, hb⟩
      exact ⟨g b, hb⟩
  converted := by
    intro v b hv hb
    rcases h.converted hv hb with ⟨hc, hr⟩ | ⟨⟨n, hn, hc⟩, hnone⟩
    · exact Or.inl ⟨by rw [hc, Except.map, hfg], hr⟩
    · exact Or.inr ⟨⟨n, hn, by rw [hc, Except.map]⟩, fun b => hnone (g b)⟩
  weaken := fun hb => h.weaken hb

/-- One conversion after the other on the same data. -/
theorem both (h : Converts domain passes convert rule)
    (h' : Converts domain passes' convert' rule') :
    Converts domain (fun v => passes v ∧ passes' v)
      (fun v => do return (← convert v, ← convert' v))
      (fun fits v c => rule fits v c.1 ∧ rule' fits v c.2) where
  passes_iff := by
    intro v hv
    rw [h.passes_iff hv, h'.passes_iff hv]
    constructor
    · rintro ⟨⟨a, ha⟩, b, hb⟩
      exact ⟨(a, b), ha, hb⟩
    · rintro ⟨c, ha, hb⟩
      exact ⟨⟨c.1, ha⟩, c.2, hb⟩
  converted := by
    rintro v ⟨a, b⟩ hv ⟨ha, hb⟩
    rcases h.converted hv ha with ⟨hc, hr⟩ | ⟨⟨n, hn, hc⟩, hnone⟩
    · rcases h'.converted hv hb with ⟨hc', hr'⟩ | ⟨⟨n, hn, hc'⟩, hnone⟩
      · exact Or.inl ⟨by rw [hc, hc']; rfl, hr, hr'⟩
      · exact Or.inr ⟨⟨n, hn, by rw [hc, hc']; rfl⟩, fun c hc => hnone c.2 hc.2⟩
    · exact Or.inr ⟨⟨n, hn, by rw [hc]; rfl⟩, fun c hc => hnone c.1 hc.1⟩
  weaken := fun ⟨ha, hb⟩ => ⟨h.weaken ha, h'.weaken hb⟩

/-- Data one after the other, up to the first that cannot be converted. -/
theorem each (h : Converts domain passes convert rule) :
    Converts (fun vs => ∀ v ∈ vs, domain v) (fun vs => ∀ v ∈ vs, passes v)
      (fun vs => vs.mapM convert) (fun fits => List.Forall₂ (rule fits)) where
  passes_iff := by
    intro vs hvs
    induction vs with
    | nil => simp
    | cons v vs ih =>
      obtain ⟨hv, hvs⟩ := List.forall_mem_cons.mp hvs
      rw [List.forall_mem_cons, h.passes_iff hv, ih hvs]
      constructor
      · rintro ⟨⟨a, ha⟩, as, has⟩
        exact ⟨a :: as, .cons ha has⟩
      · rintro ⟨_, _ | ⟨ha, has⟩⟩
        exact ⟨⟨_, ha⟩, _, has⟩
  converted := by
    intro vs as hvs has
    induction has with
    | nil => exact Or.inl ⟨rfl, .nil⟩
    | @cons v a vs as ha has ih =>
      obtain ⟨hv, hvs⟩ := List.forall_mem_cons.mp hvs
      simp only [List.mapM_cons]
      rcases h.converted hv ha with ⟨hc, hr⟩ | ⟨⟨n, hn, hc⟩, hnone⟩
      · rcases ih hvs with ⟨hcs, hrs⟩ | ⟨⟨n, hn, hcs⟩, hnone⟩
        · exact Or.inl ⟨by rw [hc, hcs]; rfl, .cons hr hrs⟩
        · refine Or.inr ⟨⟨n, hn, by rw [hc, hcs]; rfl⟩, ?_⟩
          rintro _ (_ | ⟨-, hbs⟩)
          exact hnone _ hbs
      · refine Or.inr ⟨⟨n, hn, by rw [hc]; rfl⟩, ?_⟩
        rintro _ (_ | ⟨hb, -⟩)
        exact hnone _ hb
  weaken := fun hrs => hrs.imp fun _ _ hr => h.weaken hr

end

variable {passes : Value → Prop} {convert : Value → Except Fault α}
  {rule : (Nat → Prop) → Rule α} {shape : Shape}

theorem list (h : Converts Value.Loaded shape.Fits convert rule) :
    Converts Value.Loaded (Shape.list shape).Fits (fun v => (Document.itemsOf v).mapM convert)
      (fun fits => Grammar.list (rule fits)) where
  passes_iff := by
    intro v hv
    rw [Shape.fits_list_iff hv]
    constructor
    · rintro (rfl | ⟨items, rfl, hitems⟩)
      · exact ⟨[], Or.inl ⟨rfl, rfl⟩⟩
      · obtain ⟨as, has⟩ := (h.each.passes_iff fun u hu => hv.of_mem hu).mp hitems
        exact ⟨as, Or.inr ⟨items, rfl, has⟩⟩
    · rintro ⟨as, ⟨rfl, -⟩ | ⟨items, rfl, has⟩⟩
      · exact Or.inl rfl
      · exact Or.inr ⟨items, rfl, (h.each.passes_iff fun u hu => hv.of_mem hu).mpr ⟨as, has⟩⟩
  converted := by
    rintro v as hv (⟨rfl, rfl⟩ | ⟨items, rfl, has⟩)
    · exact Or.inl ⟨rfl, Or.inl ⟨rfl, rfl⟩⟩
    · rcases h.each.converted (fun u hu => hv.of_mem hu) has with ⟨hc, hr⟩ | ⟨hc, hnone⟩
      · exact Or.inl ⟨hc, Or.inr ⟨items, rfl, hr⟩⟩
      · refine Or.inr ⟨hc, ?_⟩
        rintro bs (⟨htext, -⟩ | ⟨items', hitems, hbs⟩)
        · exact nomatch htext
        · obtain rfl := (Value.sequence.inj hitems).2
          exact hnone bs hbs
  weaken := by
    rintro v as (hempty | ⟨items, rfl, has⟩)
    · exact Or.inl hempty
    · exact Or.inr ⟨items, rfl, h.each.weaken has⟩

/-- An entry under a name. -/
theorem named (h : Converts Value.Loaded passes convert rule) :
    Converts (fun e : String × Value => e.2.Loaded) (fun e => passes e.2)
      (fun e => do return (e.1, ← convert e.2))
      (fun fits e e' => e.1 = e'.1 ∧ rule fits e.2 e'.2) where
  passes_iff := by
    intro e he
    rw [h.passes_iff he]
    constructor
    · rintro ⟨a, ha⟩
      exact ⟨(e.1, a), rfl, ha⟩
    · rintro ⟨e', -, ha⟩
      exact ⟨e'.2, ha⟩
  converted := by
    rintro ⟨name, v⟩ ⟨name', a⟩ he ⟨rfl, ha⟩
    rcases h.converted he ha with ⟨hc, hr⟩ | ⟨⟨n, hn, hc⟩, hnone⟩
    · exact Or.inl ⟨by rw [hc]; rfl, rfl, hr⟩
    · exact Or.inr ⟨⟨n, hn, by rw [hc]; rfl⟩, fun e' he' => hnone e'.2 he'.2⟩
  weaken := fun ⟨hn, ha⟩ => ⟨hn, h.weaken ha⟩

theorem fieldsOf_ofTable (t : NameTable Value) : Document.fieldsOf (.ofTable t) = t.entries := by
  simp [Document.fieldsOf, Value.ofTable, Document.textOf, Function.comp_def]

theorem ofList_entries (t : NameTable α) : NameTable.ofList t.entries = t := by
  have he := NameTable.entries_ofList t.distinct
  cases h : NameTable.ofList t.entries
  rw [h] at he
  subst he
  rfl

theorem names_of_forall₂ {r : Value → α → Prop} {es : List (String × Value)}
    {es' : List (String × α)} (h : List.Forall₂ (fun e e' => e.1 = e'.1 ∧ r e.2 e'.2) es es') :
    es'.map Prod.fst = es.map Prod.fst := by
  induction h with
  | nil => rfl
  | cons he _ ih => rw [List.map_cons, List.map_cons, ih, he.1]

theorem tableOfM_ofTable (t : NameTable Value) {es : List (String × α)}
    (h : (t.entries.mapM fun e => do return (e.1, ← convert e.2)) = .ok es) :
    Document.tableOfM convert (.ofTable t) = .ok (.ofList es) := by
  unfold Document.tableOfM
  rw [fieldsOf_ofTable, h]
  rfl

theorem table (h : Converts Value.Loaded shape.Fits convert rule) :
    Converts Value.Loaded (Shape.table shape).Fits (Document.tableOfM convert)
      (fun fits => Grammar.table (rule fits)) where
  passes_iff := by
    intro v hv
    rw [Shape.fits_table_iff hv]
    constructor
    · rintro (rfl | ⟨s, rfl, hs⟩)
      · exact ⟨.empty, Or.inl ⟨rfl, rfl⟩⟩
      · obtain ⟨es, hes⟩ := (h.named.each.passes_iff fun e he => hv.of_mem_table he).mp hs
        have hd : (es.map Prod.fst).Nodup := names_of_forall₂ hes ▸ s.distinct
        exact ⟨⟨es, hd⟩, Or.inr ⟨s, rfl, hes⟩⟩
    · rintro ⟨t, ⟨rfl, -⟩ | ⟨s, rfl, ht⟩⟩
      · exact Or.inl rfl
      · exact Or.inr ⟨s, rfl,
          (h.named.each.passes_iff fun e he => hv.of_mem_table he).mpr ⟨t.entries, ht⟩⟩
  converted := by
    rintro v t hv (⟨rfl, rfl⟩ | ⟨s, rfl, ht⟩)
    · exact Or.inl ⟨rfl, Or.inl ⟨rfl, rfl⟩⟩
    · rcases h.named.each.converted (fun e he => hv.of_mem_table he) ht with
        ⟨hc, hr⟩ | ⟨⟨n, hn, hc⟩, hnone⟩
      · refine Or.inl ⟨?_, Or.inr ⟨s, rfl, hr⟩⟩
        rw [tableOfM_ofTable s hc, ofList_entries]
      · refine Or.inr ⟨⟨n, hn, ?_⟩, ?_⟩
        · unfold Document.tableOfM
          rw [fieldsOf_ofTable, hc]
          rfl
        · rintro t' (⟨htext, -⟩ | ⟨s', hs, ht'⟩)
          · exact nomatch htext
          · rw [← Value.ofTable_inj hs] at ht'
            exact hnone t'.entries ht'
  weaken := by
    rintro v t (hempty | ⟨s, rfl, ht⟩)
    · exact Or.inl hempty
    · exact Or.inr ⟨s, rfl, h.named.each.weaken ht⟩

theorem part_of_has {v u : Value} {key : String} (h : v.Has key u) : Document.part key v = u := by
  obtain ⟨t, rfl, hk⟩ := h
  show (Shape.field? key _).getD .null = u
  rw [Value.field?_table, hk]
  rfl

theorem part_of_not_has {v : Value} {key : String} (hv : v.Loaded) (h : ∀ u, ¬v.Has key u) :
    Document.part key v = .null := by
  unfold Document.part
  split
  · next kind entries =>
    obtain ⟨t, ht, -⟩ := hv.exists_table
    rw [ht] at h
    rw [(Value.mapping.inj ht).2, Value.field?_table]
    cases hk : t.get? key with
    | none => rfl
    | some u => exact absurd (Value.has_ofTable.mpr hk) (h u)
  · rfl

/-- What is left out is converted like nothing. -/
theorem field (h : Converts Value.Loaded shape.Fits convert rule) (key : String) {default : α}
    (hd : convert .null = .ok default) :
    Converts Value.Loaded (Shape.FieldsFit [(key, shape)])
      (fun v => convert (Document.part key v))
      (fun fits => Grammar.field key (rule fits) default) where
  passes_iff := by
    intro v hv
    simp only [Shape.FieldsFit, List.forall_mem_singleton]
    constructor
    · intro hfit
      by_cases hu : ∃ u, v.Has key u
      · obtain ⟨u, hu⟩ := hu
        obtain ⟨a, ha⟩ := (h.passes_iff (hv.of_has hu)).mp (hfit u hu)
        exact ⟨a, Or.inl ⟨u, hu, ha⟩⟩
      · exact ⟨default, Or.inr ⟨not_exists.mp hu, rfl⟩⟩
    · rintro ⟨a, ⟨u, hu, ha⟩ | ⟨hnone, -⟩⟩ u' hu'
      · rw [← part_of_has hu', part_of_has hu]
        exact (h.passes_iff (hv.of_has hu)).mpr ⟨a, ha⟩
      · exact absurd hu' (hnone u')
  converted := by
    rintro v a hv (⟨u, hu, ha⟩ | ⟨hnone, rfl⟩)
    · rw [part_of_has hu]
      rcases h.converted (hv.of_has hu) ha with ⟨hc, hr⟩ | ⟨hc, hr⟩
      · exact Or.inl ⟨hc, Or.inl ⟨u, hu, hr⟩⟩
      · refine Or.inr ⟨hc, ?_⟩
        rintro b (⟨u', hu', hb⟩ | ⟨hnone, -⟩)
        · rw [← part_of_has hu', part_of_has hu] at hb
          exact hr b hb
        · exact hnone u hu
    · rw [part_of_not_has hv hnone]
      exact Or.inl ⟨hd, Or.inr ⟨hnone, rfl⟩⟩
  weaken := by
    rintro v a (⟨u, hu, ha⟩ | hnone)
    · exact Or.inl ⟨u, hu, h.weaken ha⟩
    · exact Or.inr hnone

/-- A field and then others. -/
theorem cons {f : String × Shape} {fields : List (String × Shape)}
    {convert' : Value → Except Fault β} {rule' : (Nat → Prop) → Rule β}
    (h : Converts Value.Loaded (Shape.FieldsFit [f]) convert rule)
    (h' : Converts Value.Loaded (Shape.FieldsFit fields) convert' rule') :
    Converts Value.Loaded (Shape.FieldsFit (f :: fields))
      (fun v => do return (← convert v, ← convert' v))
      (fun fits v c => rule fits v c.1 ∧ rule' fits v c.2) where
  passes_iff := by
    intro v hv
    rw [Shape.fieldsFit_cons]
    exact (h.both h').passes_iff hv
  converted := (h.both h').converted
  weaken := (h.both h').weaken

theorem closed {fields : List (String × Shape)}
    (h : Converts Value.Loaded (Shape.FieldsFit fields) convert rule) :
    Converts Value.Loaded (Shape.closed fields).Fits convert
      (fun fits v a => Keyed (fields.map Prod.fst) v ∧ rule fits v a) where
  passes_iff := by
    intro v hv
    rw [Shape.fits_closed_iff hv, h.passes_iff hv, exists_and_left]
  converted := by
    rintro v a hv ⟨hk, ha⟩
    rcases h.converted hv ha with ⟨hc, hr⟩ | ⟨hc, hnone⟩
    · exact Or.inl ⟨hc, hk, hr⟩
    · exact Or.inr ⟨hc, fun b hb => hnone b hb.2⟩
  weaken := fun ⟨hk, ha⟩ => ⟨hk, h.weaken ha⟩

end Converts

end GraphTemplate.Grammar
