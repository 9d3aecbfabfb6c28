import GraphTemplate.Build.Connections
import GraphTemplate.Proofs.Build.Runs

/-! Connections as they are declared, read without a run. An entry has defects of its own, and it is
repeated if an earlier entry of the same list, for the same edge, had no defect at all. -/
namespace GraphTemplate

namespace Document

variable (d : Document) (owner : Owner) (main subject : String)

def subjects : Owner → List String
  | .node => d.nodes.names
  | .label => d.labels.names

def Fits (c : ConnectionEntry) : Prop :=
  subject ∈ d.subjects owner ∧ c.edge ∈ d.edges.names ∧ ¬c.min < 0 ∧ ¬(c.max = 0 ∨ c.max < -1)

instance (c : ConnectionEntry) : Decidable (d.Fits owner subject c) := by
  unfold Fits
  infer_instance

/-- Whether an edge is declared by one of some entries, the latest first, that has no defect. -/
def isTaken (edge : String) : List ConnectionEntry → Bool
  | [] => false
  | c :: earlier =>
    isTaken edge earlier ||
      (c.edge == edge && decide (d.Fits owner subject c) && !isTaken c.edge earlier)

def Accepts (earlier : List ConnectionEntry) (c : ConnectionEntry) : Prop :=
  d.Fits owner subject c ∧ d.isTaken owner subject c.edge earlier = false

instance (earlier : List ConnectionEntry) (c : ConnectionEntry) :
    Decidable (d.Accepts owner subject earlier c) := by
  unfold Accepts
  infer_instance

def entryDefects (place : List String) (earlier : List ConnectionEntry) (c : ConnectionEntry) :
    List Defect :=
  (if subject ∈ d.subjects owner then [] else [⟨place, .undefinedSubject owner main subject⟩]) ++
  (if c.edge ∈ d.edges.names then [] else [⟨place, .undefinedEdge owner main c.edge⟩]) ++
  (if d.isTaken owner subject c.edge earlier then [⟨place, .repeated owner main subject c.edge⟩]
    else []) ++
  (if c.min < 0 then [⟨place ++ ["ratio", "min"], .minimum⟩] else []) ++
  (if c.max = 0 ∨ c.max < -1 then [⟨place ++ ["ratio", "max"], .maximum⟩] else [])

def listDefects : List ConnectionEntry → List ConnectionEntry → List Defect
  | _, [] => []
  | earlier, c :: rest =>
    d.entryDefects owner main subject
      [owner.sectionName, main, "connections", subject, toString (earlier.length + 1)] earlier c ++
      listDefects (c :: earlier) rest

def accepted : List ConnectionEntry → List ConnectionEntry → List ConnectionEntry
  | _, [] => []
  | earlier, c :: rest =>
    if d.Accepts owner subject earlier c then c :: accepted (c :: earlier) rest
    else accepted (c :: earlier) rest

def connectionDefects (connections : List (String × List ConnectionEntry)) : List Defect :=
  connections.flatMap fun s => d.listDefects owner main s.1 [] s.2

variable {d owner main subject}

theorem entryDefects_eq_nil {place : List String} {earlier : List ConnectionEntry}
    {c : ConnectionEntry} :
    d.entryDefects owner main subject place earlier c = [] ↔ d.Accepts owner subject earlier c := by
  unfold entryDefects Accepts Fits
  by_cases hs : subject ∈ d.subjects owner <;> by_cases he : c.edge ∈ d.edges.names <;>
    by_cases ht : d.isTaken owner subject c.edge earlier = true <;>
    by_cases hmin : c.min < 0 <;> by_cases hmax : c.max = 0 ∨ c.max < -1 <;>
    simp [hs, he, ht, hmin, hmax]

theorem accepted_of_listDefects {earlier cs : List ConnectionEntry}
    (h : d.listDefects owner main subject earlier cs = []) :
    d.accepted owner subject earlier cs = cs := by
  induction cs generalizing earlier with
  | nil => rfl
  | cons c cs ih =>
    obtain ⟨hc, hrest⟩ := List.append_eq_nil_iff.mp h
    rw [accepted, if_pos (entryDefects_eq_nil.mp hc), ih hrest]

theorem fits_of_listDefects {earlier cs : List ConnectionEntry}
    (h : d.listDefects owner main subject earlier cs = []) : ∀ c ∈ cs, d.Fits owner subject c := by
  induction cs generalizing earlier with
  | nil => exact fun c hc => absurd hc List.not_mem_nil
  | cons c cs ih =>
    obtain ⟨hc, hrest⟩ := List.append_eq_nil_iff.mp h
    exact List.forall_mem_cons.mpr ⟨(entryDefects_eq_nil.mp hc).1, ih hrest⟩

/-- No edge is declared twice in a list without defects, nor again after earlier entries. -/
theorem edges_of_listDefects {earlier cs : List ConnectionEntry}
    (h : d.listDefects owner main subject earlier cs = []) :
    (∀ c ∈ cs, d.isTaken owner subject c.edge earlier = false) ∧
      (cs.map ConnectionEntry.edge).Nodup := by
  induction cs generalizing earlier with
  | nil => exact ⟨fun c hc => absurd hc List.not_mem_nil, List.nodup_nil⟩
  | cons c cs ih =>
    obtain ⟨hc, hrest⟩ := List.append_eq_nil_iff.mp h
    have ha := entryDefects_eq_nil.mp hc
    obtain ⟨htaken, hd⟩ := ih hrest
    have hcs : ∀ c' ∈ cs, d.isTaken owner subject c'.edge earlier = false ∧ c.edge ≠ c'.edge := by
      intro c' hc'
      have ht := htaken c' hc'
      rw [isTaken, Bool.or_eq_false_iff] at ht
      refine ⟨ht.1, fun he => ?_⟩
      rw [he, beq_self_eq_true, decide_eq_true ha.1, ← he, ha.2] at ht
      exact nomatch ht.2
    constructor
    · intro c' hc'
      rcases List.mem_cons.mp hc' with rfl | hc'
      · exact ha.2
      · exact (hcs c' hc').1
    · rw [List.map_cons, List.nodup_cons]
      refine ⟨?_, hd⟩
      rw [List.mem_map]
      rintro ⟨c', hc', he⟩
      exact (hcs c' hc').2 he.symm

end Document

namespace Build

open Assembly

theorem comes_reportAll (place : List String) (defects : List (List String × Defect.Cause)) :
    Comes (reportAll place defects) none ()
      ⟨defects.map fun x => ⟨place ++ x.1, x.2⟩, []⟩ := by
  induction defects with
  | nil => exact comes_pure ()
  | cons x xs ih => exact (comes_report _ _).bind ih rfl rfl

namespace Linking

variable {α : Type} {l : Linking α} {d : Document} {t : LinkTable α} {subject : String}

/-- A table that links of a document are entered into: it knows the names that the document has,
and whatever is made from an entry counts as declared. -/
structure Follows (l : Linking α) (d : Document) : Prop where
  hasSubject : ∀ s, l.hasSubject s = decide (s ∈ d.subjects l.owner)
  hasEdge : ∀ e, l.hasEdge e = decide (e ∈ d.edges.names)
  isDeclared : ∀ s c, l.isDeclared (l.make s c) = true

def enter (l : Linking α) (subject : String) (t : LinkTable α) (cs : List ConnectionEntry) :
    LinkTable α :=
  cs.foldl (fun t c => t.insert subject c.edge (l.make subject c)) t

theorem map_connectionDefects (h : l.Follows d) (place : List String)
    {earlier : List ConnectionEntry} {c : ConnectionEntry} {isTaken : Bool}
    (ht : isTaken = d.isTaken l.owner subject c.edge earlier) :
    ((connectionDefects l.owner l.main subject c (l.hasSubject subject) (l.hasEdge c.edge)
      isTaken).map fun x => Defect.mk (place ++ x.1) x.2) =
      d.entryDefects l.owner l.main subject place earlier c := by
  unfold connectionDefects Document.entryDefects
  rw [h.hasSubject, h.hasEdge, ht]
  simp only [List.map_append, decide_eq_true_eq, Bool.or_eq_true, Rule.unbounded]
  congr 1
  · congr 1
    · congr 1
      · congr 1
        · split <;> simp
        · split <;> simp
      · split <;> simp
    · split <;> simp
  · split
    · next hmax =>
      rw [if_pos (hmax.imp_right of_decide_eq_true)]
      rfl
    · next hmax =>
      rw [if_neg (fun hm => hmax (hm.imp_right decide_eq_true))]
      rfl

theorem isRepeated_insert (h : l.Follows d) (c : ConnectionEntry) (s e : String) :
    l.isRepeated (t.insert subject c.edge (l.make subject c)) s e =
      if s = subject ∧ e = c.edge then true else l.isRepeated t s e := by
  unfold isRepeated
  rw [LinkTable.get?_insert]
  split
  · exact h.isDeclared subject c
  · rfl

/-- An entry is entered just if it has no defect. -/
theorem isEmpty_connectionDefects (h : l.Follows d) {earlier : List ConnectionEntry}
    {c : ConnectionEntry} {isTaken : Bool}
    (ht : isTaken = d.isTaken l.owner subject c.edge earlier) :
    (connectionDefects l.owner l.main subject c (l.hasSubject subject) (l.hasEdge c.edge)
      isTaken).isEmpty = decide (d.Accepts l.owner subject earlier c) := by
  have hmap := congrArg List.isEmpty (map_connectionDefects h [] ht)
  rw [List.isEmpty_map] at hmap
  rw [hmap, Bool.eq_iff_iff, List.isEmpty_iff, decide_eq_true_iff]
  exact Document.entryDefects_eq_nil

theorem isRepeated_next (h : l.Follows d) {earlier : List ConnectionEntry}
    (ht : ∀ e, l.isRepeated t subject e = d.isTaken l.owner subject e earlier)
    (c : ConnectionEntry) (e : String) :
    l.isRepeated (if d.Accepts l.owner subject earlier c then
      t.insert subject c.edge (l.make subject c) else t) subject e =
      d.isTaken l.owner subject e (c :: earlier) := by
  rw [Document.isTaken]
  by_cases ha : d.Accepts l.owner subject earlier c
  · rw [if_pos ha, isRepeated_insert h, ht]
    by_cases he : e = c.edge
    · simp [he, ha.1, ha.2]
    · have hb : (c.edge == e) = false := by simpa using Ne.symm he
      simp [he, hb]
  · have hf : (decide (d.Fits l.owner subject c) &&
        !d.isTaken l.owner subject c.edge earlier) = false := by
      rw [Bool.eq_false_iff]
      intro hf
      rw [Bool.and_eq_true, decide_eq_true_eq, Bool.not_eq_true'] at hf
      exact ha hf
    rw [if_neg ha, ht, Bool.and_assoc, hf, Bool.and_false, Bool.or_false]

theorem comes_addEntries (h : l.Follows d) (entries : List ConnectionEntry)
    {earlier : List ConnectionEntry}
    (ht : ∀ e, l.isRepeated t subject e = d.isTaken l.owner subject e earlier) :
    Comes (l.addEntries subject (earlier.length + 1) t entries) none
      (l.enter subject t (d.accepted l.owner subject earlier entries))
      ⟨d.listDefects l.owner l.main subject earlier entries, []⟩ := by
  induction entries generalizing t earlier with
  | nil => exact comes_pure t
  | cons c rest ih =>
    have hrest := ih (isRepeated_next h ht c)
    have henter : l.enter subject t (d.accepted l.owner subject earlier (c :: rest)) =
        l.enter subject (if d.Accepts l.owner subject earlier c then
          t.insert subject c.edge (l.make subject c) else t)
          (d.accepted l.owner subject (c :: earlier) rest) := by
      rw [Document.accepted]
      split <;> rfl
    unfold addEntries
    rw [henter]
    simp only [isEmpty_connectionDefects h (ht c.edge), decide_eq_true_eq]
    refine (comes_reportAll _ _).bind hrest rfl ?_
    rw [map_connectionDefects h _ (ht c.edge)]
    rfl

def enterAll (l : Linking α) (d : Document) (t : LinkTable α)
    (subjects : List (String × List ConnectionEntry)) : LinkTable α :=
  subjects.foldl (fun t s => l.enter s.1 t (d.accepted l.owner s.1 [] s.2)) t

theorem get?_enter_of_ne {s : String} (hs : s ≠ subject) (t : LinkTable α)
    (cs : List ConnectionEntry) (e : String) : (l.enter subject t cs).get? s e = t.get? s e := by
  unfold enter
  induction cs generalizing t with
  | nil => rfl
  | cons c cs ih =>
    rw [List.foldl_cons, ih, LinkTable.get?_insert, if_neg (fun hse => hs hse.1)]

theorem comes_addSubjects (h : l.Follows d) {subjects : List (String × List ConnectionEntry)}
    (hd : (subjects.map Prod.fst).Nodup)
    (ht : ∀ s ∈ subjects.map Prod.fst, ∀ e, l.isRepeated t s e = false) :
    Comes (l.addSubjects t subjects) none (l.enterAll d t subjects)
      ⟨d.connectionDefects l.owner l.main subjects, []⟩ := by
  induction subjects generalizing t with
  | nil => exact comes_pure t
  | cons s rest ih =>
    rw [List.map_cons, List.nodup_cons] at hd
    unfold addSubjects
    refine (@comes_addEntries _ l d t s.1 h s.2 [] (ht s.1 List.mem_cons_self)).bind
      (ih hd.2 ?_) rfl rfl
    intro s' hs' e
    have hne : s' ≠ s.1 := fun he => hd.1 (he ▸ hs')
    unfold isRepeated
    rw [get?_enter_of_ne hne]
    exact ht s' (List.mem_cons_of_mem _ hs') e

theorem get?_enter {cs : List ConnectionEntry} (hd : (cs.map ConnectionEntry.edge).Nodup)
    (t : LinkTable α) (edge : String) :
    (l.enter subject t cs).get? subject edge =
      ((cs.find? (·.edge = edge)).map (l.make subject)).or (t.get? subject edge) := by
  induction cs generalizing t with
  | nil => rfl
  | cons c cs ih =>
    rw [List.map_cons, List.nodup_cons] at hd
    unfold enter at ih ⊢
    rw [List.foldl_cons, ih hd.2, LinkTable.get?_insert, List.find?_cons]
    by_cases he : c.edge = edge
    · subst he
      have hn : cs.find? (·.edge = c.edge) = none := by
        rw [List.find?_eq_none]
        intro c' hc' he
        exact hd.1 (List.mem_map.mpr ⟨c', hc', of_decide_eq_true he⟩)
      rw [hn, if_pos ⟨rfl, rfl⟩, decide_eq_true rfl]
      rfl
    · rw [if_neg (fun h => he h.2.symm), decide_eq_false he]

theorem get?_enterAll {subjects : List (String × List ConnectionEntry)}
    (hd : (subjects.map Prod.fst).Nodup)
    (ha : ∀ s ∈ subjects, d.accepted l.owner s.1 [] s.2 = s.2)
    (hc : ∀ s ∈ subjects, (s.2.map ConnectionEntry.edge).Nodup) (t : LinkTable α) (edge : String) :
    (l.enterAll d t subjects).get? subject edge =
      (((subjects.lookup subject).bind (·.find? (·.edge = edge))).map (l.make subject)).or
        (t.get? subject edge) := by
  induction subjects generalizing t with
  | nil => rfl
  | cons s rest ih =>
    rw [List.map_cons, List.nodup_cons] at hd
    unfold enterAll at ih ⊢
    rw [List.foldl_cons, ih hd.2 (fun s' hs' => ha s' (List.mem_cons_of_mem s hs'))
      (fun s' hs' => hc s' (List.mem_cons_of_mem s hs')), ha s List.mem_cons_self,
      List.lookup_cons]
    by_cases hs : subject = s.1
    · have hn : rest.lookup subject = none := by
        rw [List.lookup_eq_none_iff]
        intro s' hs'
        rw [bne_iff_ne]
        intro he
        exact hd.1 (List.mem_map.mpr ⟨s', hs', he.symm.trans hs⟩)
      subst hs
      rw [hn, get?_enter (hc s List.mem_cons_self), beq_self_eq_true]
      rfl
    · rw [get?_enter_of_ne hs, beq_eq_false_iff_ne.mpr hs]

theorem names_enter (t : LinkTable α) {cs : List ConnectionEntry} (hn : cs ≠ []) :
    NameTable.names (l.enter subject t cs) =
      if subject ∈ NameTable.names t then NameTable.names t
      else NameTable.names t ++ [subject] := by
  unfold enter
  induction cs generalizing t with
  | nil => exact absurd rfl hn
  | cons c cs ih =>
    have hnames := NameTable.names_insert t subject
      (((NameTable.get? t subject).getD .empty).insert c.edge (l.make subject c))
    rw [List.foldl_cons]
    cases cs with
    | nil => exact hnames
    | cons c' cs =>
      rw [ih _ (List.cons_ne_nil _ _)]
      unfold LinkTable.insert
      rw [hnames]
      by_cases hs : subject ∈ NameTable.names t
      · rw [if_pos hs, if_pos hs]
      · rw [if_neg hs, if_pos (List.mem_append_right _ List.mem_cons_self)]

/-- Subjects stand in the order in which they are declared. -/
theorem findSome?_names_enterAll {β : Type} {f : String → Option β}
    {subjects : List (String × List ConnectionEntry)} {t : LinkTable α}
    (hd : (NameTable.names t ++ subjects.map Prod.fst).Nodup)
    (ha : ∀ s ∈ subjects, d.accepted l.owner s.1 [] s.2 = s.2)
    (hf : ∀ s ∈ subjects, s.2 = [] → f s.1 = none) :
    (NameTable.names (l.enterAll d t subjects)).findSome? f =
      ((NameTable.names t).findSome? f).or (subjects.findSome? fun s => f s.1) := by
  induction subjects generalizing t with
  | nil => exact Option.or_none.symm
  | cons s rest ih =>
    have ha' : ∀ s ∈ rest, d.accepted l.owner s.1 [] s.2 = s.2 :=
      fun s' hs' => ha s' (List.mem_cons_of_mem s hs')
    have hf' : ∀ s ∈ rest, s.2 = [] → f s.1 = none :=
      fun s' hs' => hf s' (List.mem_cons_of_mem s hs')
    have hs : s.1 ∉ NameTable.names t :=
      fun hm => (List.nodup_append.mp hd).2.2 s.1 hm s.1 List.mem_cons_self rfl
    unfold enterAll at ih ⊢
    rw [List.foldl_cons, ha s List.mem_cons_self, List.findSome?_cons]
    by_cases hc : s.2 = []
    · rw [hf s List.mem_cons_self hc, hc]
      rw [List.map_cons] at hd
      exact ih (hd.sublist ((List.sublist_cons_self _ _).append_left _)) ha' hf'
    · have hn := @names_enter _ l s.1 t s.2 hc
      rw [if_neg hs] at hn
      rw [ih ?_ ha' hf', hn, List.findSome?_append, Option.or_assoc]
      · congr 1
        rw [List.findSome?_singleton]
        cases f s.1 <;> rfl
      · rw [hn, List.append_assoc]
        exact hd

end Linking

end Build

end GraphTemplate
