import GraphTemplate.Build.Pool
import GraphTemplate.Proofs.Build.Outcome

/-! What the workers of a stage find. The findings of each task come in their order and none is
lost, whoever goes on when; a single worker finds what the tasks find one after the other. So a
build comes to the same with any number of workers. -/
namespace GraphTemplate

/-- Lists that make up one list, each of them in its own order. -/
structure Interleaved {α : Type} (parts : List (List α)) (all : List α) : Prop where
  perm : all.Perm parts.flatten
  sublist : ∀ part ∈ parts, part.Sublist all

namespace Interleaved

variable {α : Type} {before after parts : List (List α)} {part all : List α}

theorem nil : Interleaved ([] : List (List α)) [] := ⟨.nil, nofun⟩

theorem skip (h : Interleaved (before ++ after) all) : Interleaved (before ++ [] :: after) all where
  perm := by simpa using h.perm
  sublist part hpart := by
    rcases List.mem_append.mp hpart with hb | ha
    · exact h.sublist part (List.mem_append_left _ hb)
    · rcases List.mem_cons.mp ha with rfl | ha
      · exact List.nil_sublist _
      · exact h.sublist part (List.mem_append_right _ ha)

theorem cons (h : Interleaved (before ++ part :: after) all) (a : α) :
    Interleaved (before ++ (a :: part) :: after) (a :: all) where
  perm := by
    have hp := h.perm.cons a
    simp only [List.flatten_append, List.flatten_cons] at hp ⊢
    exact hp.trans List.perm_middle.symm
  sublist q hq := by
    have hrest {q : List α} (hq : q ∈ before ++ part :: after) : q.Sublist (a :: all) :=
      (h.sublist q hq).trans (List.sublist_cons_self a all)
    rcases List.mem_append.mp hq with hb | ha
    · exact hrest (List.mem_append_left _ hb)
    · rcases List.mem_cons.mp ha with rfl | ha
      · exact (h.sublist part (List.mem_append_right _ List.mem_cons_self)).cons_cons a
      · exact hrest (List.mem_append_right _ (List.mem_cons_of_mem part ha))

theorem filter (p : α → Bool) (h : Interleaved parts all) :
    Interleaved (parts.map (List.filter p)) (all.filter p) where
  perm := by
    rw [← List.filter_flatten]
    exact h.perm.filter p
  sublist q hq := by
    obtain ⟨part, hpart, rfl⟩ := List.mem_map.mp hq
    exact (h.sublist part hpart).filter p

end Interleaved

namespace Pool

variable {workers : Nat} {p q : Pool} {found : Findings} {tasks : List Findings}

def left (p : Pool) : List Findings := p.running ++ p.waiting

def Gathers (p : Pool) (found : Findings) : Prop :=
  ∃ rest, found = p.found ++ rest ∧ Interleaved (p.left.map Findings.defects) rest.defects ∧
    Interleaved (p.left.map Findings.log) rest.log

theorem Step.gathers (h : Step workers p q) (hq : q.Gathers found) : p.Gathers found := by
  obtain ⟨rest, rfl, hdefects, hlog⟩ := hq
  cases h with
  | start =>
    refine ⟨rest, rfl, ?_, ?_⟩
    · simpa [left] using hdefects
    · simpa [left] using hlog
  | @report _ _ _ defect =>
    simp only [left, List.append_assoc, List.cons_append, List.map_append, List.map_cons]
      at hdefects hlog
    refine ⟨⟨[defect], []⟩ ++ rest, Findings.append_assoc _ _ _, ?_, ?_⟩
    · simpa [left, Findings.append_eq] using hdefects.cons defect
    · simpa [left, Findings.append_eq] using hlog
  | @say _ _ _ _ line =>
    simp only [left, List.append_assoc, List.cons_append, List.map_append, List.map_cons]
      at hdefects hlog
    refine ⟨⟨[], [line]⟩ ++ rest, Findings.append_assoc _ _ _, ?_, ?_⟩
    · simpa [left, Findings.append_eq] using hdefects
    · simpa [left, Findings.append_eq] using hlog.cons line
  | finish =>
    simp only [left, List.append_assoc, List.map_append] at hdefects hlog
    refine ⟨rest, rfl, ?_, ?_⟩
    · simpa [left, Findings.none] using hdefects.skip
    · simpa [left, Findings.none] using hlog.skip

theorem Run.gathers (h : Run workers p found) : p.Gathers found := by
  induction h with
  | done found => exact ⟨.none, (Findings.append_none found).symm, .nil, .nil⟩
  | step first _ ih => exact first.gathers ih

/-- What is found when the tasks that are left go on one after the other. -/
def ending (p : Pool) : Findings := p.found ++ .all p.left

theorem eq_nil_of_length_le_one {α : Type} {before after : List α} {a : α}
    (h : (before ++ a :: after).length ≤ 1) : before = [] ∧ after = [] := by
  rw [List.length_append, List.length_cons] at h
  exact ⟨List.eq_nil_of_length_eq_zero (by omega), List.eq_nil_of_length_eq_zero (by omega)⟩

/-- A single worker has one task at a time and goes on with it. -/
theorem Step.ending_eq (h : Step 1 p q) (hp : p.running.length ≤ 1) :
    q.running.length ≤ 1 ∧ q.ending = p.ending := by
  cases h with
  | start free =>
    obtain rfl := List.eq_nil_of_length_eq_zero (Nat.lt_one_iff.mp free)
    exact ⟨Nat.le_refl 1, rfl⟩
  | report =>
    obtain ⟨rfl, rfl⟩ := eq_nil_of_length_le_one hp
    exact ⟨Nat.le_refl 1, by simp [ending, left, Findings.all, Findings.append_eq]⟩
  | say =>
    obtain ⟨rfl, rfl⟩ := eq_nil_of_length_le_one hp
    exact ⟨Nat.le_refl 1, by simp [ending, left, Findings.all, Findings.append_eq]⟩
  | finish =>
    obtain ⟨rfl, rfl⟩ := eq_nil_of_length_le_one hp
    exact ⟨Nat.zero_le 1, by simp [ending, left, Findings.all]⟩

theorem Run.eq_ending (h : Run 1 p found) (hp : p.running.length ≤ 1) : found = p.ending := by
  induction h with
  | done found => exact (Findings.append_none found).symm
  | step first _ ih =>
    obtain ⟨hq, he⟩ := first.ending_eq hp
    rw [ih hq, he]

/-- A task that is taken up can be run to its end while the others rest. -/
theorem Run.of_task {waiting before after : List Findings} {task found final : Findings}
    (h : Run workers ⟨waiting, before ++ after, found ++ task⟩ final) :
    Run workers ⟨waiting, before ++ task :: after, found⟩ final := by
  obtain ⟨defects, log⟩ := task
  induction defects generalizing found with
  | cons defect defects ih =>
    refine .step .report (ih ?_)
    rwa [Findings.append_assoc]
  | nil =>
    induction log generalizing found with
    | cons line log ih =>
      refine .step .say (ih ?_)
      rwa [Findings.append_assoc]
    | nil =>
      refine .step .finish ?_
      rwa [← Findings.append_none found]

theorem run_inOrder (h : 0 < workers) (tasks : List Findings) (found : Findings) :
    Run workers ⟨tasks, [], found⟩ (found ++ .all tasks) := by
  induction tasks generalizing found with
  | nil =>
    rw [Findings.all, Findings.append_none]
    exact .done found
  | cons task tasks ih =>
    have hrest := ih (found ++ task)
    rw [Findings.append_assoc] at hrest
    have htask : Run workers ⟨tasks, [] ++ task :: [], found⟩ _ := .of_task hrest
    exact .step (.start h) htask

end Pool

namespace Schedule

variable {workers : Nat}

def inOrder (workers : Nat) (h : 0 < workers) : Schedule workers where
  gather := fun _ => .all
  possible _ tasks := by
    have hrun := Pool.run_inOrder h tasks .none
    rwa [Findings.none_append] at hrun

/-- Of the first two tasks of a stage, which are taken up together, the second is faster. -/
def overtaking : Schedule 2 where
  gather := fun _ tasks =>
    match tasks with
    | first :: second :: rest => second ++ (first ++ .all rest)
    | tasks => .all tasks
  possible name tasks := by
    match tasks with
    | first :: second :: rest =>
      have hrest := Pool.run_inOrder (Nat.zero_lt_two) rest (.none ++ second ++ first)
      have hfirst : Pool.Run 2 ⟨rest, [] ++ first :: [], .none ++ second⟩ _ := .of_task hrest
      have hsecond : Pool.Run 2 ⟨rest, [first] ++ second :: [], .none⟩ _ := .of_task hfirst
      rw [Findings.none_append, Findings.append_assoc] at hsecond
      exact .step (.start Nat.zero_lt_two) (.step (.start Nat.one_lt_two) hsecond)
    | [] => exact (inOrder 2 Nat.zero_lt_two).possible name []
    | [task] => exact (inOrder 2 Nat.zero_lt_two).possible name [task]

theorem interleaved (s : Schedule workers) (name : String) (tasks : List Findings) :
    Interleaved (tasks.map Findings.defects) (s.gather name tasks).defects ∧
      Interleaved (tasks.map Findings.log) (s.gather name tasks).log := by
  obtain ⟨rest, hrest, hdefects, hlog⟩ := (s.possible name tasks).gathers
  rw [Findings.none_append] at hrest
  rw [hrest]
  exact ⟨hdefects, hlog⟩

theorem keepsDefects (s : Schedule workers) : s.gather.KeepsDefects := by
  intro name tasks
  rw [List.flatMap_def]
  exact (s.interleaved name tasks).1.perm

theorem gather_one (s : Schedule 1) : s.gather = fun _ => .all := by
  funext name tasks
  have h := (s.possible name tasks).eq_ending (Nat.zero_le 1)
  rwa [Pool.ending, Findings.none_append] at h

end Schedule

namespace Build

/-- With any number of workers, and in whatever order they go on, a build comes to the same. -/
theorem result_of_schedule {workers : Nat} (s : Schedule workers) (d : Document) :
    (ofDocumentBy s.gather d).result = (ofDocument d).result :=
  (result_ofDocumentBy s.keepsDefects d).trans (result_ofDocument d).symm

theorem build_of_one (s : Schedule 1) (d : Document) : ofDocumentBy s.gather d = ofDocument d := by
  rw [s.gather_one, ofDocument]

end Build

end GraphTemplate
