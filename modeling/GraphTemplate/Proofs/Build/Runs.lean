import GraphTemplate.Build.Findings
import GraphTemplate.Fault

/-! What the parts of a build come to. A part that meets no fault has one value and adds the same
findings to whatever was found before; of a part that meets faults only the first is told. -/
namespace GraphTemplate

namespace Findings

theorem append_eq (f f' : Findings) : f ++ f' = ⟨f.defects ++ f'.defects, f.log ++ f'.log⟩ := rfl

@[simp] theorem append_none (f : Findings) : f ++ none = f := by
  simp [append_eq, none]

@[simp] theorem none_append (f : Findings) : none ++ f = f := by
  simp [append_eq, none]

theorem append_assoc (f f' f'' : Findings) : f ++ f' ++ f'' = f ++ (f' ++ f'') := by
  simp [append_eq]

theorem defects_all (fs : List Findings) : (all fs).defects = fs.flatMap defects := by
  induction fs with
  | nil => rfl
  | cons f fs ih =>
    rw [all, append_eq, List.flatMap_cons, ih]

end Findings

namespace Assembly

variable {α β γ : Type} {m : Assembly α} {o o' : Option Fault} {a : α} {b : β} {δ δ' : Findings}

/-- A part with its first fault, if it has one, or else with its value and what it finds. -/
def Comes (m : Assembly α) (o : Option Fault) (a : α) (δ : Findings) : Prop :=
  ∀ f : Findings, match o with
    | none => m.run.run f = (.ok a, f ++ δ)
    | some e => ∃ f', m.run.run f = (.error e, f')

theorem comes_pure (a : α) : Comes (pure a) none a .none := by
  intro f
  show _ = (Except.ok a, f ++ Findings.none)
  rw [Findings.append_none]
  rfl

theorem comes_add (found : Findings) : Comes (add found) none () found := fun _ => rfl

theorem comes_report (place : List String) (cause : Defect.Cause) :
    Comes (report place cause) none () ⟨[⟨place, cause⟩], []⟩ :=
  comes_add _

theorem comes_say (level : LogLevel) (message : String) :
    Comes (say level message) none () ⟨[], [⟨level, message⟩]⟩ :=
  comes_add _

theorem comes_lift {r : Except Fault α} (h : r = .ok a) : Comes (lift r) none a .none := by
  subst h
  exact comes_pure a

theorem comes_throw (e : Fault) (a : α) (δ : Findings) :
    Comes (throw e : Assembly α) (some e) a δ :=
  fun f => ⟨f, rfl⟩

theorem Comes.bind {k : α → Assembly β} {o'' : Option Fault} {δ'' : Findings}
    (h : Comes m o a δ) (hk : Comes (k a) o' b δ') (ho : o.or o' = o'') (hδ : δ ++ δ' = δ'') :
    Comes (m >>= k) o'' b δ'' := by
  subst ho hδ
  intro f
  have hf := h f
  cases o with
  | some e =>
    obtain ⟨f', hf'⟩ := hf
    exact ⟨f', by rw [run_bind, hf']⟩
  | none =>
    dsimp only at hf
    have hkf := hk (f ++ δ)
    cases o' with
    | some e =>
      obtain ⟨f', hf'⟩ := hkf
      refine ⟨f', ?_⟩
      rw [run_bind, hf]
      exact hf'
    | none =>
      show (m >>= k).run.run f = _
      rw [run_bind, hf, ← Findings.append_assoc]
      exact hkf

theorem Comes.map {g : α → β} (h : Comes m o a δ) (hb : g a = b) :
    Comes (m >>= fun a => pure (g a)) o b δ := by
  subst hb
  exact h.bind (comes_pure (g a)) Option.or_none (Findings.append_none δ)

theorem Comes.of_fault {e : Fault} (h : Comes m (some e) a δ) (δ' : Findings) :
    Comes m (some e) a δ' := h

theorem Comes.alone_eq (h : Comes m none a δ) : m.alone = (.ok a, δ) := by
  have hf : m.run.run .none = (.ok a, .none ++ δ) := h .none
  rwa [Findings.none_append] at hf

theorem Comes.fst_alone {e : Fault} (h : Comes m (some e) a δ) : m.alone.1 = .error e := by
  obtain ⟨f', hf⟩ := h .none
  exact congrArg Prod.fst hf

def stageFindings (gather : Gathering) (name : String) (found : String × α → Findings)
    (entries : List (String × α)) : Findings :=
  ⟨[], [⟨.debug, "Stage '" ++ name ++ "': " ++ toString entries.length ++ " entries"⟩]⟩ ++
    gather name (entries.map found)

section Stage

variable {gather : Gathering} {task : String → α → Assembly β} {fault? : String × α → Option Fault}
  {value : String × α → β} {found : String × α → Findings} {entries : List (String × α)}

theorem mapM_alone (h : ∀ e ∈ entries, Comes (task e.1 e.2) (fault? e) (value e) (found e)) :
    ((entries.map fun e => (e.1, (task e.1 e.2).alone)).mapM
        fun r => (return (r.1, ← r.2.1) : Except Fault (String × β))) =
      match entries.findSome? fault? with
      | none => .ok (entries.map fun e => (e.1, value e))
      | some f => .error f := by
  induction entries with
  | nil => rfl
  | cons e es ih =>
    obtain ⟨he, hes⟩ := List.forall_mem_cons.mp h
    rw [List.map_cons, List.mapM_cons, List.findSome?_cons, ih hes]
    cases hf : fault? e with
    | some f =>
      rw [hf] at he
      rw [he.fst_alone]
      rfl
    | none =>
      rw [hf] at he
      rw [he.alone_eq]
      cases es.findSome? fault? <;> rfl

theorem comes_stage (name : String)
    (h : ∀ e ∈ entries, Comes (task e.1 e.2) (fault? e) (value e) (found e)) :
    Comes (stage gather name task entries) (entries.findSome? fault?)
      (entries.map fun e => (e.1, value e)) (stageFindings gather name found entries) := by
  unfold stage
  dsimp only
  rw [mapM_alone h]
  cases hf : entries.findSome? fault? with
  | some f =>
    have hthrow := comes_throw f (entries.map fun e => (e.1, value e)) .none
    exact ((comes_say _ _).bind ((comes_add _).bind hthrow rfl rfl) rfl rfl).of_fault _
  | none =>
    have hfound : (entries.map fun e => (e.1, (task e.1 e.2).alone)).map (fun r => r.2.2) =
        entries.map found := by
      rw [List.map_map]
      apply List.map_congr_left
      intro e he
      have hc := h e he
      rw [List.findSome?_eq_none_iff.mp hf e he] at hc
      exact congrArg Prod.snd hc.alone_eq
    rw [hfound]
    exact (comes_say _ _).bind
      ((comes_add _).bind (comes_lift rfl) rfl (Findings.append_none _)) rfl rfl

theorem comes_stage_of_none (name : String)
    (h : ∀ e ∈ entries, Comes (task e.1 e.2) none (value e) (found e)) :
    Comes (stage gather name task entries) none (entries.map fun e => (e.1, value e))
      (stageFindings gather name found entries) := by
  have hs : Comes (stage gather name task entries) _ _ _ := comes_stage name h
  rwa [List.findSome?_eq_none_iff.mpr fun _ _ => rfl] at hs

end Stage

end Assembly

namespace Gathering

/-- Of the defects of the tasks none is lost, and none is told twice. -/
def KeepsDefects (gather : Gathering) : Prop :=
  ∀ name found, (gather name found).defects.Perm (found.flatMap Findings.defects)

theorem keepsDefects_all : KeepsDefects fun _ => .all := fun _ found => by
  rw [Findings.defects_all]

theorem KeepsDefects.perm_stage {α : Type} {gather : Gathering} (h : gather.KeepsDefects)
    (name : String) (found : String × α → Findings) (entries : List (String × α)) :
    (Assembly.stageFindings gather name found entries).defects.Perm
      (entries.flatMap fun e => (found e).defects) := by
  have hname := h name (entries.map found)
  rwa [List.flatMap_map] at hname

end Gathering

end GraphTemplate
