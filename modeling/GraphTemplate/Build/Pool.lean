import GraphTemplate.Build.Findings

/-! The workers that run the tasks of a stage. A task waits until a worker is free, and tasks are
taken up in the order of their entries. Which worker goes on next is left open: what one task finds
comes to light in the order of the task, but what other tasks find can come in between. -/

namespace GraphTemplate

/-- A stage that is run. Of a task is kept what it has still to find. -/
structure Pool where
  waiting : List Findings
  running : List Findings
  found : Findings

namespace Pool

inductive Step (workers : Nat) : Pool → Pool → Prop where
  | start {task : Findings} {waiting running : List Findings} {found : Findings}
      (free : running.length < workers) :
      Step workers ⟨task :: waiting, running, found⟩ ⟨waiting, running ++ [task], found⟩
  | report {waiting before after : List Findings} {defect : Defect} {defects : List Defect}
      {log : List LogLine} {found : Findings} :
      Step workers ⟨waiting, before ++ ⟨defect :: defects, log⟩ :: after, found⟩
        ⟨waiting, before ++ ⟨defects, log⟩ :: after, found ++ ⟨[defect], []⟩⟩
  | say {waiting before after : List Findings} {defects : List Defect} {line : LogLine}
      {log : List LogLine} {found : Findings} :
      Step workers ⟨waiting, before ++ ⟨defects, line :: log⟩ :: after, found⟩
        ⟨waiting, before ++ ⟨defects, log⟩ :: after, found ++ ⟨[], [line]⟩⟩
  | finish {waiting before after : List Findings} {found : Findings} :
      Step workers ⟨waiting, before ++ .none :: after, found⟩ ⟨waiting, before ++ after, found⟩

inductive Run (workers : Nat) : Pool → Findings → Prop where
  | done (found : Findings) : Run workers ⟨[], [], found⟩ found
  | step {p q : Pool} {found : Findings} (first : Step workers p q) (rest : Run workers q found) :
      Run workers p found

end Pool

/-- A way in which a number of workers can run stages. The next stage is not begun before the last
task of a stage has ended. -/
structure Schedule (workers : Nat) where
  gather : Gathering
  possible : ∀ name tasks, Pool.Run workers ⟨tasks, [], .none⟩ (gather name tasks)

end GraphTemplate
