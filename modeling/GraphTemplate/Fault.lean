/-!
Failures that are no judgement on a template or a value: a number that text cannot denote, a value
of a kind that an operation cannot take. Computations that meet them may keep a state, and what has
been done to the state stays when they fail.
-/

namespace GraphTemplate

inductive Fault where
  /-- Text or a number that has no value of the wanted kind. -/
  | badValue (reason : String)
  /-- A result outside the range of its kind. -/
  | outOfRange (reason : String)
  /-- An operation on a kind of value that does not have it. -/
  | wrongKind
  /-- A part of a value that is not there. -/
  | missingPart
  /-- A word that is not in the list of words with a meaning. -/
  | unknownWord
  /-- A character wanted from an empty text. -/
  | emptyText
  /-- A value that contains itself. -/
  | endless
  deriving DecidableEq

namespace Fault

/-- An integer that is too long to be written or, of a given number of digits, to be read. -/
def integerTooLong (digits : Option Nat) : Fault :=
  .badValue ("Exceeds the limit (4300 digits) for integer string conversion" ++
    (match digits with
     | some n => ": value has " ++ toString n ++ " digits"
     | none => "") ++
    "; use sys.set_int_max_str_digits() to increase the limit")

end Fault

variable {ε σ α β : Type}

theorem run_bind (m : ExceptT ε (StateM σ) α) (k : α → ExceptT ε (StateM σ) β) (s : σ) :
    (m >>= k).run.run s = match m.run.run s with
      | (.ok a, s') => (k a).run.run s'
      | (.error e, s') => (.error e, s') := by
  rcases h : m.run.run s with ⟨e | a, s'⟩ <;>
    simp only [ExceptT.run_bind, StateT.run_bind, h] <;> rfl

theorem eq_ok_of_toOption {x : Except ε α} {a : α} (h : x.toOption = some a) : x = .ok a := by
  cases x with
  | error e => exact nomatch h
  | ok b => rw [Option.some.inj h]

theorem exists_of_toOption_map {x : Except ε α} {f : α → β} {b : β}
    (h : x.toOption.map f = some b) : ∃ a, x = .ok a ∧ f a = b := by
  obtain ⟨a, ha, hb⟩ := Option.map_eq_some_iff.mp h
  exact ⟨a, eq_ok_of_toOption ha, hb⟩

theorem exists_of_bind_eq_ok {x : Except ε α} {k : α → Except ε β} {b : β}
    (h : (x >>= k) = .ok b) : ∃ a, x = .ok a ∧ k a = .ok b := by
  cases x with
  | error e => exact nomatch h
  | ok a => exact ⟨a, rfl, h⟩

theorem mapM_eq_filterMap {f : α → Except ε β} {k : α → Option β} {as : List α}
    (h : ∀ a ∈ as, ∃ b, f a = .ok b ∧ k a = some b) : as.mapM f = .ok (as.filterMap k) := by
  induction as with
  | nil => rfl
  | cons a as ih =>
    obtain ⟨⟨b, hf, hk⟩, has⟩ := List.forall_mem_cons.mp h
    rw [List.mapM_cons, hf, ih has, List.filterMap_cons_some hk]
    rfl

end GraphTemplate
