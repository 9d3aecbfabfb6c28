import GraphTemplate.NameTable
import GraphTemplate.Text.Lowercase
import GraphTemplate.Value.Equality
import GraphTemplate.Value.Text
import GraphTemplate.Violation

/-!
Property keys of data matched with those of a template, without regard to case. Every declared key
stands for one key of the data; the first key that could stand for it does.
-/

namespace GraphTemplate

namespace NameTable

def erase {α : Type} (t : NameTable α) (name : String) : NameTable α :=
  ⟨t.entries.filter (·.1 != name),
    (List.Sublist.map Prod.fst List.filter_sublist).nodup t.distinct⟩

end NameTable

namespace PropertyKeys

/-- Declared keys under their lowercase forms; of two with one form the later is kept. -/
def declared (keys : List String) : NameTable String :=
  .ofList (keys.map fun k => (lowercase k, k))

def sorted (names : List String) : List String := names.mergeSort fun a b => decide (a ≤ b)

theorem perm_sorted (names : List String) : (sorted names).Perm names := List.mergeSort_perm _ _

theorem pairwise_sorted (names : List String) : (sorted names).Pairwise (· ≤ ·) := by
  have h : (sorted names).Pairwise fun a b => decide (a ≤ b) = true := by
    refine List.pairwise_mergeSort (fun a b c hab hbc => ?_) (fun a b => ?_) _
    · rw [decide_eq_true_eq] at *
      exact String.le_trans hab hbc
    · rw [Bool.or_eq_true, decide_eq_true_eq, decide_eq_true_eq]
      exact String.le_total a b
  exact h.imp of_decide_eq_true

/-- A matching under way: the declared keys still free, the pairs found and the keys left over. -/
structure State where
  free : NameTable String
  found : List (Value × String)
  extra : List String

/-- Enters a pair under its key of data, in its place if that key is there. -/
def putPair (key : Value) (name : String) : List (Value × String) → List (Value × String)
  | [] => [(key, name)]
  | e :: es => if e.1.sameKey key then (e.1, name) :: es else e :: putPair key name es

def step (s : State) (key : Value) : Except Fault State := do
  let shown ← key.toText
  let form := lowercase shown
  match s.free.get? form with
  | some name => return { s with free := s.free.erase form, found := putPair key name s.found }
  | none => return { s with extra := s.extra ++ [shown] }

def pairing (declaredKeys : List String) (keys : List Value) : Check (List (Value × String)) := do
  let s ← Check.lift (keys.foldlM step ⟨declared declaredKeys, [], []⟩)
  let missing := sorted s.free.values
  if s.extra.isEmpty && missing.isEmpty then return s.found
  else Check.violated (.keys s.extra missing)

end PropertyKeys

end GraphTemplate
