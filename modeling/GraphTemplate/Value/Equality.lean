import GraphTemplate.Fault
import GraphTemplate.Value

/-!
Two equalities of values. `sameKey` is the one that mapping keys are told apart by: numbers of all
kinds compare by value, and a value is always the same as itself. `alike` is deep and typed: `true`,
`1` and `1.0` all differ, as do a list and a tuple, while mappings are compared by their entries
alone. It is defined for values without a `hashFault?`.
-/

namespace GraphTemplate

/-- A number of any kind as a quotient of units, or as it is outside the quotients. -/
inductive Quantity where
  | ratio (numerator : Int) (denominator : Nat)
  | infinite (negative : Bool)
  | nan

namespace Value

def quantity? : Value → Option Quantity
  | bool b => some (.ratio (if b then 1 else 0) 1)
  | int n => some (.ratio n 1)
  | float x _ =>
    some (if x.isFinite then .ratio x.scaledInt (1 <<< 1074)
      else if x.isNaN then .nan else .infinite x.negative)
  | decimal d _ =>
    some (match d with
      | .infinite s => .infinite s
      | d => match d.ratio? with
        | some (n, m) => .ratio n m
        | none => .nan)
  | fraction n d => some (.ratio n d)
  | _ => none

end Value

def Quantity.same : Quantity → Quantity → Bool
  | .ratio a b, .ratio c d => a * d == c * b
  | .infinite a, .infinite b => a == b
  | _, _ => false

namespace Value

def isNaN : Value → Bool
  | float x _ => x.isNaN
  | decimal d _ => d.isNaN
  | _ => false

def sameNumber (v w : Value) : Bool :=
  match v, w with
  | float x i, float y j => x.same y || (i == j && x == y)
  | decimal d i, decimal e j => (i == j && d == e) || (match d.ratio?, e.ratio? with
      | some (a, b), some (a', b') => a * b' == a' * b
      | _, _ => d == e && !d.isNaN)
  | v, w =>
    match v.quantity?, w.quantity? with
    | some a, some b => a.same b
    | _, _ => false

def sameAtom : Value → Value → Bool
  | null, null => true
  | text s, text t => s == t
  | bytes _ a, bytes _ b => a == b
  | date a, date b => a == b
  | moment a, moment b => a.same b
  | range a b s, range a' b' s' => rangeItems a b s == rangeItems a' b' s'
  | record _ _ i _, record _ _ j _ => i == j
  | special a, special b => a == b
  | v, w => sameNumber v w

mutual

def sameKey : Value → Value → Bool
  | sequence k xs, sequence l ys => k == l && sameKeys xs ys
  | sequence .tuple xs, record .namedTuple _ _ fs => sameKeys xs (fs.map Prod.snd)
  | record .namedTuple _ _ fs, sequence .tuple ys => sameFields fs ys
  | record .namedTuple _ _ fs, record .namedTuple _ _ gs => sameFields fs (gs.map Prod.snd)
  | set _ xs, set _ ys => xs.length == ys.length && allAmong xs ys
  | v, w => sameAtom v w

def sameKeys : List Value → List Value → Bool
  | [], [] => true
  | x :: xs, y :: ys => x.sameKey y && sameKeys xs ys
  | _, _ => false

def sameFields : List (String × Value) → List Value → Bool
  | [], [] => true
  | (_, x) :: xs, y :: ys => x.sameKey y && sameFields xs ys
  | _, _ => false

def allAmong : List Value → List Value → Bool
  | [], _ => true
  | x :: xs, ys => ys.any (fun y => x.sameKey y) && allAmong xs ys

end

/-- Enters a key with its value: in its place if the key is there, else at the end. The first
spelling of a key is kept. -/
def putEntry (key value : Value) : List (Value × Value) → List (Value × Value)
  | [] => [(key, value)]
  | e :: es => if e.1.sameKey key then (e.1, value) :: es else e :: putEntry key value es

def entriesOf (pairs : List (Value × Value)) : List (Value × Value) :=
  pairs.foldl (fun es p => putEntry p.1 p.2 es) []

def elementsOf (values : List Value) : List Value :=
  values.foldl (fun xs v => if xs.any (·.sameKey v) then xs else xs ++ [v]) []

def alikeAtom : Value → Value → Bool
  | null, null => true
  | bool a, bool b => a == b
  | int m, int n => m == n
  | float x i, float y j => sameNumber (float x i) (float y j)
  | decimal d i, decimal e j => sameNumber (decimal d i) (decimal e j)
  | fraction n d, fraction n' d' => n == n' && d == d'
  | text s, text t => s == t
  | bytes m a, bytes m' b => m == m' && a == b
  | date a, date b => a == b
  | moment a, moment b => a.same b
  | range a b s, range a' b' s' => rangeItems a b s == rangeItems a' b' s'
  | record k _ i _, record k' _ j _ => k == k' && i == j
  | special a, special b => a == b
  | _, _ => false

mutual

def alike : Value → Value → Bool
  | mapping _ es, mapping _ fs => entriesWithin es fs && fs.all fun f => entryAmong es f.1 f.2
  | sequence k xs, sequence l ys => k == l && allAlike xs ys
  | set a xs, set b ys => a == b && elementsWithin xs ys && ys.all fun y => elementAmong xs y
  | record .namedTuple _ i fs, record .namedTuple _ j gs => i == j && fieldsAlike fs gs
  | v, w => alikeAtom v w

def allAlike : List Value → List Value → Bool
  | [], [] => true
  | x :: xs, y :: ys => x.alike y && allAlike xs ys
  | _, _ => false

def fieldsAlike : List (String × Value) → List (String × Value) → Bool
  | [], [] => true
  | (_, x) :: xs, y :: ys => x.alike y.2 && fieldsAlike xs ys
  | _, _ => false

def elementsWithin : List Value → List Value → Bool
  | [], _ => true
  | x :: xs, ys => ys.any (fun y => x.alike y) && elementsWithin xs ys

def elementAmong : List Value → Value → Bool
  | [], _ => false
  | x :: xs, y => x.alike y || elementAmong xs y

def entriesWithin : List (Value × Value) → List (Value × Value) → Bool
  | [], _ => true
  | (k, v) :: es, fs => fs.any (fun f => k.alike f.1 && v.alike f.2) && entriesWithin es fs

def entryAmong : List (Value × Value) → Value → Value → Bool
  | [], _, _ => false
  | (k, v) :: es, k', v' => (k.alike k' && v.alike v') || entryAmong es k' v'

end

mutual

/-- Why a value cannot be looked up by: a part that can be changed in place, lists, sets and
mappings apart, or one that has no end. -/
def hashFault? : Value → Option Fault
  | bytes isMutable _ => if isMutable then some .wrongKind else none
  | decimal (.nan _ signaling _) _ => if signaling then some .wrongKind else none
  | sequence .deque _ => some .wrongKind
  | sequence _ items => itemsFault? items
  | set _ items => itemsFault? items
  | mapping _ entries => entriesFault? entries
  | record .namedTuple _ _ fields => fieldsFault? fields
  | record .object .. => none
  | record .. => some .wrongKind
  | special (.endless _) => some .endless
  | _ => none

def itemsFault? : List Value → Option Fault
  | [] => none
  | v :: vs => v.hashFault?.or (itemsFault? vs)

def entriesFault? : List (Value × Value) → Option Fault
  | [] => none
  | (k, v) :: es => (k.hashFault?.or v.hashFault?).or (entriesFault? es)

def fieldsFault? : List (String × Value) → Option Fault
  | [] => none
  | (_, v) :: fs => v.hashFault?.or (fieldsFault? fs)

end

end Value

end GraphTemplate
