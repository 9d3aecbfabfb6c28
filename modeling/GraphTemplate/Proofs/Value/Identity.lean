import GraphTemplate.Value

/-! Values with their identities. Whether two of them are one and the same can be decided, and so
can what a computation yields. -/
namespace GraphTemplate.Value

mutual

def isSame : Value → Value → Bool
  | null, null => true
  | bool b, bool b' => b == b'
  | int n, int n' => n == n'
  | float x i, float x' i' => x == x' && i == i'
  | decimal d i, decimal d' i' => d == d' && i == i'
  | fraction n d, fraction n' d' => n == n' && d == d'
  | text s, text s' => s == s'
  | bytes b os, bytes b' os' => b == b' && os == os'
  | date d, date d' => d == d'
  | moment m, moment m' => m == m'
  | range a b s, range a' b' s' => a == a' && b == b' && s == s'
  | sequence k vs, sequence k' vs' => k == k' && itemsSame vs vs'
  | set f vs, set f' vs' => f == f' && itemsSame vs vs'
  | mapping k es, mapping k' es' => k == k' && entriesSame es es'
  | record k n i fs, record k' n' i' fs' => k == k' && n == n' && i == i' && fieldsSame fs fs'
  | special s, special s' => s == s'
  | _, _ => false

def itemsSame : List Value → List Value → Bool
  | [], [] => true
  | v :: vs, v' :: vs' => isSame v v' && itemsSame vs vs'
  | _, _ => false

def entriesSame : List (Value × Value) → List (Value × Value) → Bool
  | [], [] => true
  | (k, v) :: es, (k', v') :: es' => isSame k k' && isSame v v' && entriesSame es es'
  | _, _ => false

def fieldsSame : List (String × Value) → List (String × Value) → Bool
  | [], [] => true
  | (k, v) :: fs, (k', v') :: fs' => k == k' && isSame v v' && fieldsSame fs fs'
  | _, _ => false

end

mutual

theorem isSame_iff : (v v' : Value) → (isSame v v' = true ↔ v = v')
  | sequence k vs, v' => by cases v' <;> simp [isSame, itemsSame_iff vs]
  | set f vs, v' => by cases v' <;> simp [isSame, itemsSame_iff vs]
  | mapping k es, v' => by cases v' <;> simp [isSame, entriesSame_iff es]
  | record k n i fs, v' => by cases v' <;> simp [isSame, fieldsSame_iff fs, and_assoc]
  | null, v' => by cases v' <;> simp [isSame]
  | bool b, v' => by cases v' <;> simp [isSame]
  | int n, v' => by cases v' <;> simp [isSame]
  | float x i, v' => by cases v' <;> simp [isSame]
  | decimal d i, v' => by cases v' <;> simp [isSame]
  | fraction n d, v' => by cases v' <;> simp [isSame]
  | text s, v' => by cases v' <;> simp [isSame]
  | bytes b os, v' => by cases v' <;> simp [isSame]
  | date d, v' => by cases v' <;> simp [isSame]
  | moment m, v' => by cases v' <;> simp [isSame]
  | range a b s, v' => by cases v' <;> simp [isSame, and_assoc]
  | special s, v' => by cases v' <;> simp [isSame]

theorem itemsSame_iff : (vs vs' : List Value) → (itemsSame vs vs' = true ↔ vs = vs')
  | [], vs' => by cases vs' <;> simp [itemsSame]
  | v :: vs, vs' => by cases vs' <;> simp [itemsSame, isSame_iff v, itemsSame_iff vs]

theorem entriesSame_iff : (es es' : List (Value × Value)) → (entriesSame es es' = true ↔ es = es')
  | [], es' => by cases es' <;> simp [entriesSame]
  | (k, v) :: es, [] => by simp [entriesSame]
  | (k, v) :: es, (k', v') :: es' => by
    simp [entriesSame, isSame_iff k, isSame_iff v, entriesSame_iff es]

theorem fieldsSame_iff : (fs fs' : List (String × Value)) → (fieldsSame fs fs' = true ↔ fs = fs')
  | [], fs' => by cases fs' <;> simp [fieldsSame]
  | (k, v) :: fs, [] => by simp [fieldsSame]
  | (k, v) :: fs, (k', v') :: fs' => by simp [fieldsSame, isSame_iff v, fieldsSame_iff fs]

end

instance : DecidableEq Value := fun v v' => decidable_of_iff _ (isSame_iff v v')

end GraphTemplate.Value
