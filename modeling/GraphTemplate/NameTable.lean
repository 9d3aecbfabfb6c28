/-!
Finite maps from names, in the order in which the names were first entered. Entering a name again
changes what it stands for and keeps its place. The entries of other finite maps are kept likewise.
-/

namespace GraphTemplate

namespace Entries

variable {κ α : Type} [DecidableEq κ]

/-- Entries with `k` standing for `a`: in its place if it is there, else at the end. -/
def put (k : κ) (a : α) : List (κ × α) → List (κ × α)
  | [] => [(k, a)]
  | e :: es => if e.1 = k then (k, a) :: es else e :: put k a es

def remove (k : κ) (es : List (κ × α)) : List (κ × α) := es.filter fun e => e.1 ≠ k

theorem keys_put (k : κ) (a : α) (es : List (κ × α)) :
    (put k a es).map Prod.fst =
      if k ∈ es.map Prod.fst then es.map Prod.fst else es.map Prod.fst ++ [k] := by
  induction es with
  | nil => rfl
  | cons e es ih =>
    by_cases h : e.1 = k
    · simp [put, h]
    · have h' : k ≠ e.1 := fun he => h he.symm
      simp only [put, if_neg h, List.map_cons, ih, List.mem_cons, h', false_or]
      split <;> simp

theorem nodup_put (k : κ) (a : α) {es : List (κ × α)} (h : (es.map Prod.fst).Nodup) :
    ((put k a es).map Prod.fst).Nodup := by
  rw [keys_put]
  split
  · exact h
  · next hn =>
    rw [List.nodup_append]
    refine ⟨h, by simp, ?_⟩
    intro x hx y hy hxy
    rw [List.mem_singleton] at hy
    exact hn (hy ▸ hxy ▸ hx)

theorem lookup_put (k other : κ) (a : α) (es : List (κ × α)) :
    (put k a es).lookup other = if other = k then some a else es.lookup other := by
  induction es with
  | nil =>
    by_cases h : other = k
    · simp [put, h]
    · have hb : (other == k) = false := by simp [h]
      simp [put, List.lookup_cons, hb, h]
  | cons e es ih =>
    obtain ⟨n, b⟩ := e
    by_cases h : n = k
    · subst h
      by_cases ho : other = n
      · simp [put, ho]
      · have hb : (other == n) = false := by simp [ho]
        simp [put, List.lookup_cons, hb, ho]
    · by_cases ho : other = n
      · subst ho
        simp [put, h]
      · have hb : (other == n) = false := by simp [ho]
        simp [put, h, List.lookup_cons, hb, ih]

theorem nodup_remove (k : κ) {es : List (κ × α)} (h : (es.map Prod.fst).Nodup) :
    ((remove k es).map Prod.fst).Nodup :=
  h.sublist (List.filter_sublist.map Prod.fst)

theorem lookup_remove (k other : κ) (es : List (κ × α)) :
    (remove k es).lookup other = if other = k then none else es.lookup other := by
  induction es with
  | nil => simp [remove]
  | cons e es ih =>
    by_cases h : e.1 = k
    · have hd : remove k (e :: es) = remove k es := List.filter_cons_of_neg (by simpa using h)
      rw [hd, ih, List.lookup_cons]
      by_cases ho : other = k
      · rw [if_pos ho, if_pos ho]
      · have hb : (other == e.1) = false := by simp [h, ho]
        rw [if_neg ho, if_neg ho, hb]
    · have hd : remove k (e :: es) = e :: remove k es := List.filter_cons_of_pos (by simpa using h)
      rw [hd, List.lookup_cons, List.lookup_cons, ih]
      by_cases ho : other = e.1
      · simp [ho, h]
      · have hb : (other == e.1) = false := by simp [ho]
        rw [hb]

end Entries

structure NameTable (α : Type) where
  entries : List (String × α)
  distinct : (entries.map Prod.fst).Nodup
  deriving DecidableEq

namespace NameTable

variable {α β : Type}

def empty : NameTable α := ⟨[], List.nodup_nil⟩

instance : Inhabited (NameTable α) := ⟨empty⟩

def names (t : NameTable α) : List String := t.entries.map Prod.fst
def values (t : NameTable α) : List α := t.entries.map Prod.snd
def size (t : NameTable α) : Nat := t.entries.length
def isEmpty (t : NameTable α) : Bool := t.entries.isEmpty
def get? (t : NameTable α) (name : String) : Option α := t.entries.lookup name
def contains (t : NameTable α) (name : String) : Bool := (t.get? name).isSome

def insert (t : NameTable α) (name : String) (a : α) : NameTable α :=
  ⟨Entries.put name a t.entries, Entries.nodup_put name a t.distinct⟩

def ofList (es : List (String × α)) : NameTable α :=
  es.foldl (fun t e => t.insert e.1 e.2) empty

def map (f : α → β) (t : NameTable α) : NameTable β :=
  ⟨t.entries.map fun e => (e.1, f e.2), by
    simpa [List.map_map, Function.comp_def] using t.distinct⟩

@[simp] theorem get?_empty (name : String) : (empty : NameTable α).get? name = none := rfl

@[simp] theorem get?_insert (t : NameTable α) (name other : String) (a : α) :
    (t.insert name a).get? other = if other = name then some a else t.get? other :=
  Entries.lookup_put name other a t.entries

theorem names_insert (t : NameTable α) (name : String) (a : α) :
    (t.insert name a).names = if name ∈ t.names then t.names else t.names ++ [name] :=
  Entries.keys_put name a t.entries

theorem names_nodup (t : NameTable α) : t.names.Nodup := t.distinct

end NameTable

end GraphTemplate
