import GraphTemplate.Value.Text
import Mathlib.Algebra.Group.Nat.Defs

/-! The text of a value, and why there may be none: an integer that the text shows is too long to be
written. Nothing else keeps a value from being told. -/
namespace GraphTemplate.Value

def Short (n : Int) : Prop := n.natAbs < 10 ^ digitLimit

theorem length_toDigits_le_iff {n : Nat} :
    (Nat.toDigits 10 n).length ≤ digitLimit ↔ n < 10 ^ digitLimit :=
  Nat.length_toDigits_le_iff (by decide) (by decide)

/-- A text that is made if all of some integers are short, and else fails for one that is not. -/
def Writes {α : Type} (ns : List Int) (text : Except Fault α) : Prop :=
  (∃ a, text = .ok a) ∧ (∀ n ∈ ns, Short n) ∨
    text = .error (.integerTooLong none) ∧ ∃ n ∈ ns, ¬Short n

section

variable {α β : Type} {ns ms : List Int} {text : Except Fault α}

theorem writes_ok (a : α) : Writes [] (.ok a : Except Fault α) :=
  .inl ⟨⟨a, rfl⟩, fun _ h => absurd h List.not_mem_nil⟩

theorem Writes.bind {k : α → Except Fault β} (h : Writes ns text) (hk : ∀ a, Writes ms (k a)) :
    Writes (ns ++ ms) (text >>= k) := by
  rcases h with ⟨⟨a, rfl⟩, hns⟩ | ⟨rfl, n, hn, hl⟩
  · rcases hk a with ⟨⟨b, hb⟩, hms⟩ | ⟨hb, n, hn, hl⟩
    · exact .inl ⟨⟨b, hb⟩, List.forall_mem_append.mpr ⟨hns, hms⟩⟩
    · exact .inr ⟨hb, n, List.mem_append_right ns hn, hl⟩
  · exact .inr ⟨rfl, n, List.mem_append_left ms hn, hl⟩

theorem Writes.map {k : α → β} (h : Writes ns text) : Writes ns (text >>= fun a => .ok (k a)) := by
  have hk := h.bind fun a => writes_ok (k a)
  rwa [List.append_nil] at hk

theorem writes_intText (n : Int) : Writes [n] (intText n) := by
  unfold intText integerText?
  dsimp only
  by_cases h : (Nat.toDigits 10 n.natAbs).length ≤ digitLimit
  · rw [if_pos h]
    exact .inl ⟨⟨_, rfl⟩, List.forall_mem_singleton.mpr (length_toDigits_le_iff.mp h)⟩
  · rw [if_neg h]
    exact .inr ⟨rfl, n, List.mem_singleton_self n, fun hs => h (length_toDigits_le_iff.mpr hs)⟩

theorem Writes.eq_error {f : Fault} (h : Writes ns text) (hf : text = .error f) :
    f = .integerTooLong none ∧ ∃ n ∈ ns, ¬Short n := by
  rcases h with ⟨⟨a, rfl⟩, -⟩ | ⟨rfl, hn⟩
  · exact nomatch hf
  · exact ⟨(Except.error.inj hf).symm, hn⟩

theorem Writes.of_not_short {n : Int} (h : Writes ns text) (hn : n ∈ ns) (hl : ¬Short n) :
    text = .error (.integerTooLong none) := by
  rcases h with ⟨-, hs⟩ | ⟨ht, -⟩
  · exact absurd (hs n hn) hl
  · exact ht

end

mutual

def written : Value → List Int
  | int n => [n]
  | fraction n d => [n, d]
  | range a b s => [a, b, s]
  | sequence _ items => itemsWritten items
  | set _ items => itemsWritten items
  | mapping _ entries => entriesWritten entries
  | record .object .. => []
  | record _ _ _ fields => fieldsWritten fields
  | _ => []

def itemsWritten : List Value → List Int
  | [] => []
  | v :: vs => v.written ++ itemsWritten vs

def entriesWritten : List (Value × Value) → List Int
  | [] => []
  | (k, v) :: es => (k.written ++ v.written) ++ entriesWritten es

def fieldsWritten : List (String × Value) → List Int
  | [] => []
  | (_, v) :: fs => v.written ++ fieldsWritten fs

end

mutual

theorem writes_form : (v : Value) → Writes v.written v.form
  | null | bool _ | float .. | decimal .. | text _ | bytes .. | date _ | moment _ | special _ =>
    writes_ok _
  | int n => writes_intText n
  | fraction n d => (writes_intText n).bind fun _ => (writes_intText d).map
  | range a b s => (writes_intText a).bind fun _ => (writes_intText b).bind fun _ =>
    (writes_intText s).map
  | sequence _ items => (writes_forms items).map
  | set _ items => (writes_forms items).map
  | mapping _ entries => (writes_entryForms entries).map
  | record .object .. => writes_ok _
  | record .dataclass _ _ fields => (writes_fieldForms fields).map
  | record .namedTuple _ _ fields => (writes_fieldForms fields).map
  | record .nameless _ _ fields => (writes_fieldForms fields).map

theorem writes_forms : (vs : List Value) → Writes (itemsWritten vs) (forms vs)
  | [] => writes_ok _
  | v :: vs => (writes_form v).bind fun _ => (writes_forms vs).map

theorem writes_entryForms :
    (es : List (Value × Value)) → Writes (entriesWritten es) (entryForms es)
  | [] => writes_ok _
  | (k, v) :: es => by
    rw [entriesWritten, List.append_assoc]
    exact (writes_form k).bind fun _ => (writes_form v).bind fun _ => (writes_entryForms es).map

theorem writes_fieldForms :
    (fs : List (String × Value)) → Writes (fieldsWritten fs) (fieldForms fs)
  | [] => writes_ok _
  | (_, v) :: fs => (writes_form v).bind fun _ => (writes_fieldForms fs).map

end

/-- A value is told just if all integers in it are short. -/
theorem writes_toText (v : Value) : Writes v.written v.toText := by
  cases v with
  | fraction n d =>
    show Writes [n, d] (if d = 1 then _ else _)
    by_cases hd : d = 1
    · subst hd
      rw [if_pos rfl]
      rcases writes_intText n with ⟨ht, hn⟩ | ⟨ht, m, hm, hl⟩
      · have h₁ : Short 1 := Nat.one_lt_pow (by decide) (by decide)
        exact .inl ⟨ht, by simpa [h₁] using hn⟩
      · exact .inr ⟨ht, m, List.mem_cons.mpr (.inl (List.mem_singleton.mp hm)), hl⟩
    · rw [if_neg hd]
      exact (writes_intText n).bind fun _ => (writes_intText d).map
  | text s => exact writes_ok s
  | decimal d i => exact writes_ok _
  | date d => exact writes_ok _
  | moment m => exact writes_ok _
  | _ => exact writes_form _

theorem eq_integerTooLong_of_toText {v : Value} {f : Fault} (h : v.toText = .error f) :
    f = .integerTooLong none ∧ ∃ n ∈ v.written, ¬Short n :=
  (writes_toText v).eq_error h

end GraphTemplate.Value
