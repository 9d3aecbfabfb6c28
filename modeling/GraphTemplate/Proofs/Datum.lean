import GraphTemplate.Proofs.Binary64.Overflow
import GraphTemplate.Proofs.Moment.Range
import GraphTemplate.Proofs.Value.Written
import GraphTemplate.Datum

/-! Values read as data of a scalar type, and what keeps them from being read or told. -/
namespace GraphTemplate

inductive Datum.Reads : Value → Datum → Prop where
  | int (n : Int) : Reads (.int n) (.int n)
  | float (x : Binary64) (identity : Nat) : Reads (.float x identity) (.float x)
  | fraction {n : Int} {d : Nat} {x : Binary64} (h : floatOfRatio n d = .ok x) :
    Reads (.fraction n d) (.float x)
  | string (s : String) : Reads (.text s) (.string s)
  | bool (b : Bool) : Reads (.bool b) (.bool b)
  | datetime (m : Moment) : Reads (.moment m) (.datetime m)

def Value.Typed (s : Scalar) (v : Value) : Prop := ∃ d, Datum.ofValue? s v = .ok (some d)

/-- A value with the fault of a conversion: it is beyond a limit of its kind. -/
inductive Value.Beyond : Value → Fault → Prop where
  | integer {v : Value} {n : Int} (hn : n ∈ v.written) (hl : ¬Short n) :
    Beyond v (.integerTooLong none)
  | fraction {n : Int} {d : Nat} (hd : 0 < d) (h : Binary64.overflow * d ≤ n.natAbs) :
    Beyond (.fraction n d) (.outOfRange "number too large to convert to float")
  | moment {m : Moment} (h : ¬Moment.InCalendar m.instant) :
    Beyond (.moment m) Datum.calendarOverflow

theorem Value.beyond_of_toText {v : Value} {f : Fault} (h : v.toText = .error f) : v.Beyond f := by
  obtain ⟨rfl, n, hn, hl⟩ := eq_integerTooLong_of_toText h
  exact .integer hn hl

namespace Datum

variable {v : Value} {s : Scalar} {d wanted : Datum} {f : Fault}

theorem ofValue?_eq_some_iff : ofValue? s v = .ok (some d) ↔ d.scalar = s ∧ Reads v d := by
  constructor
  · intro h
    refine ⟨scalar_of_ofValue? h, ?_⟩
    unfold ofValue? at h
    split at h
    case h_3 n den =>
      cases hr : floatOfRatio n den with
      | ok x =>
        rw [hr] at h
        obtain rfl := Option.some.inj (Except.ok.inj h)
        exact .fraction hr
      | error f =>
        rw [hr] at h
        exact nomatch h
    all_goals cases h
    all_goals constructor
  · rintro ⟨rfl, hr⟩
    cases hr with
    | fraction h =>
      show (floatOfRatio _ _).map _ = _
      rw [h]
      rfl
    | _ => rfl

theorem overflow_of_floatOfRatio {n : Int} {den : Nat} (h : floatOfRatio n den = .error f) :
    f = .outOfRange "number too large to convert to float" ∧
      0 < den ∧ Binary64.overflow * den ≤ n.natAbs := by
  unfold floatOfRatio at h
  dsimp only at h
  split at h
  · next hi => exact ⟨(Except.error.inj h).symm, Binary64.isInfinite_ofRatio.mp hi⟩
  · exact nomatch h

theorem overflow_of_toUniversal {m : Moment} (h : toUniversal m = .error f) :
    f = calendarOverflow ∧ ¬Moment.InCalendar m.instant := by
  unfold toUniversal at h
  cases hu : m.toUniversal? with
  | none =>
    rw [hu] at h
    exact ⟨(Except.error.inj h).symm, Moment.toUniversal?_eq_none_iff.mp hu⟩
  | some u =>
    rw [hu] at h
    exact nomatch h

theorem beyond_of_ofValue? (h : ofValue? s v = .error f) : v.Beyond f := by
  unfold ofValue? at h
  split at h
  case h_3 n den =>
    cases hr : floatOfRatio n den with
    | ok x =>
      rw [hr] at h
      exact nomatch h
    | error f' =>
      rw [hr] at h
      obtain rfl := Except.error.inj h
      obtain ⟨rfl, hd, hn⟩ := overflow_of_floatOfRatio hr
      exact .fraction hd hn
  all_goals exact nomatch h

theorem beyond_of_toUniversal {m : Moment} {α : Type} {k : Moment → α}
    (h : (toUniversal m).map k = .error f) : (Value.moment m).Beyond f := by
  cases hu : toUniversal m with
  | ok u =>
    rw [hu] at h
    exact nomatch h
  | error f' =>
    rw [hu] at h
    obtain rfl := Except.error.inj h
    obtain ⟨rfl, hm⟩ := overflow_of_toUniversal hu
    exact .moment hm

theorem Reads.beyond_of_canonicalText (hr : Reads v d) (h : d.canonicalText = .error f) :
    v.Beyond f := by
  cases hr with
  | int n => exact Value.beyond_of_toText (v := .int n) h
  | datetime m => exact beyond_of_toUniversal h
  | _ => exact nomatch h

theorem Reads.beyond_of_meets (hr : Reads v d) (h : d.meets wanted = .error f) : v.Beyond f := by
  cases hr with
  | datetime m =>
    cases wanted with
    | datetime m' => exact beyond_of_toUniversal h
    | _ => exact nomatch h
  | _ => cases wanted <;> exact nomatch h

end Datum

end GraphTemplate
