import GraphTemplate.Restriction
import GraphTemplate.Proofs.Binary64.Scaled
import GraphTemplate.Proofs.Datum
import GraphTemplate.Proofs.Value.Equivalence

/-! What equal values are as data: one datum, or two that are equal as numbers or as instants. All
that a restriction can tell of the two is the sign of a zero. -/
namespace GraphTemplate

theorem Date.ordinal_injective {d d' : Date} (h : d.ordinal = d'.ordinal) : d = d' := by
  have hd := ofOrdinal?_ordinal d
  rw [h, ofOrdinal?_ordinal] at hd
  exact (Option.some.inj hd).symm

theorem Clock.micros_injective {c c' : Clock} (h : c.micros = c'.micros) : c = c' := by
  rw [← ofMicros_micros c, h, ofMicros_micros]

namespace Moment

variable {a b : Moment}

theorem parts_of_localMicros (h : a.localMicros = b.localMicros) :
    a.date = b.date ∧ a.clock = b.clock := by
  have ha := a.clock.micros_lt
  have hb := b.clock.micros_lt
  simp only [localMicros, Clock.microsPerDay] at h ha hb
  exact ⟨Date.ordinal_injective (by omega), Clock.micros_injective (by omega)⟩

theorem toUniversal?_of_same (h : a.same b = true) : a.toUniversal? = b.toUniversal? := by
  obtain ⟨hoffset, hinstant⟩ := same_iff.mp h
  cases ha : a.offset with
  | none =>
    have hb : b.offset = none := by simpa [ha] using hoffset
    have hlocal : a.localMicros = b.localMicros := by simpa [instant, ha, hb] using hinstant
    obtain ⟨hdate, hclock⟩ := parts_of_localMicros hlocal
    simp only [toUniversal?, ha, hb, hdate, hclock]
  | some o =>
    obtain ⟨o', hb⟩ : ∃ o', b.offset = some o' := by
      rw [← Option.isSome_iff_exists, ← hoffset, ha]
      rfl
    simp only [toUniversal?, ha, hb, hinstant]

end Moment

namespace Binary64

variable {x y : Binary64}

/-- Equal numbers are one number or the two zeros. -/
theorem eq_or_zeros_of_same (h : x.same y = true) :
    x = y ∨ ∃ b, x = zero b ∧ y = zero (!b) := by
  rcases same_iff.mp h with ⟨-, -, hs⟩ | ⟨-, hx, hy, hn⟩
  · by_cases hn : x.negative = y.negative
    · refine .inl (scaled_injective hn ?_)
      simp only [scaledInt, hn] at hs
      split at hs <;> omega
    · have hneg : y.negative = !x.negative := by
        cases hx : x.negative <;> cases hy : y.negative <;> simp_all
      have hzero : x.scaled = 0 ∧ y.scaled = 0 := by
        simp only [scaledInt, hneg] at hs
        cases hx : x.negative <;> simp [hx] at hs <;> omega
      refine .inr ⟨x.negative, scaled_injective rfl ?_, scaled_injective hneg ?_⟩
      · rw [hzero.1, scaled_zero]
      · rw [hzero.2, scaled_zero]
  · simp only [isInfinite, Bool.and_eq_true, beq_iff_eq] at hx hy
    obtain ⟨_, _, _⟩ := x
    obtain ⟨_, _, _⟩ := y
    simp only at hx hy hn
    exact .inl (by rw [hx.1, hx.2, hy.1, hy.2, hn])

theorem plainText_zero (b : Bool) : (zero b).plainText = if b then "-0.0" else "0.0" := by
  cases b <;> rfl

end Binary64

namespace Datum

variable {v w : Value}

/-- Equal values are the same data, unless they are two zeros or two spellings of a moment. -/
theorem ofValue?_cases (h : v.alike w = true) :
    (∀ s, ofValue? s v = ofValue? s w) ∨
      (∃ b i j, v = .float (.zero b) i ∧ w = .float (.zero (!b)) j) ∨
      ∃ m n, v = .moment m ∧ w = .moment n ∧ m.same n = true := by
  by_cases hv : v.isAtom = true
  · cases (Value.alike_atom_iff hv).mp h with
    | @float x i y j hx =>
      have hxy : x = y ∨ ∃ b, x = .zero b ∧ y = .zero (!b) := by
        rcases Value.same_float_iff.mp hx with hx | ⟨-, rfl⟩
        · exact Binary64.eq_or_zeros_of_same hx
        · exact .inl rfl
      rcases hxy with rfl | ⟨b, rfl, rfl⟩
      · exact .inl fun s => by cases s <;> rfl
      · exact .inr (.inl ⟨b, i, j, rfl, rfl⟩)
    | @moment m n hm => exact .inr (.inr ⟨m, n, rfl, rfl, hm⟩)
    | _ => exact .inl fun s => by cases s <;> rfl
  · -- What has parts that are compared is a datum of no type.
    refine .inl fun s => ?_
    cases v with
    | sequence =>
      obtain ⟨ys, rfl, -⟩ := Value.alike_sequence_iff.mp h
      cases s <;> rfl
    | set =>
      obtain ⟨ys, rfl, -⟩ := Value.alike_set_iff.mp h
      cases s <;> rfl
    | mapping =>
      obtain ⟨l, fs, rfl, -⟩ := Value.alike_mapping_iff.mp h
      cases s <;> rfl
    | record k =>
      cases k with
      | namedTuple =>
        obtain ⟨name, gs, rfl, -⟩ := Value.alike_namedTuple_iff.mp h
        cases s <;> rfl
      | _ => exact absurd rfl hv
    | _ => exact absurd rfl hv

theorem zero_meets (b : Bool) (wanted : Datum) :
    (float (.zero b)).meets wanted = (float (.zero (!b))).meets wanted := by
  have hsame : (Binary64.zero b).same (.zero (!b)) = true := by cases b <;> decide
  cases wanted with
  | float z =>
    have hz : (Binary64.zero b).same z = (Binary64.zero (!b)).same z := by
      rw [Bool.eq_iff_iff]
      constructor
      · intro hz
        rw [Binary64.same_comm] at hsame
        exact Binary64.same_trans hsame hz
      · exact Binary64.same_trans hsame
    simp only [meets, hz]
  | _ => rfl

theorem toUniversal_of_same {m n : Moment} (h : m.same n = true) :
    toUniversal m = toUniversal n := by
  rw [toUniversal, toUniversal, Moment.toUniversal?_of_same h]

theorem meets_of_same {m n : Moment} (h : m.same n = true) (wanted : Datum) :
    (datetime m).meets wanted = (datetime n).meets wanted := by
  cases wanted with
  | datetime z => simp only [meets, toUniversal_of_same h]
  | _ => rfl

theorem canonicalText_of_same {m n : Moment} (h : m.same n = true) :
    (datetime m).canonicalText = (datetime n).canonicalText := by
  simp only [canonicalText, toUniversal_of_same h]

end Datum

theorem Value.typed_alike {v w : Value} (h : v.alike w = true) (s : Scalar) :
    v.Typed s ↔ w.Typed s := by
  unfold Typed
  rcases Datum.ofValue?_cases h with he | ⟨b, i, j, rfl, rfl⟩ | ⟨m, n, rfl, rfl, -⟩
  · rw [he]
  · cases s <;> simp [Datum.ofValue?]
  · cases s <;> simp [Datum.ofValue?]

def Value.OppositeZeros (v w : Value) : Prop :=
  ∃ b i j, v = .float (.zero b) i ∧ w = .float (.zero (!b)) j

theorem Value.OppositeZeros.symm {v w : Value} (h : v.OppositeZeros w) : w.OppositeZeros v := by
  obtain ⟨b, i, j, rfl, rfl⟩ := h
  exact ⟨!b, j, i, rfl, by rw [Bool.not_not]⟩

namespace Restriction

variable {r : Restriction} {v w : Value}

/-- A restriction of floating-point numbers by a pattern that occurs in the text of one zero and not
in that of the other. -/
def SplitsZeros (r : Restriction) : Prop :=
  r.scalar = .float ∧ ∃ p, r.demand = .matching p ∧ p.occursIn "0.0" ≠ p.occursIn "-0.0"

theorem accepts_zero (hz : ¬r.SplitsZeros) (b : Bool) (i j : Nat) :
    r.accepts (.float (.zero b) i) = r.accepts (.float (.zero (!b)) j) := by
  unfold accepts
  cases hs : r.scalar with
  | float =>
    simp only [Datum.ofValue?, bind, Except.bind]
    cases hr : r.demand with
    | equals wanted => exact Datum.zero_meets b wanted
    | matching p =>
      have hp : p.occursIn "0.0" = p.occursIn "-0.0" := by
        by_contra hne
        exact hz ⟨hs, p, hr, hne⟩
      cases b <;> simp [Datum.canonicalText, Binary64.plainText_zero, hp]
  | _ => rfl

theorem accepts_of_same {m n : Moment} (h : m.same n = true) :
    r.accepts (.moment m) = r.accepts (.moment n) := by
  unfold accepts
  cases r.scalar with
  | datetime =>
    simp only [Datum.ofValue?, bind, Except.bind]
    cases r.demand with
    | equals wanted => exact Datum.meets_of_same h wanted
    | matching p => rw [Datum.canonicalText_of_same h]
  | _ => rfl

/-- Equal values are accepted alike, zeros of opposite signs apart. -/
theorem accepts_alike (h : v.alike w = true) (hz : r.SplitsZeros → ¬v.OppositeZeros w) :
    r.accepts v = r.accepts w := by
  rcases Datum.ofValue?_cases h with he | hzeros | ⟨m, n, rfl, rfl, hm⟩
  · unfold accepts
    rw [he]
  · have hsplit : ¬r.SplitsZeros := fun hs => hz hs hzeros
    obtain ⟨b, i, j, rfl, rfl⟩ := hzeros
    exact accepts_zero hsplit b i j
  · exact accepts_of_same hm

end Restriction

end GraphTemplate
