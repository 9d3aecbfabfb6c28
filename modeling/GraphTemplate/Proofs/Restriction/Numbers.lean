import GraphTemplate.Proofs.Binary64.PointPlace
import GraphTemplate.Proofs.Restriction.Dates
import Mathlib.Data.List.TakeWhile

/-! Restrictions to one number. The canonical text of a whole number is a restriction to the number
again; that of a floating-point number is, just if the number is finite and below `10 ^ 16`: the
text of a larger one has no point. -/
namespace GraphTemplate

open Binary64 (pointed)

theorem Binary64.negative_ofDecimal (negative : Bool) (digits : Nat) (e : Int) :
    (ofDecimal negative digits e).negative = negative := by
  have hcode (code : Nat) : (ofCode negative code).negative = negative := by
    unfold ofCode
    split <;> rfl
  have hratio (num den : Nat) : (ofRatio negative num den).negative = negative := by
    unfold ofRatio zero
    dsimp only
    split <;> rw [hcode]
  unfold ofDecimal zero infinity
  split
  · exact hcode 0
  · split
    · rfl
    · split
      · exact hcode 0
      · split <;> exact hratio _ _

namespace Restriction

theorem isDigits_of_asciiDigits {ds : List Char} (h : AsciiDigits ds) (hne : ds ≠ []) :
    isDigits ds = true := by
  simp [isDigits, hne, List.all_eq_true.mpr h.decimal]

theorem withoutBreak_eq {cs : List Char} (h : ∀ c ∈ cs.getLast?, isAsciiDigit c = true) :
    withoutBreak cs = cs := by
  have hlast : ¬(cs.getLast? == some '\n') = true := by
    intro hbreak
    exact absurd (h '\n' (beq_iff_eq.mp hbreak)) (by decide)
  exact if_neg hlast

/-- An integer is read from its digits, if they are not too many. -/
theorem readDatum_toDigits {n : Nat} (h : (Nat.toDigits 10 n).length ≤ digitLimit) :
    readDatum .int (String.ofList (Nat.toDigits 10 n)) = .ok (.int n) := by
  have hbreak : withoutBreak (Nat.toDigits 10 n) = Nat.toDigits 10 n :=
    withoutBreak_eq fun c hc => asciiDigits_toDigits n c (List.mem_of_mem_getLast? hc)
  have hdigits := isDigits_of_asciiDigits (asciiDigits_toDigits n) Nat.toDigits_ne_nil
  simp [readDatum, hbreak, hdigits, h, digitsValue_toDigits]

/-- A decimal is read if it has a point. -/
theorem readFloat?_chars {d : DecimalText} (h : d.exponent? = none) :
    readFloat? d.chars =
      if d.part = [] then none else some (.ofDecimal false d.digits d.power) := by
  have hwhole := d.whole_digits.decimal
  rw [d.chars_of_none h, pointed]
  by_cases hpart : d.part = []
  · have hall : d.whole.dropWhile isDecimalDigit = [] := by
      rw [List.dropWhile_eq_nil_iff]
      exact hwhole
    simp [readFloat?, hpart, hall]
  · have hpoint : isDecimalDigit '.' = false := by decide
    have htake : (d.whole ++ '.' :: d.part).takeWhile isDecimalDigit = d.whole := by
      rw [List.takeWhile_append_of_pos hwhole]
      simp [hpoint]
    have hdrop : (d.whole ++ '.' :: d.part).dropWhile isDecimalDigit = '.' :: d.part := by
      rw [List.dropWhile_append_of_pos hwhole]
      simp [hpoint]
    have hpower : d.power = -(d.part.length : Int) := by
      rw [DecimalText.power, h]
      simp
    simp [readFloat?, hpart, htake, hdrop, isDigits_of_asciiDigits d.whole_digits d.whole_ne_nil,
      isDigits_of_asciiDigits d.part_digits hpart, hpower, DecimalText.digits]

end Restriction

/-- Whole numbers, and finite floating-point numbers below `10 ^ 16`. -/
def Datum.Moderate : Datum → Prop
  | int _ => True
  | float x => x.isFinite = true ∧ x.scaled < 10 ^ 16 <<< 1074
  | _ => False

namespace Restriction

variable {raw : String} {datum : Datum}

/-- What the canonical text of a number reads as: the number, or nothing. -/
def Reread (s : Scalar) (datum : Datum) : Prop :=
  ∃ canonical, datum.canonicalText = .ok canonical ∧
    (datum.Moderate → readDatum s canonical = .ok datum) ∧
    (¬datum.Moderate → readDatum s canonical = .error (.invalid (.wrongType canonical s)))

theorem reread_int (h : readDatum .int raw = .ok datum) : Reread .int datum := by
  obtain ⟨hd, hscalar⟩ := readDatum_eq_ok_iff.mp h
  cases hd with
  | int hdigits hle =>
    have hlen := (Nat.length_toDigits_le_iff (b := 10) (by decide) (by decide)).mpr
      (Nat.lt_of_lt_of_le (digitsValue_lt (withoutBreak raw.toList))
        (Nat.pow_le_pow_right (by decide) hle))
    exact ⟨_, intText_digitsValue hle, fun _ => readDatum_toDigits hlen, fun hno =>
      absurd trivial hno⟩
  | _ => cases hscalar

theorem negative_of_readFloat? {cs : List Char} {x : Binary64} (h : readFloat? cs = some x) :
    x.negative = false := by
  unfold readFloat? at h
  dsimp only at h
  split at h
  · split at h
    · rw [← Option.some.inj h, Binary64.negative_ofDecimal]
    · exact nomatch h
  · exact nomatch h

theorem readFloat?_plainText {x : Binary64} (hn : x.negative = false) :
    readFloat? (withoutBreak x.plainText.toList) =
      if x.isFinite = true ∧ x.scaled < 10 ^ 16 <<< 1074 then some x else none := by
  by_cases hx : x.isFinite = true
  · have hplain := Binary64.toList_plainText hx
    have hnone := @Binary64.exponent?_plainlySpelled x
    have hpart := Binary64.part_plainlySpelled_eq_nil_iff hx
    have hvalue := Binary64.ofDecimal_of_value hx rfl
    rw [hn] at hplain hvalue
    have hchars : x.plainText.toList = x.plainlySpelled.chars := hplain
    rw [hchars, withoutBreak_eq fun c hc => x.plainlySpelled.getLast?_chars hc,
      readFloat?_chars hnone, hvalue]
    by_cases hlt : x.scaled < 10 ^ 16 <<< 1074
    · rw [if_neg (hpart.not.mpr (not_not.mpr hlt)), if_pos ⟨hx, hlt⟩]
    · rw [if_pos (hpart.mpr hlt), if_neg fun hyes => hlt hyes.2]
  · have htext : x.plainText = "nan" ∨ x.plainText = "inf" := by
      have hexp : x.exponent = 2047 := by
        by_contra hne
        exact hx (bne_iff_ne.mpr hne)
      by_cases hf : x.fraction = 0
      · have hinf : x = .infinity false := by
          obtain ⟨_, _, _⟩ := x
          simp only at hn hexp hf
          rw [hn, hexp, hf, Binary64.infinity]
        exact .inr (hinf ▸ rfl)
      · have hnan : x.isNaN = true := by simp [Binary64.isNaN, hexp, hf]
        exact .inl (if_pos hnan)
    rw [if_neg fun hyes => hx hyes.1]
    rcases htext with ht | ht <;> rw [ht] <;> decide

theorem reread_float (h : readDatum .float raw = .ok datum) : Reread .float datum := by
  obtain ⟨hd, hscalar⟩ := readDatum_eq_ok_iff.mp h
  cases hd with
  | @float x hx =>
    have hread := readFloat?_plainText (negative_of_readFloat? hx)
    refine ⟨x.plainText, rfl, fun hyes => ?_, fun hno => ?_⟩
    · exact readDatum_eq_ok_iff.mpr ⟨.float (hread.trans (if_pos hyes)), rfl⟩
    · simp only [readDatum, hread.trans (if_neg hno)]
  | _ => cases hscalar

/-- The canonical text of the number that a restriction wants is a restriction in its turn just if
the number is a whole one or a finite floating-point number below `10 ^ 16`, and then one to the
same number. -/
theorem number_texts {d : Descriptor} {kind : RestrictionKind} {s : Scalar} {r : Restriction}
    (h : Names d kind s) (hs : s = .int ∨ s = .float) (hb : build d kind raw = .ok r) :
    ∃ datum canonical, r.demand = .equals datum ∧ datum.canonicalText = .ok canonical ∧
      ((∃ r', build d kind canonical = .ok r') ↔ datum.Moderate) ∧
      ∀ r', build d kind canonical = .ok r' → r'.demand = .equals datum := by
  obtain ⟨datum, hread, rfl⟩ := (build_eq_ok_iff h).mp hb
  have hreread : Reread s datum := by
    rcases hs with rfl | rfl
    · exact reread_int hread
    · exact reread_float hread
  obtain ⟨canonical, htext, hyes, hno⟩ := hreread
  refine ⟨datum, canonical, rfl, htext, ⟨?_, ?_⟩, ?_⟩
  · rintro ⟨r', hr'⟩
    obtain ⟨datum', hread', -⟩ := (build_eq_ok_iff h).mp hr'
    by_contra hmoderate
    rw [hno hmoderate] at hread'
    cases hread'
  · intro hmoderate
    exact ⟨_, (build_eq_ok_iff h).mpr ⟨datum, hyes hmoderate, rfl⟩⟩
  · intro r' hr'
    obtain ⟨datum', hread', rfl⟩ := (build_eq_ok_iff h).mp hr'
    by_cases hmoderate : datum.Moderate
    · rw [hyes hmoderate] at hread'
      rw [Except.ok.inj hread']
    · rw [hno hmoderate] at hread'
      cases hread'

theorem build_float {x : Binary64} (h : readFloat? (withoutBreak raw.toList) = some x) :
    build (.scalar .float) .value raw = .ok ⟨.float, false, .equals (.float x), raw⟩ := by
  rw [build_of_names (.inl ⟨rfl, rfl⟩)]
  simp only [readDatum, h]
  rfl

theorem number_texts_padded : ∃ x r r',
    build (.scalar .float) .value "007.50" = .ok r ∧ r.demand = .equals (.float x) ∧
      (Datum.float x).canonicalText = .ok "7.5" ∧
      build (.scalar .float) .value "7.5" = .ok r' ∧ r'.demand = .equals (.float x) := by
  have hread : readFloat? (withoutBreak "007.50".toList) = some (.ofDecimal false 750 (-2)) := by
    decide +kernel
  have hb := build_float hread
  obtain ⟨datum, canonical, hdemand, htext, haccepted, hsame⟩ :=
    number_texts (.inl ⟨rfl, rfl⟩) (.inr rfl) hb
  obtain rfl := Demand.equals.inj hdemand
  have hcanonical : (Datum.float (.ofDecimal false 750 (-2))).canonicalText = .ok "7.5" := by
    decide +kernel
  obtain rfl : "7.5" = canonical := Except.ok.inj (hcanonical.symm.trans htext)
  have hmoderate : (Datum.float (.ofDecimal false 750 (-2))).Moderate :=
    ⟨by decide +kernel, by decide +kernel⟩
  obtain ⟨r', hr'⟩ := haccepted.mpr hmoderate
  exact ⟨_, _, r', hb, rfl, hcanonical, hr', hsame r' hr'⟩

/-- The canonical text of the bound has no point. -/
theorem bound_not_reread : ¬∀ raw r, build (.scalar .float) .value raw = .ok r →
    ∃ datum canonical, r.demand = .equals datum ∧ datum.canonicalText = .ok canonical ∧
      ∃ r', build (.scalar .float) .value canonical = .ok r' := by
  intro h
  have hread : readFloat? (withoutBreak "10000000000000000.0".toList) =
      some (.ofDecimal false (10 ^ 17) (-1)) := by decide +kernel
  obtain ⟨datum, canonical, hdemand, htext, r', hr'⟩ := h _ _ (build_float hread)
  obtain rfl := Demand.equals.inj hdemand
  have hcanonical : (Datum.float (.ofDecimal false (10 ^ 17) (-1))).canonicalText =
      .ok "10000000000000000" := by decide +kernel
  obtain rfl : "10000000000000000" = canonical := Except.ok.inj (hcanonical.symm.trans htext)
  obtain ⟨datum', hread', -⟩ := (build_eq_ok_iff (.inl ⟨rfl, rfl⟩)).mp hr'
  have hnone : readFloat? (withoutBreak "10000000000000000".toList) = none := by decide +kernel
  simp only [readDatum, hnone] at hread'
  cases hread'

end Restriction

end GraphTemplate
