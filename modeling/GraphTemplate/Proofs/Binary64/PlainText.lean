import GraphTemplate.Proofs.Binary64.Shortest
import GraphTemplate.Proofs.Text.Decimal
import GraphTemplate.Datum

/-! The two texts of a finite number. Both spell the shortest decimal of the number, the plain one
without an exponent, so that they denote one decimal number and are read back as the number. -/
namespace GraphTemplate

open Binary64 (Layout layout pointed positional zeros)

namespace DecimalText

variable {ds : List Char} {before : Int}

def placed (before : Int) (h : AsciiDigits ds) (hne : ds ≠ []) : DecimalText where
  whole := (positional ds before).1
  part := (positional ds before).2
  exponent? := none
  whole_digits := by
    unfold positional
    split
    · exact asciiDigits_replicate 1
    · exact (h.take _).append (asciiDigits_replicate _)
  part_digits := by
    unfold positional
    split
    · exact (asciiDigits_replicate _).append h
    · exact h.drop _
  whole_ne_nil := by
    unfold positional
    split
    · exact List.cons_ne_nil _ _
    · have hpos : before.toNat ≠ 0 := by omega
      simp [hne, hpos]

theorem part_placed_eq_nil_iff (h : AsciiDigits ds) (hne : ds ≠ []) :
    (placed before h hne).part = [] ↔ ds.length ≤ before := by
  have hlen := List.length_pos_of_ne_nil hne
  unfold placed positional
  dsimp only
  split
  · simp [hne]
    omega
  · rw [List.drop_eq_nil_iff]
    omega

theorem value_placed (h : AsciiDigits ds) (hne : ds ≠ []) :
    (placed before h hne).value = digitsValue ds * (10 : ℚ) ^ (before - ds.length) := by
  unfold value digits power placed positional zeros
  dsimp only
  split
  · have hzero : digitsValue ['0'] = 0 := rfl
    rw [digitsValue_append, digitsValue_append, digitsValue_replicate, hzero, List.length_append,
      List.length_replicate]
    congr 2
    · simp
    · simp
      omega
  · next hpos =>
    by_cases hle : ds.length ≤ before
    · obtain ⟨k, hk⟩ := Int.eq_ofNat_of_zero_le (show 0 ≤ before - ds.length by omega)
      have htake : ds.take before.toNat = ds := List.take_of_length_le (by omega)
      have hdrop : ds.drop before.toNat = [] := List.drop_of_length_le (by omega)
      rw [htake, hdrop, List.append_nil, digitsValue_append, digitsValue_replicate, hk,
        List.length_replicate, zpow_natCast]
      simp
    · have hnone : (before - ds.length).toNat = 0 := by omega
      rw [hnone, List.replicate_zero, List.append_nil, List.take_append_drop, List.length_drop]
      congr 2
      simp
      omega

def scientific (before : Int) (h : AsciiDigits ds) (hne : ds ≠ []) : DecimalText where
  whole := ds.take 1
  part := ds.drop 1
  exponent? := some (before - 1)
  whole_digits := h.take 1
  part_digits := h.drop 1
  whole_ne_nil := by simp [hne]

theorem value_scientific (h : AsciiDigits ds) (hne : ds ≠ []) :
    (scientific before h hne).value = digitsValue ds * (10 : ℚ) ^ (before - ds.length) := by
  have hlen := List.length_pos_of_ne_nil hne
  unfold value digits power scientific
  dsimp only
  rw [List.take_append_drop, List.length_drop]
  congr 2
  simp
  omega

def withPart (d : DecimalText) : DecimalText where
  whole := d.whole
  part := if d.part.isEmpty then ['0'] else d.part
  exponent? := d.exponent?
  whole_digits := d.whole_digits
  part_digits := by
    split
    · exact asciiDigits_replicate 1
    · exact d.part_digits
  whole_ne_nil := d.whole_ne_nil

theorem part_withPart_ne_nil (d : DecimalText) : d.withPart.part ≠ [] := by
  unfold withPart
  dsimp only
  split <;> simp_all

theorem value_withPart (d : DecimalText) : d.withPart.value = d.value := by
  unfold value digits power withPart
  dsimp only
  split
  · next hpart =>
    have hzero : digitsValue ['0'] = 0 := rfl
    rw [List.isEmpty_iff.mp hpart, digitsValue_append, hzero, List.append_nil]
    simp only [List.length_cons, List.length_nil, Nat.cast_mul, Nat.cast_add, Nat.cast_zero]
    rw [zpow_sub₀ (by norm_num), zpow_sub₀ (by norm_num)]
    simp
    field_simp
  · rfl

end DecimalText

namespace Binary64

open DecimalText (placed scientific)

variable (x : Binary64)

def shortDigits : List Char := Nat.toDigits 10 x.shortest.1

def pointPlace : Int := x.shortDigits.length + x.shortest.2

theorem asciiDigits_shortDigits : AsciiDigits x.shortDigits := asciiDigits_toDigits _

theorem shortDigits_ne_nil : x.shortDigits ≠ [] := Nat.toDigits_ne_nil

def InLayout : Prop := layout.fewest ≤ x.pointPlace ∧ x.pointPlace ≤ layout.most

instance : Decidable x.InLayout := inferInstanceAs (Decidable (_ ∧ _))

def expanded : DecimalText := placed x.pointPlace x.asciiDigits_shortDigits x.shortDigits_ne_nil

def nought : DecimalText where
  whole := ['0']
  part := ['0']
  exponent? := none
  whole_digits := asciiDigits_replicate 1
  part_digits := asciiDigits_replicate 1
  whole_ne_nil := List.cons_ne_nil _ _

def spelled : DecimalText :=
  if x.scaled = 0 then nought
  else if x.InLayout then x.expanded.withPart
  else scientific x.pointPlace x.asciiDigits_shortDigits x.shortDigits_ne_nil

def plainlySpelled : DecimalText :=
  if x.scaled = 0 then nought else if x.InLayout then x.expanded.withPart else x.expanded

theorem shortestDigits_eq : x.shortestDigits = (x.shortDigits, x.pointPlace) := rfl

theorem withPart_chars :
    x.expanded.withPart.chars = (positional x.shortDigits x.pointPlace).1 ++
      '.' :: (if (positional x.shortDigits x.pointPlace).2.isEmpty then ['0']
        else (positional x.shortDigits x.pointPlace).2) := by
  rw [DecimalText.chars_of_none _ rfl, pointed, if_neg (by simp [DecimalText.part_withPart_ne_nil])]
  rfl

variable {x}

theorem finiteText_eq (hs : x.scaled ≠ 0) : x.finiteText = x.spelled.chars := by
  unfold finiteText spelled
  rw [shortestDigits_eq, if_neg hs]
  by_cases h : x.InLayout
  · rw [if_pos h, x.withPart_chars]
    exact if_pos h
  · rw [if_neg h]
    exact if_neg h

theorem finitePlainText_eq (hs : x.scaled ≠ 0) : x.finitePlainText = x.plainlySpelled.chars := by
  have htext := finiteText_eq hs
  unfold finitePlainText plainlySpelled
  unfold spelled at htext
  rw [shortestDigits_eq, if_neg hs]
  rw [if_neg hs] at htext
  by_cases h : x.InLayout
  · rw [if_pos h] at htext ⊢
    exact (if_pos h).trans htext
  · rw [if_neg h, DecimalText.chars_of_none _ rfl]
    exact if_neg h

theorem toList_signed (cs : List Char) :
    (x.signed cs).toList = DecimalNumber.sign x.negative ++ cs := by
  unfold signed DecimalNumber.sign
  rw [String.toList_ofList]
  split <;> rfl

theorem toList_textWith {finite : Binary64 → List Char} {d : DecimalText} (h : x.isFinite = true)
    (hzero : x.scaled = 0 → d = nought) (hfinite : x.scaled ≠ 0 → finite x = d.chars) :
    (textWith finite x).toList = DecimalNumber.sign x.negative ++ d.chars := by
  have hexp : (x.exponent == 2047) = false := by
    rw [beq_eq_false_iff_ne]
    exact bne_iff_ne.mp h
  unfold textWith isNaN isInfinite isZero
  rw [hexp, h]
  by_cases hs : x.scaled = 0
  · simp only [hs, hzero hs, Bool.false_and, Bool.false_eq_true, if_false, beq_self_eq_true,
      Bool.and_self, if_true, toList_signed]
    rfl
  · simp [hs, hfinite hs, toList_signed]

theorem toList_text (h : x.isFinite = true) :
    x.text.toList = DecimalNumber.sign x.negative ++ x.spelled.chars :=
  toList_textWith h (fun hs => if_pos hs) finiteText_eq

theorem toList_plainText (h : x.isFinite = true) :
    x.plainText.toList = DecimalNumber.sign x.negative ++ x.plainlySpelled.chars :=
  toList_textWith h (fun hs => if_pos hs) finitePlainText_eq

theorem exponent?_plainlySpelled : x.plainlySpelled.exponent? = none := by
  unfold plainlySpelled
  split
  · rfl
  · split <;> rfl

/-- Without an exponent there is one spelling. -/
theorem spelled_eq (h : x.spelled.exponent? = none) : x.spelled = x.plainlySpelled := by
  unfold spelled at h ⊢
  unfold plainlySpelled
  split
  · rfl
  · next hs =>
    rw [if_neg hs] at h
    split at h
    · next hin => rw [if_pos hin, if_pos hin]
    · exact nomatch h

theorem value_expanded : x.expanded.value = x.shortest.1 * (10 : ℚ) ^ x.shortest.2 := by
  rw [expanded, DecimalText.value_placed, shortDigits, digitsValue_toDigits, pointPlace]
  congr 2
  rw [shortDigits]
  omega

theorem value_plainlySpelled (hs : x.scaled ≠ 0) :
    x.plainlySpelled.value = x.shortest.1 * (10 : ℚ) ^ x.shortest.2 := by
  rw [← value_expanded, plainlySpelled, if_neg hs]
  split
  · exact x.expanded.value_withPart
  · rfl

theorem value_spelled : x.spelled.value = x.plainlySpelled.value := by
  unfold spelled plainlySpelled
  split
  · rfl
  · split
    · rfl
    · rw [expanded, DecimalText.value_scientific, DecimalText.value_placed]

theorem eq_zero_of_scaled (h : x.scaled = 0) : x = zero x.negative := by
  apply scaled_injective
  · cases x.negative <;> rfl
  · rw [h, scaled_zero]

/-- Whatever denotes what the plain text denotes is rounded to the number. -/
theorem ofDecimal_of_value {d : DecimalText} (hx : x.isFinite = true)
    (h : d.value = x.plainlySpelled.value) : ofDecimal x.negative d.digits d.power = x := by
  by_cases hs : x.scaled = 0
  · have hnought : nought.value = 0 := by
      have hdigits : nought.digits = 0 := rfl
      rw [DecimalText.value, hdigits, Nat.cast_zero, zero_mul]
    have hten : (10 : ℚ) ^ d.power ≠ 0 := zpow_ne_zero _ (by norm_num)
    rw [plainlySpelled, if_pos hs, hnought, DecimalText.value, mul_eq_zero, Nat.cast_eq_zero] at h
    rw [ofDecimal, if_pos (h.resolve_right hten)]
    exact (eq_zero_of_scaled hs).symm
  · apply ofDecimal_of_roundedFrom hx hs
    have hshort := roundedFrom_shortest hs
    rwa [← value_plainlySpelled hs, ← h] at hshort

theorem readBinary64?_of_value {d : DecimalText} (hx : x.isFinite = true)
    (h : d.value = x.plainlySpelled.value) :
    readBinary64? (DecimalNumber.sign x.negative ++ d.chars) = some x := by
  rw [d.readBinary64?_signed, ofDecimal_of_value hx h]

end Binary64

/-- The canonical text of a finite number is digits with a point between them or none, after a
minus if the number is negative. It denotes the decimal number that the text of the number denotes,
is read back as the number, and is that text if the text has no exponent. -/
theorem Datum.canonicalText_float {x : Binary64} (h : x.isFinite = true) :
    ∃ (canonical : String) (whole part : List Char),
      (Datum.float x).canonicalText = .ok canonical ∧
      canonical.toList = DecimalNumber.sign x.negative ++ pointed whole part ∧
      whole ≠ [] ∧ AsciiDigits whole ∧ AsciiDigits part ∧
      'e' ∉ canonical.toList ∧ 'E' ∉ canonical.toList ∧
      (∃ c e c' e', DecimalNumber.ofText? x.text = some (.finite x.negative c e) ∧
        DecimalNumber.ofText? canonical = some (.finite x.negative c' e') ∧
        (c * 10 ^ e : ℚ) = c' * 10 ^ e') ∧
      readBinary64? x.text.toList = some x ∧ readBinary64? canonical.toList = some x ∧
      ('e' ∉ x.text.toList ∧ 'E' ∉ x.text.toList → canonical = x.text) := by
  have htext := Binary64.toList_text h
  have hplain := Binary64.toList_plainText h
  have hnone := @Binary64.exponent?_plainlySpelled x
  have hsign {c : Char} (hc : c ≠ '-') : c ∉ DecimalNumber.sign x.negative := by
    unfold DecimalNumber.sign
    split <;> simp [hc]
  have hletter {c : Char} (hdigit : isAsciiDigit c = false) (hminus : c ≠ '-')
      (hpoint : c ≠ '.') : c ∉ x.plainText.toList := by
    rw [hplain, List.mem_append, not_or]
    exact ⟨hsign hminus, DecimalText.not_mem_chars hnone hdigit hpoint⟩
  have hofText {t : String} {d : DecimalText}
      (ht : t.toList = DecimalNumber.sign x.negative ++ d.chars) :
      DecimalNumber.ofText? t = some (.finite x.negative d.digits d.power) := by
    rw [← d.ofText?_signed, ← ht, String.ofList_toList]
  refine ⟨x.plainText, x.plainlySpelled.whole, x.plainlySpelled.part, rfl, ?_,
    x.plainlySpelled.whole_ne_nil, x.plainlySpelled.whole_digits, x.plainlySpelled.part_digits,
    hletter (by decide) (by decide) (by decide), hletter (by decide) (by decide) (by decide),
    ⟨_, _, _, _, hofText htext, hofText hplain, Binary64.value_spelled⟩, ?_, ?_, ?_⟩
  · rw [hplain, DecimalText.chars_of_none _ hnone]
  · rw [htext]
    exact Binary64.readBinary64?_of_value h Binary64.value_spelled
  · rw [hplain]
    exact Binary64.readBinary64?_of_value h rfl
  · rintro ⟨hlower, -⟩
    have hspelled : x.spelled.exponent? = none := by
      by_contra hexp
      apply hlower
      rw [htext]
      exact List.mem_append_right _ (DecimalText.mem_chars_of_exponent hexp)
    apply String.toList_inj.mp
    rw [htext, hplain, Binary64.spelled_eq hspelled]

def Binary64.tiny : Binary64 := .ofDecimal true 15 (-8)

theorem Datum.canonicalText_tiny : Binary64.tiny.isFinite = true ∧
    Binary64.tiny.text = "-1.5e-07" ∧
    (Datum.float Binary64.tiny).canonicalText = .ok "-0.00000015" ∧
    'e' ∉ "-0.00000015".toList ∧
    readBinary64? "-0.00000015".toList = some Binary64.tiny := by
  have hfinite : Binary64.tiny.isFinite = true := by decide +kernel
  have htext : Binary64.tiny.text = "-1.5e-07" := by decide +kernel
  have hplain : Binary64.tiny.plainText = "-0.00000015" := by decide +kernel
  obtain ⟨canonical, whole, part, hok, -, -, -, -, hletter, -, -, -, hread, -⟩ :=
    canonicalText_float hfinite
  obtain rfl : "-0.00000015" = canonical := hplain.symm.trans (Except.ok.inj hok)
  exact ⟨hfinite, htext, hok, hletter, hread⟩

end GraphTemplate
