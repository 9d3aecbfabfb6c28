import GraphTemplate.Binary64.Decimal
import GraphTemplate.DecimalNumber
import GraphTemplate.Proofs.Text.Digit
import Mathlib.Data.Rat.Cast.Order

/-! Decimal numbers as they are written in ASCII: digits, a point with more digits after it or none,
and an exponent or none. All of them are read as the number they denote, by every reader of
numbers. -/
namespace GraphTemplate

open Binary64 (exponentText pointed zeros)

theorem lowerChar_of_isAsciiDigit {c : Char} (h : isAsciiDigit c = true) : lowerChar c = c := by
  have hall : ∀ i < 10, lowerChar (Char.ofNat (48 + i)) = Char.ofNat (48 + i) := by decide
  obtain ⟨hlow, hhigh⟩ := isAsciiDigit_iff.mp h
  have hc := hall (c.toNat - 48) (by omega)
  rwa [Nat.add_sub_cancel' hlow, Char.ofNat_toNat] at hc

/-- A number as it is written: its whole digits, those after the point, and its exponent. -/
structure DecimalText where
  whole : List Char
  part : List Char
  exponent? : Option Int
  whole_digits : AsciiDigits whole
  part_digits : AsciiDigits part
  whole_ne_nil : whole ≠ []

def exponentDigits (e : Int) : List Char :=
  zeros (2 - (Nat.toDigits 10 e.natAbs).length) ++ Nat.toDigits 10 e.natAbs

theorem exponentText_eq (e : Int) :
    exponentText e = 'e' :: (if e < 0 then '-' else '+') :: exponentDigits e :=
  List.append_assoc _ _ _

theorem asciiDigits_exponentDigits (e : Int) : AsciiDigits (exponentDigits e) :=
  (asciiDigits_replicate _).append (asciiDigits_toDigits _)

theorem exponentDigits_ne_nil (e : Int) : exponentDigits e ≠ [] :=
  List.append_ne_nil_of_right_ne_nil _ Nat.toDigits_ne_nil

theorem digitsValue_exponentDigits (e : Int) : digitsValue (exponentDigits e) = e.natAbs := by
  rw [exponentDigits, zeros, digitsValue_append, digitsValue_replicate, digitsValue_toDigits,
    Nat.zero_mul, Nat.zero_add]

theorem readExponent?_exponentText (e : Int) : readExponent? (exponentText e) = some e := by
  have hsign : spanSign ((if e < 0 then '-' else '+') :: exponentDigits e) =
      (decide (e < 0), exponentDigits e) := by
    by_cases he : e < 0 <;> simp [he, spanSign]
  have hspan := spanDigits_eq (asciiDigits_exponentDigits e).decimal
  have hempty : (exponentDigits e).isEmpty = false := by simp [exponentDigits_ne_nil]
  have hvalue : signedInt (decide (e < 0)) e.natAbs = e := by
    by_cases he : e < 0
    · simp only [signedInt, he, decide_true, if_true]
      omega
    · simp only [signedInt, he, decide_false, Bool.false_eq_true, if_false]
      omega
  rw [exponentText_eq]
  simp [readExponent?, hsign, hspan, hempty, digitsValue_exponentDigits, hvalue]

namespace DecimalText

variable (d : DecimalText)

def magnitude : List Char := pointed d.whole d.part

def tail : List Char := (d.exponent?.map exponentText).getD []

def chars : List Char := d.magnitude ++ d.tail

theorem chars_of_none (h : d.exponent? = none) : d.chars = pointed d.whole d.part := by
  rw [chars, tail, h]
  exact List.append_nil _

def digits : Nat := digitsValue (d.whole ++ d.part)

def power : Int := d.exponent?.getD 0 - d.part.length

def value : ℚ := d.digits * (10 : ℚ) ^ d.power

theorem readExponent?_tail : readExponent? d.tail = some (d.exponent?.getD 0) := by
  unfold tail
  cases d.exponent? with
  | none => rfl
  | some e => exact readExponent?_exponentText e

theorem head?_tail {c : Char} (h : c ∈ d.tail.head?) : c = 'e' := by
  unfold tail at h
  cases he : d.exponent? with
  | none =>
    rw [he] at h
    cases h
  | some e =>
    rw [he] at h
    exact (Option.some.inj h).symm

theorem readDecimalParts?_chars (negative : Bool) :
    readDecimalParts? negative d.chars = some ⟨negative, d.digits, d.power⟩ := by
  have htail : ∀ c ∈ d.tail.head?, isDecimalDigit c = false ∧ c ≠ '_' := by
    intro c hc
    obtain rfl := d.head?_tail hc
    decide
  have hempty : d.whole.isEmpty = false := by simp [d.whole_ne_nil]
  unfold readDecimalParts? chars magnitude pointed
  by_cases hpart : d.part = []
  · -- without a point the exponent, if any, follows the digits
    have hpoint : ∀ more, d.tail ≠ '.' :: more := by
      intro more hmore
      have hc := d.head?_tail (c := '.') (by rw [hmore]; rfl)
      exact absurd hc (by decide)
    simp [hpart, spanDigits_append d.whole_digits.decimal htail, hempty, d.readExponent?_tail,
      digits, power]
  · have hdot : ∀ c ∈ ('.' :: (d.part ++ d.tail)).head?, isDecimalDigit c = false ∧ c ≠ '_' := by
      intro c hc
      obtain rfl := Option.some.inj hc
      decide
    simp [hpart, spanDigits_append d.whole_digits.decimal hdot,
      spanDigits_append d.part_digits.decimal htail, hempty, d.readExponent?_tail, digits, power]

theorem head?_chars {c : Char} (h : c ∈ d.chars.head?) : isAsciiDigit c = true := by
  have hhead : d.chars.head? = d.whole.head? := by
    unfold chars magnitude pointed
    split
    · exact List.head?_append_of_ne_nil _ d.whole_ne_nil
    · rw [List.append_assoc, List.head?_append_of_ne_nil _ d.whole_ne_nil]
  rw [hhead] at h
  exact d.whole_digits c (List.mem_of_mem_head? h)

theorem getLast?_chars {c : Char} (h : c ∈ d.chars.getLast?) : isAsciiDigit c = true := by
  unfold chars tail at h
  cases he : d.exponent? with
  | none =>
    rw [he, Option.map_none, Option.getD_none, List.append_nil] at h
    unfold magnitude pointed at h
    split at h
    · exact d.whole_digits c (List.mem_of_mem_getLast? h)
    · next hpart =>
      have hne : d.part ≠ [] := by simpa using hpart
      rw [List.getLast?_append_of_ne_nil _ (List.cons_ne_nil _ _),
        List.getLast?_cons_of_ne_nil hne] at h
      exact d.part_digits c (List.mem_of_mem_getLast? h)
  | some e =>
    rw [he, Option.map_some, Option.getD_some, exponentText_eq,
      List.getLast?_append_of_ne_nil _ (List.cons_ne_nil _ _), List.getLast?_cons_cons,
      List.getLast?_cons_of_ne_nil (exponentDigits_ne_nil e)] at h
    exact asciiDigits_exponentDigits e c (List.mem_of_mem_getLast? h)

variable {d} in
/-- Without an exponent there are digits and the point alone. -/
theorem not_mem_chars {c : Char} (he : d.exponent? = none) (hc : isAsciiDigit c = false)
    (hpoint : c ≠ '.') : c ∉ d.chars := by
  have hdigit {ds : List Char} (h : AsciiDigits ds) : c ∉ ds := by
    intro hmem
    rw [h c hmem] at hc
    cases hc
  rw [d.chars_of_none he, pointed]
  split
  · exact hdigit d.whole_digits
  · simp [hdigit d.whole_digits, hdigit d.part_digits, hpoint]

variable {d} in
theorem mem_chars_of_exponent (h : d.exponent? ≠ none) : 'e' ∈ d.chars := by
  obtain ⟨e, he⟩ := Option.ne_none_iff_exists'.mp h
  rw [chars, tail, he, Option.map_some, Option.getD_some, exponentText_eq]
  simp

theorem chars_ne_nil : d.chars ≠ [] := by
  unfold chars magnitude pointed
  split <;> simp [d.whole_ne_nil]

theorem trimNumeral_signed (negative : Bool) :
    trimNumeral (DecimalNumber.sign negative ++ d.chars) =
      DecimalNumber.sign negative ++ d.chars := by
  have hne : DecimalNumber.sign negative ++ d.chars ≠ [] := by simp [d.chars_ne_nil]
  have htrim := @trimNumeral_append _ [] hne ?_ ?_ fun c hc => nomatch hc
  · rwa [List.append_nil] at htrim
  · intro c hc
    cases negative with
    | true =>
      obtain rfl := Option.some.inj hc
      decide
    | false =>
      exact isNumeralBlank_of_isDecimalDigit (isDecimalDigit_of_isAsciiDigit (d.head?_chars hc))
  · intro c hc
    rw [List.getLast?_append_of_ne_nil _ d.chars_ne_nil] at hc
    exact isNumeralBlank_of_isDecimalDigit (isDecimalDigit_of_isAsciiDigit (d.getLast?_chars hc))

theorem spanSign_signed (negative : Bool) :
    spanSign (DecimalNumber.sign negative ++ d.chars) = (negative, d.chars) := by
  cases negative with
  | true => rfl
  | false =>
    obtain ⟨c, cs, hcs⟩ := List.exists_cons_of_ne_nil d.chars_ne_nil
    have hc := d.head?_chars (c := c) (by rw [hcs]; rfl)
    rw [hcs]
    exact Spelling.spanSign_of_digit (isDecimalDigit_of_isAsciiDigit hc)

/-- What begins with a digit is no word. -/
theorem lowered_ne {word : String} {first : Char} (hfirst : word.toList.head? = some first)
    (h : isDecimalDigit first = false) :
    (String.ofList (d.chars.map lowerChar) == word) = false := by
  obtain ⟨c, cs, hcs⟩ := List.exists_cons_of_ne_nil d.chars_ne_nil
  have hc := d.head?_chars (c := c) (by rw [hcs]; rfl)
  rw [beq_eq_false_iff_ne]
  rintro rfl
  have hhead : c = first := by simpa [hcs, lowerChar_of_isAsciiDigit hc] using hfirst
  rw [← hhead, isDecimalDigit_of_isAsciiDigit hc] at h
  cases h

theorem readBinary64?_signed (negative : Bool) :
    readBinary64? (DecimalNumber.sign negative ++ d.chars) =
      some (.ofDecimal negative d.digits d.power) := by
  have hinf := d.lowered_ne (show "inf".toList.head? = some 'i' from rfl) (by decide)
  have hinfinity := d.lowered_ne (show "infinity".toList.head? = some 'i' from rfl) (by decide)
  have hnan := d.lowered_ne (show "nan".toList.head? = some 'n' from rfl) (by decide)
  unfold readBinary64?
  rw [d.trimNumeral_signed, d.spanSign_signed]
  simp [hinf, hinfinity, hnan, d.readDecimalParts?_chars]

theorem ofText?_signed (negative : Bool) :
    DecimalNumber.ofText? (String.ofList (DecimalNumber.sign negative ++ d.chars)) =
      some (.finite negative d.digits d.power) := by
  have hword : (d.chars.map lowerChar).takeWhile (!isDecimalDigit ·) = [] := by
    obtain ⟨c, cs, hcs⟩ := List.exists_cons_of_ne_nil d.chars_ne_nil
    have hc := d.head?_chars (c := c) (by rw [hcs]; rfl)
    rw [hcs, List.map_cons, lowerChar_of_isAsciiDigit hc]
    exact List.takeWhile_cons_of_neg (by simp [isDecimalDigit_of_isAsciiDigit hc])
  unfold DecimalNumber.ofText?
  rw [String.toList_ofList, d.trimNumeral_signed, d.spanSign_signed]
  simp [hword, d.readDecimalParts?_chars]

end DecimalText

end GraphTemplate
