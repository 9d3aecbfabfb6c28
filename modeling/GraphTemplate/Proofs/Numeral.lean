import GraphTemplate.Numeral
import Mathlib.Data.List.Basic

/-! Integers as they are spelled: a sign or none, decimal digits and perhaps a line break. All of
them are read as what their digits denote, unless the digits are too many. -/
namespace GraphTemplate

structure Spelling where
  sign : List Char
  digits : List Char
  ending : List Char
  signed : sign = [] ∨ sign = ['+'] ∨ sign = ['-']
  decimal : ∀ c ∈ digits, isDecimalDigit c = true
  nonempty : digits ≠ []
  ended : ending = [] ∨ ending = ['\n']

theorem exists_zero_of_isDecimalDigit {c : Char} (h : isDecimalDigit c = true) :
    ∃ z ∈ digitZeros, ∃ i < 10, c = Char.ofNat (z + i) := by
  unfold isDecimalDigit digitValue? at h
  rw [Option.isSome_map, Option.isSome_iff_exists] at h
  obtain ⟨z, hz⟩ := h
  have hbounds := List.find?_some hz
  simp only [Bool.and_eq_true, decide_eq_true_eq] at hbounds
  refine ⟨z, List.mem_of_find?_eq_some hz, c.toNat - z, by omega, ?_⟩
  rw [Nat.add_sub_cancel' hbounds.1, Char.ofNat_toNat]

def isNumeralMark (c : Char) : Bool :=
  isNumeralBlank c || c == '-' || c == '+' || c == '\n'

theorem isNumeralMark_of_isDecimalDigit {c : Char} (h : isDecimalDigit c = true) :
    isNumeralMark c = false := by
  have hall : ∀ z ∈ digitZeros, ∀ i < 10, isNumeralMark (Char.ofNat (z + i)) = false := by
    decide +kernel
  obtain ⟨z, hz, i, hi, rfl⟩ := exists_zero_of_isDecimalDigit h
  exact hall z hz i hi

theorem isNumeralBlank_of_isDecimalDigit {c : Char} (h : isDecimalDigit c = true) :
    isNumeralBlank c = false := by
  have hm := isNumeralMark_of_isDecimalDigit h
  simp only [isNumeralMark, Bool.or_eq_false_iff] at hm
  exact hm.1.1.1

theorem ne_of_isDecimalDigit {c : Char} (h : isDecimalDigit c = true) :
    c ≠ '-' ∧ c ≠ '+' ∧ c ≠ '\n' := by
  have hm := isNumeralMark_of_isDecimalDigit h
  simp only [isNumeralMark, Bool.or_eq_false_iff, beq_eq_false_iff_ne] at hm
  exact ⟨hm.1.1.2, hm.1.2, hm.2⟩

/-- Digits are read up to what is neither a digit nor an underscore. -/
theorem spanDigits_append {ds rest : List Char} (h : ∀ c ∈ ds, isDecimalDigit c = true)
    (hrest : ∀ c ∈ rest.head?, isDecimalDigit c = false ∧ c ≠ '_') :
    spanDigits (ds ++ rest) = (ds, rest) := by
  have hfrom (seen : Bool) : spanDigitsFrom seen (ds ++ rest) = (ds, rest) := by
    induction ds generalizing seen with
    | nil =>
      cases rest with
      | nil => rfl
      | cons c cs =>
        obtain ⟨hdigit, hline⟩ := hrest c rfl
        simp [spanDigitsFrom, hdigit, hline]
    | cons c cs ih =>
      rw [List.cons_append, spanDigitsFrom, if_pos (h c List.mem_cons_self),
        ih (fun d hd => h d (List.mem_cons_of_mem c hd)) true]
  exact hfrom false

theorem spanDigits_eq {ds : List Char} (h : ∀ c ∈ ds, isDecimalDigit c = true) :
    spanDigits ds = (ds, []) := by
  have happend := @spanDigits_append ds [] h fun c hc => nomatch hc
  rwa [List.append_nil] at happend

theorem dropWhile_of_head? {p : Char → Bool} {cs : List Char}
    (h : ∀ c ∈ cs.head?, p c = false) : cs.dropWhile p = cs := by
  cases cs with
  | nil => rfl
  | cons c cs => exact List.dropWhile_cons_of_neg (by simp [h c rfl])

theorem trimNumeral_append {cs tail : List Char} (hne : cs ≠ [])
    (hhead : ∀ c ∈ cs.head?, isNumeralBlank c = false)
    (hlast : ∀ c ∈ cs.getLast?, isNumeralBlank c = false)
    (htail : ∀ c ∈ tail, isNumeralBlank c = true) : trimNumeral (cs ++ tail) = cs := by
  have hleft : (cs ++ tail).dropWhile isNumeralBlank = cs ++ tail := by
    apply dropWhile_of_head?
    rw [List.head?_append_of_ne_nil _ hne]
    exact hhead
  have hright : cs.reverse.dropWhile isNumeralBlank = cs.reverse := by
    apply dropWhile_of_head?
    rw [List.head?_reverse]
    exact hlast
  unfold trimNumeral
  rw [hleft, List.reverse_append,
    List.dropWhile_append_of_pos fun c hc => htail c (List.mem_reverse.mp hc), hright,
    List.reverse_reverse]

namespace Spelling

variable (p : Spelling)

def body : List Char := p.digits ++ p.ending

def chars : List Char := p.sign ++ p.body

def value : Int := signedInt (p.sign == ['-']) (digitsValue p.digits)

theorem head_isDecimalDigit {c : Char} (h : c ∈ p.digits.head?) : isDecimalDigit c = true :=
  p.decimal c (List.mem_of_mem_head? h)

theorem last_isDecimalDigit {c : Char} (h : c ∈ p.digits.getLast?) : isDecimalDigit c = true :=
  p.decimal c (List.mem_of_mem_getLast? h)

theorem spanSign_of_digit {c : Char} {cs : List Char} (h : isDecimalDigit c = true) :
    spanSign (c :: cs) = (false, c :: cs) := by
  obtain ⟨hminus, hplus, -⟩ := ne_of_isDecimalDigit h
  unfold spanSign
  split
  · next heq => exact absurd (List.cons.inj heq).1 hminus
  · next heq => exact absurd (List.cons.inj heq).1 hplus
  · rfl

theorem spanSign_sign_append {cs : List Char} (hne : cs ≠ [])
    (h : ∀ c ∈ cs.head?, isDecimalDigit c = true) :
    spanSign (p.sign ++ cs) = (p.sign == ['-'], cs) := by
  rcases p.signed with hs | hs | hs <;> rw [hs]
  · obtain ⟨c, cs, rfl⟩ := List.exists_cons_of_ne_nil hne
    exact spanSign_of_digit (h c rfl)
  · rfl
  · rfl

theorem spanSign_chars : spanSign p.chars = (p.sign == ['-'], p.body) := by
  refine p.spanSign_sign_append (by simp [body, p.nonempty]) ?_
  intro c hc
  rw [body, List.head?_append_of_ne_nil _ p.nonempty] at hc
  exact p.head_isDecimalDigit hc

theorem trimNumeral_chars : trimNumeral p.chars = p.sign ++ p.digits := by
  have hchars : p.chars = (p.sign ++ p.digits) ++ p.ending := (List.append_assoc _ _ _).symm
  rw [hchars]
  apply trimNumeral_append (by simp [p.nonempty])
  · intro c hc
    rcases p.signed with hs | hs | hs
    · rw [hs, List.nil_append] at hc
      exact isNumeralBlank_of_isDecimalDigit (p.head_isDecimalDigit hc)
    · rw [hs] at hc
      obtain rfl := Option.some.inj hc
      decide
    · rw [hs] at hc
      obtain rfl := Option.some.inj hc
      decide
  · intro c hc
    rw [List.getLast?_append_of_ne_nil _ p.nonempty] at hc
    exact isNumeralBlank_of_isDecimalDigit (p.last_isDecimalDigit hc)
  · intro c hc
    rcases p.ended with he | he
    · rw [he] at hc
      exact absurd hc List.not_mem_nil
    · rw [he, List.mem_singleton] at hc
      subst hc
      decide

/-- A spelled integer is read as what it denotes, unless it has too many digits. -/
theorem readInteger_chars : readInteger p.chars =
    if p.digits.length ≤ digitLimit then .ok p.value else .error (.tooLong p.digits.length) := by
  have hempty : p.digits.isEmpty = false := by simp [p.nonempty]
  unfold readInteger
  rw [p.trimNumeral_chars, p.spanSign_sign_append p.nonempty fun c hc => p.head_isDecimalDigit hc]
  dsimp only
  rw [spanDigits_eq p.decimal, hempty]
  rfl

end Spelling

def withoutLineBreak (cs : List Char) : List Char :=
  if cs.getLast? == some '\n' then cs.dropLast else cs

theorem Spelling.withoutLineBreak_body (p : Spelling) : withoutLineBreak p.body = p.digits := by
  unfold withoutLineBreak body
  rcases p.ended with he | he <;> rw [he]
  · rw [List.append_nil]
    have hlast : ¬(p.digits.getLast? == some '\n') = true := by
      rw [beq_iff_eq]
      intro h
      exact (ne_of_isDecimalDigit (p.last_isDecimalDigit h)).2.2 rfl
    rw [if_neg hlast]
  · rw [List.getLast?_concat, if_pos (beq_self_eq_true _), List.dropLast_concat]

theorem exists_ending (cs : List Char) :
    ∃ ending, (ending = [] ∨ ending = ['\n']) ∧ cs = withoutLineBreak cs ++ ending := by
  unfold withoutLineBreak
  by_cases h : (cs.getLast? == some '\n') = true
  · rw [if_pos h]
    exact ⟨['\n'], Or.inr rfl, (List.dropLast_append_getLast? '\n' (beq_iff_eq.mp h)).symm⟩
  · rw [if_neg h]
    exact ⟨[], Or.inl rfl, (List.append_nil cs).symm⟩

theorem exists_sign (cs : List Char) :
    ∃ sign, (sign = [] ∨ sign = ['+'] ∨ sign = ['-']) ∧ cs = sign ++ (spanSign cs).2 := by
  unfold spanSign
  split
  · exact ⟨['-'], Or.inr (Or.inr rfl), rfl⟩
  · exact ⟨['+'], Or.inr (Or.inl rfl), rfl⟩
  · exact ⟨[], Or.inl rfl, rfl⟩

/-- Sign and line break off, a spelled integer is nothing but digits. -/
theorem exists_spelling_iff {cs : List Char} :
    (∃ p : Spelling, cs = p.chars) ↔ withoutLineBreak (spanSign cs).2 ≠ [] ∧
      ∀ c ∈ withoutLineBreak (spanSign cs).2, isDecimalDigit c = true := by
  constructor
  · rintro ⟨p, rfl⟩
    rw [p.spanSign_chars, p.withoutLineBreak_body]
    exact ⟨p.nonempty, p.decimal⟩
  · rintro ⟨hne, hd⟩
    obtain ⟨sign, hs, hcs⟩ := exists_sign cs
    obtain ⟨ending, he, hbody⟩ := exists_ending (spanSign cs).2
    refine ⟨⟨sign, _, ending, hs, hd, hne, he⟩, hcs.trans ?_⟩
    show _ = sign ++ (_ ++ ending)
    rw [← hbody]

end GraphTemplate
