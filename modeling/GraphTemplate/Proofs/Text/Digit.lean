import GraphTemplate.Moment
import GraphTemplate.Proofs.Numeral
import Mathlib.Tactic.Ring

/-! Runs of ASCII digits and the numbers they denote. A run is fixed by its length and its number,
so that a number padded to a width is the one run of that width. -/
namespace GraphTemplate

theorem isAsciiDigit_iff {c : Char} : isAsciiDigit c = true ↔ 48 ≤ c.toNat ∧ c.toNat ≤ 57 := by
  unfold isAsciiDigit
  rw [Bool.and_eq_true, decide_eq_true_eq, decide_eq_true_eq]
  exact and_congr UInt32.le_iff_toNat_le UInt32.le_iff_toNat_le

theorem digitValue?_of_isAsciiDigit {c : Char} (h : isAsciiDigit c = true) :
    digitValue? c = some (c.toNat - 48) := by
  obtain ⟨hlow, hhigh⟩ := isAsciiDigit_iff.mp h
  have hzero : (decide (48 ≤ c.toNat) && decide (c.toNat < 48 + 10)) = true := by
    simp only [Bool.and_eq_true, decide_eq_true_eq]
    omega
  have hfind : digitZeros.find? (fun z => z ≤ c.toNat && c.toNat < z + 10) = some 48 :=
    List.find?_cons_of_pos hzero
  rw [digitValue?, hfind]
  rfl

theorem isDecimalDigit_of_isAsciiDigit {c : Char} (h : isAsciiDigit c = true) :
    isDecimalDigit c = true := by
  rw [isDecimalDigit, digitValue?_of_isAsciiDigit h]
  rfl

/-- Of the digits of all scripts those below 128 are the ASCII digits. -/
theorem isAsciiDigit_of_isDecimalDigit {c : Char} (h : isDecimalDigit c = true)
    (hc : c.toNat < 128) : isAsciiDigit c = true := by
  have hall : ∀ z ∈ digitZeros, ∀ i < 10, (Char.ofNat (z + i)).toNat < 128 →
      isAsciiDigit (Char.ofNat (z + i)) = true := by decide +kernel
  obtain ⟨z, hz, i, hi, rfl⟩ := exists_zero_of_isDecimalDigit h
  exact hall z hz i hi hc

def AsciiDigits (ds : List Char) : Prop := ∀ c ∈ ds, isAsciiDigit c = true

variable {ds es : List Char}

theorem AsciiDigits.append (h : AsciiDigits ds) (k : AsciiDigits es) : AsciiDigits (ds ++ es) :=
  List.forall_mem_append.mpr ⟨h, k⟩

theorem AsciiDigits.take (h : AsciiDigits ds) (n : Nat) : AsciiDigits (ds.take n) :=
  fun c hc => h c (List.mem_of_mem_take hc)

theorem AsciiDigits.drop (h : AsciiDigits ds) (n : Nat) : AsciiDigits (ds.drop n) :=
  fun c hc => h c (List.mem_of_mem_drop hc)

theorem AsciiDigits.decimal (h : AsciiDigits ds) : ∀ c ∈ ds, isDecimalDigit c = true :=
  fun c hc => isDecimalDigit_of_isAsciiDigit (h c hc)

theorem asciiDigits_replicate (n : Nat) : AsciiDigits (List.replicate n '0') := by
  intro c hc
  rw [List.eq_of_mem_replicate hc]
  rfl

theorem asciiDigits_toDigits (n : Nat) : AsciiDigits (Nat.toDigits 10 n) := by
  intro c hc
  have hd := Nat.isDigit_of_mem_toDigits (by decide) (by decide) hc
  exact isAsciiDigit_iff.mpr (Char.isDigit_iff_toNat.mp hd)

theorem foldl_digits (n : Nat) (ds : List Char) :
    ds.foldl (fun n c => 10 * n + (digitValue? c).getD 0) n =
      n * 10 ^ ds.length + digitsValue ds := by
  unfold digitsValue
  induction ds generalizing n with
  | nil => simp
  | cons c ds ih =>
    rw [List.foldl_cons, List.foldl_cons, ih, ih (10 * 0 + _), List.length_cons, Nat.pow_succ]
    ring

theorem digitsValue_append (ds es : List Char) :
    digitsValue (ds ++ es) = digitsValue ds * 10 ^ es.length + digitsValue es := by
  rw [digitsValue, List.foldl_append, foldl_digits]
  rfl

theorem digitsValue_cons (c : Char) (ds : List Char) :
    digitsValue (c :: ds) = (digitValue? c).getD 0 * 10 ^ ds.length + digitsValue ds := by
  rw [digitsValue, List.foldl_cons, foldl_digits]
  simp

theorem digitsValue_lt (ds : List Char) : digitsValue ds < 10 ^ ds.length := by
  induction ds with
  | nil => decide
  | cons c ds ih =>
    have hc : (digitValue? c).getD 0 + 1 ≤ 10 := by
      cases hv : digitValue? c with
      | none => decide
      | some v => exact digitValue?_lt hv
    rw [digitsValue_cons, List.length_cons]
    calc _ < ((digitValue? c).getD 0 + 1) * 10 ^ ds.length := by rw [Nat.succ_mul]; omega
      _ ≤ 10 * 10 ^ ds.length := Nat.mul_le_mul_right _ hc
      _ = 10 ^ (ds.length + 1) := (Nat.pow_succ').symm

theorem digitsValue_replicate (n : Nat) : digitsValue (List.replicate n '0') = 0 := by
  induction n with
  | zero => rfl
  | succ n ih =>
    rw [List.replicate_succ, digitsValue_cons, ih, digitValue?_of_isAsciiDigit (by rfl)]
    simp

theorem AsciiDigits.ofDigitChars (h : AsciiDigits ds) :
    Nat.ofDigitChars 10 ds 0 = digitsValue ds := by
  induction ds with
  | nil => rfl
  | cons c ds ih =>
    have htail : AsciiDigits ds := fun d hd => h d (List.mem_cons_of_mem c hd)
    rw [Nat.ofDigitChars_cons, Nat.ofDigitChars_eq_ofDigitChars_zero, ih htail, digitsValue_cons,
      digitValue?_of_isAsciiDigit (h c List.mem_cons_self)]
    simp only [Nat.mul_zero, Nat.zero_add, Option.getD_some]
    exact congrArg (· + _) (Nat.mul_comm _ _)

theorem digitsValue_toDigits (n : Nat) : digitsValue (Nat.toDigits 10 n) = n := by
  rw [← (asciiDigits_toDigits n).ofDigitChars]
  exact Nat.ofDigitChars_ten_toDigits

theorem leading_mul_add_div {n r p : Nat} (h : r < p) : (n * p + r) / p = n := by
  rw [Nat.mul_comm, Nat.mul_add_div (Nat.zero_lt_of_lt h), Nat.div_eq_of_lt h, Nat.add_zero]

/-- Runs of one length that denote one number are the same. -/
theorem AsciiDigits.ext (h : AsciiDigits ds) (k : AsciiDigits es) (hl : ds.length = es.length)
    (hv : digitsValue ds = digitsValue es) : ds = es := by
  induction ds generalizing es with
  | nil => exact (List.eq_nil_of_length_eq_zero hl.symm).symm
  | cons c ds ih =>
    obtain ⟨e, es, rfl⟩ := List.exists_cons_of_length_eq_add_one hl.symm
    obtain ⟨hc, hds⟩ := List.forall_mem_cons.mp h
    obtain ⟨he, hes⟩ := List.forall_mem_cons.mp k
    have hlen : ds.length = es.length := Nat.succ.inj hl
    have hlow := isAsciiDigit_iff.mp hc
    have hlow' := isAsciiDigit_iff.mp he
    rw [digitsValue_cons, digitsValue_cons, digitValue?_of_isAsciiDigit hc,
      digitValue?_of_isAsciiDigit he, hlen] at hv
    -- the leading digit is the quotient by the power of the others
    have hlead : c.toNat - 48 = e.toNat - 48 := by
      have hdiv := congrArg (· / 10 ^ es.length) hv
      rwa [leading_mul_add_div (hlen ▸ digitsValue_lt ds), leading_mul_add_div (digitsValue_lt es)]
        at hdiv
    have hce : c = e := Char.toNat_inj.mp (by omega)
    rw [hlead] at hv
    rw [hce, ih hds hes hlen (Nat.add_left_cancel hv)]

section

open Moment (padded)

variable {width n : Nat}

theorem asciiDigits_padded (width n : Nat) : AsciiDigits (padded width n) :=
  (asciiDigits_replicate _).append (asciiDigits_toDigits n)

theorem digitsValue_padded (width n : Nat) : digitsValue (padded width n) = n := by
  rw [padded, digitsValue_append, digitsValue_replicate, digitsValue_toDigits, Nat.zero_mul,
    Nat.zero_add]

theorem length_padded (hw : 0 < width) (h : n < 10 ^ width) : (padded width n).length = width := by
  have hlen := (Nat.length_toDigits_le_iff (by decide) hw).mpr h
  rw [padded, List.length_append, List.length_replicate]
  omega

theorem AsciiDigits.padded_eq (h : AsciiDigits ds) (hne : ds ≠ []) :
    padded ds.length (digitsValue ds) = ds :=
  (asciiDigits_padded _ _).ext h
    (length_padded (List.length_pos_of_ne_nil hne) (digitsValue_lt ds)) (digitsValue_padded _ _)

end

end GraphTemplate
