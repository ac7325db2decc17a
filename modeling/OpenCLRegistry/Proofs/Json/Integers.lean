import OpenCLRegistry.Proofs.Json.Numbers
import Mathlib.Tactic.SplitIfs

/-!
# Reading spelt integers

The scanner takes an integer's text as a number without point and exponent, and
nothing of what follows, provided that what follows can end a value. An integer
that is read from the text is the one that was written; one that fits in a word
is always read. What becomes of larger ones, which may turn into floats or be
out of range, is not needed and not said.
-/
namespace OpenCLRegistry.Json

theorem intText_of_neg {n : Int} (h : n < 0) : intText n = '-' :: Nat.toDigits 10 n.natAbs :=
  if_pos h

theorem intText_of_nonneg {n : Int} (h : 0 ≤ n) : intText n = Nat.toDigits 10 n.natAbs :=
  if_neg (Int.not_lt.mpr h)

/-- Only a negative integer is written with a sign. -/
theorem head?_intText (n : Int) (r : List Char) :
    ((intText n ++ r).head? == some '-') = decide (n < 0) := by
  by_cases negative : n < 0
  · simp [intText_of_neg negative, negative]
  · obtain ⟨c, s, digits, digit⟩ := (digits_toDigits n.natAbs).eq_cons
    rw [intText_of_nonneg (Int.not_lt.mp negative), digits, List.cons_append, List.head?_cons]
    have noSign : c ≠ '-' := ne_of_isDigit digit rfl
    simp [negative, noSign]

theorem scanNumeral_intText (atEnd : Cause) (n : Int) {r : List Char} (h : Ends r) :
    scanNumeral atEnd (intText n ++ r) =
      .ok (⟨decide (n < 0), Nat.toDigits 10 n.natAbs, [], none⟩, r) := by
  have digits : (if decide (n < 0) = true then (intText n ++ r).drop 1 else intText n ++ r) =
      Nat.toDigits 10 n.natAbs ++ r := by
    by_cases negative : n < 0
    · simp [negative, intText_of_neg negative]
    · simp [negative, intText_of_nonneg (Int.not_lt.mp negative)]
  have whole := readWhole_append atEnd (wholeText_toDigits n.natAbs) h.noDigit
  simp only [scanNumeral, head?_intText, digits, whole,
    readFraction_of_noPoint atEnd h.noPoint, readExponent_of_ends atEnd h]

/-! ## Values -/

theorem le_ofDigitChars (n : Nat) (ds : List Char) : n ≤ Nat.ofDigitChars 10 ds n := by
  induction ds generalizing n with
  | nil => simp
  | cons d ds ih =>
    rw [Nat.ofDigitChars_cons]
    have step := ih (10 * n + (d.toNat - '0'.toNat))
    omega

theorem takeDigits_of_lt {bound n : Nat} {ds : List Char}
    (h : Nat.ofDigitChars 10 ds n < bound) :
    takeDigits bound n ds = (Nat.ofDigitChars 10 ds n, []) := by
  induction ds generalizing n with
  | nil => simp [takeDigits]
  | cons d ds ih =>
    rw [Nat.ofDigitChars_cons, Nat.mul_comm 10 n] at h
    have fits : n * 10 + digitValue d < bound := Nat.lt_of_le_of_lt (le_ofDigitChars _ ds) h
    rw [takeDigits, if_pos fits, Nat.ofDigitChars_cons, Nat.mul_comm 10 n]
    exact ih h

theorem takeDigits_fst_of_snd_nil {bound n : Nat} {ds : List Char}
    (h : (takeDigits bound n ds).2 = []) :
    (takeDigits bound n ds).1 = Nat.ofDigitChars 10 ds n := by
  induction ds generalizing n with
  | nil => simp [takeDigits]
  | cons d ds ih =>
    by_cases fits : n * 10 + digitValue d < bound
    · rw [takeDigits, if_pos fits] at h ⊢
      rw [Nat.ofDigitChars_cons, Nat.mul_comm 10 n]
      exact ih h
    · rw [takeDigits, if_neg fits] at h
      cases h

namespace NumeralText

theorem word?_toDigits {m : Nat} (fits : m < UInt64.size) (negative : Bool) :
    word? ⟨negative, Nat.toDigits 10 m, [], none⟩ = some m := by
  have value : Nat.ofDigitChars 10 (Nat.toDigits 10 m) 0 = m := Nat.ofDigitChars_ten_toDigits
  rw [word?, takeDigits_of_lt (by rwa [value]), value]
  rfl

theorem eq_of_word? {m k : Nat} {negative : Bool}
    (h : word? ⟨negative, Nat.toDigits 10 m, [], none⟩ = some k) : k = m := by
  simp only [word?] at h
  split_ifs at h with whole
  have value := takeDigits_fst_of_snd_nil whole.1
  rw [Nat.ofDigitChars_ten_toDigits] at value
  exact (Option.some.inj h).symm.trans value

theorem eq_of_ofWord {n k : Int} (h : ofWord (decide (n < 0)) n.natAbs = .integer k) : k = n := by
  unfold ofWord at h
  split_ifs at h with positive large
  · injection h with same
    simp only [Bool.not_eq_true', decide_eq_false_iff_not] at positive
    omega
  · injection h with same
    simp only [Bool.not_eq_true', decide_eq_false_iff_not] at positive
    omega

/-- A number whose digits do not make a word is no integer any more. -/
theorem value_ne_integer {t : NumeralText} (h : t.word? = none) (r : List Char) (k : Int) :
    t.value r ≠ .ok (.integer k) := by
  simp only [value, h]
  split_ifs <;> first | simp; done | (split <;> simp)

end NumeralText

/-- An integer read from the text of an integer is that integer. -/
theorem eq_of_readNumeral {n k : Int} {r s : List Char} (h : Ends r)
    (read : readNumeral (intText n ++ r) = .ok (.integer k, s)) : k = n ∧ s = r := by
  simp only [readNumeral, scanNumeral_intText .endInValue n h] at read
  split at read
  · rename_i value
    cases read
    refine ⟨?_, rfl⟩
    -- Digits beyond a word make a float or a fault, but never some other integer.
    cases word : NumeralText.word? ⟨decide (n < 0), Nat.toDigits 10 n.natAbs, [], none⟩ with
    | none => exact absurd value (NumeralText.value_ne_integer word r k)
    | some m =>
      rw [NumeralText.value, word, NumeralText.eq_of_word? word] at value
      exact NumeralText.eq_of_ofWord (Except.ok.inj value)
  · cases read

theorem readNumeral_word {n : Int} {r : List Char} (h : Ends r) (nonneg : 0 ≤ n)
    (fits : n < UInt64.size) : readNumeral (intText n ++ r) = .ok (.integer n, r) := by
  have word := NumeralText.word?_toDigits (m := n.natAbs) (by omega) (decide (n < 0))
  have positive : decide (n < 0) = false := by simpa using nonneg
  rw [positive] at word
  simp only [readNumeral, scanNumeral_intText .endInValue n h, positive, NumeralText.value, word,
    NumeralText.ofWord, Bool.not_false, if_true]
  rw [Int.natAbs_of_nonneg nonneg]

end OpenCLRegistry.Json
