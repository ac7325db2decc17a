import OpenCLRegistry.Json.Numeral
import OpenCLRegistry.Proofs.Json.Tokens

/-!
# Scanning numbers

The scanner takes the whole text of a number and nothing of what follows, provided
that what follows can end a value. Each part of the number is read up to the next
one, so for each it is said what must not come after it.
-/
namespace OpenCLRegistry.Json

theorem Ends.head_eq {c : Char} {s : List Char} (h : Ends (c :: s)) :
    c = ' ' ∨ c = '\n' ∨ c = '\t' ∨ c = '\r' ∨ c = ',' ∨ c = ']' ∨ c = '\x7d' := by
  rcases h c rfl with space | close
  · simp only [isSpace, Bool.or_eq_true, beq_iff_eq] at space
    tauto
  · tauto

theorem Ends.not_numeral {c : Char} {s : List Char} (h : Ends (c :: s)) :
    c.isDigit = false ∧ c ≠ '.' ∧ isExponentMark c = false := by
  rcases h.head_eq with rfl | rfl | rfl | rfl | rfl | rfl | rfl <;> decide

/-- The text does not begin with a digit. -/
def NoDigit (s : List Char) : Prop := ∀ c ∈ s.head?, c.isDigit = false

theorem noDigit_cons {c : Char} (h : c.isDigit = false) (s : List Char) : NoDigit (c :: s) := by
  intro d mem
  cases mem
  exact h

theorem Ends.noDigit {s : List Char} (h : Ends s) : NoDigit s := by
  cases s with
  | nil => exact fun _ mem => nomatch mem
  | cons c s => exact noDigit_cons h.not_numeral.1 s

theorem Ends.noPoint {s : List Char} (h : Ends s) : s.head? ≠ some '.' := by
  cases s with
  | nil => simp
  | cons c s => simpa using h.not_numeral.2.1

/-! ## Digits -/

theorem takeWhile_isDigit {s : List Char} (h : NoDigit s) : s.takeWhile Char.isDigit = [] := by
  cases s with
  | nil => rfl
  | cons c s => rw [List.takeWhile_cons_of_neg (by simp [h c rfl])]

theorem dropWhile_isDigit {s : List Char} (h : NoDigit s) : s.dropWhile Char.isDigit = s := by
  cases s with
  | nil => rfl
  | cons c s => rw [List.dropWhile_cons_of_neg (by simp [h c rfl])]

theorem readDigits_append (atEnd : Cause) {s r : List Char} (hs : Digits s) (hr : NoDigit r) :
    readDigits atEnd (s ++ r) = .ok (s, r) := by
  have taken : digitsOf (s ++ r) = s := by
    rw [digitsOf, List.takeWhile_append_of_pos hs.2, takeWhile_isDigit hr, List.append_nil]
  have left : afterDigits (s ++ r) = r := by
    rw [afterDigits, List.dropWhile_append_of_pos hs.2, dropWhile_isDigit hr]
  rw [readDigits, taken, left, if_neg hs.1]

theorem readWhole_append (atEnd : Cause) {s r : List Char} (hs : WholeText s) (hr : NoDigit r) :
    readWhole atEnd (s ++ r) = .ok (s, r) := by
  have noZero : ¬ (s.head? = some '0' ∧ s ≠ ['0']) := fun ⟨front, more⟩ => more (hs.2 front)
  simp only [readWhole, readDigits_append atEnd hs.1 hr, if_neg noZero]

/-! ## Point and exponent -/

theorem readFraction_of_noPoint (atEnd : Cause) {r : List Char} (h : r.head? ≠ some '.') :
    readFraction atEnd r = .ok ([], r) := if_neg h

theorem readFraction_text (atEnd : Cause) {t r : List Char} (h : FractionText t) (hr : NoDigit r)
    (noPoint : r.head? ≠ some '.') : ∃ ds, readFraction atEnd (t ++ r) = .ok (ds, r) := by
  cases h with
  | none => exact ⟨[], readFraction_of_noPoint atEnd noPoint⟩
  | @point s hs =>
    refine ⟨s, ?_⟩
    rw [List.cons_append, readFraction, List.head?_cons, if_pos rfl]
    exact readDigits_append atEnd hs hr

theorem readExponent_of_ends (atEnd : Cause) {r : List Char} (h : Ends r) :
    readExponent atEnd r = .ok (none, r) := by
  cases r with
  | nil => rfl
  | cons c r => simp [readExponent, h.not_numeral.2.2]

theorem readExponent_text (atEnd : Cause) {t r : List Char} (h : ExponentText t) (hr : Ends r) :
    ∃ x, readExponent atEnd (t ++ r) = .ok (x, r) := by
  cases h with
  | none => exact ⟨none, readExponent_of_ends atEnd hr⟩
  | @mark c sign s mark signed hs =>
    have isMark : isExponentMark c = true := by
      simpa [isExponentMark, List.mem_cons] using mark
    have digits := readDigits_append atEnd hs hr.noDigit
    obtain ⟨d, rest, rfl, digit⟩ := hs.eq_cons
    rw [List.cons_append] at digits
    have noMinus : d ≠ '-' := ne_of_isDigit digit rfl
    have noPlus : d ≠ '+' := ne_of_isDigit digit rfl
    simp only [List.mem_cons, List.not_mem_nil, or_false] at signed
    rcases signed with rfl | rfl | rfl
    · refine ⟨some (false, d :: rest), ?_⟩
      simp [readExponent, isMark, noMinus, noPlus, digits]
    · refine ⟨some (false, d :: rest), ?_⟩
      simp [readExponent, isMark, digits]
    · refine ⟨some (true, d :: rest), ?_⟩
      simp [readExponent, isMark, digits]

theorem ExponentText.begins {t r : List Char} (h : ExponentText t) (hr : Ends r) :
    NoDigit (t ++ r) ∧ (t ++ r).head? ≠ some '.' := by
  cases h with
  | none => exact ⟨hr.noDigit, hr.noPoint⟩
  | @mark c sign s mark signed hs =>
    have letter : c.isDigit = false ∧ c ≠ '.' := by
      simp only [List.mem_cons, List.not_mem_nil, or_false] at mark
      rcases mark with rfl | rfl <;> decide
    exact ⟨noDigit_cons letter.1 _, by simpa using letter.2⟩

theorem FractionText.begins {t r : List Char} (h : FractionText t) (hr : NoDigit r) :
    NoDigit (t ++ r) := by
  cases h with
  | none => exact hr
  | point => exact noDigit_cons rfl _

/-! ## Whole numbers of the grammar -/

theorem scanNumeral_text (atEnd : Cause) {t r : List Char} (h : NumberText t) (hr : Ends r) :
    ∃ n, scanNumeral atEnd (t ++ r) = .ok (n, r) := by
  cases h with
  | @parts sign whole fraction exponent signed hw hf he =>
    obtain ⟨noDigit, noPoint⟩ := he.begins hr
    obtain ⟨ds, fraction'⟩ := readFraction_text atEnd hf noDigit noPoint
    obtain ⟨x, exponent'⟩ := readExponent_text atEnd he hr
    have whole' := readWhole_append atEnd hw (hf.begins noDigit)
    obtain ⟨c, rest, rfl, digit⟩ := hw.1.eq_cons
    rw [List.cons_append] at whole'
    have noMinus : c ≠ '-' := ne_of_isDigit digit rfl
    simp only [List.mem_cons, List.not_mem_nil, or_false] at signed
    rcases signed with rfl | rfl
    · refine ⟨⟨false, c :: rest, ds, x⟩, ?_⟩
      simp [scanNumeral, noMinus, whole', fraction', exponent']
    · refine ⟨⟨true, c :: rest, ds, x⟩, ?_⟩
      simp [scanNumeral, whole', fraction', exponent']

theorem skipNumeral_text {t r : List Char} (h : NumberText t) (hr : Ends r) :
    skipNumeral (t ++ r) = .ok r := by
  obtain ⟨n, scanned⟩ := scanNumeral_text .invalidNumber h hr
  rw [skipNumeral, scanned]

end OpenCLRegistry.Json
