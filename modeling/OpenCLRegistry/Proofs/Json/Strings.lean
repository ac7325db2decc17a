import OpenCLRegistry.Json.Quotation
import OpenCLRegistry.Proofs.Json.Grammar

/-!
# Reading and skipping strings

A string is read back from each of its spellings. The skipper passes over every
text of the grammar, also over one that has no value. Both stop right after the
closing quote.
-/
namespace OpenCLRegistry.Json

theorem hexValue?_of_hexDigit {k : Nat} {c : Char} (h : HexDigit k c) : hexValue? c = some k := by
  have values : ∀ k < 16, hexValue? k.digitChar = some k ∧
      hexValue? k.digitChar.toUpper = some k := by decide
  obtain ⟨small, rfl | rfl⟩ := h
  · exact (values k small).1
  · exact (values k small).2

theorem readUnit_spelt {n : Nat} {u : List Char} (h : SpellsUnit n u) (s : List Char) :
    readUnit (u ++ s) = .ok (n, s) := by
  cases h with
  | digits hi hj hk hl =>
    simp [readUnit, unit?, hexValue?_of_hexDigit hi, hexValue?_of_hexDigit hj,
      hexValue?_of_hexDigit hk, hexValue?_of_hexDigit hl]

/-- A character is no surrogate. -/
theorem not_surrogate (c : Char) :
    isLowSurrogate c.toNat = false ∧ isHighSurrogate c.toNat = false := by
  have valid : c.toNat < 0xd800 ∨ 0xdfff < c.toNat ∧ c.toNat < 0x110000 := c.valid
  simp only [isLowSurrogate, isHighSurrogate, Bool.and_eq_false_iff, decide_eq_false_iff_not]
  omega

theorem toNat_lt (c : Char) : c.toNat < 0x110000 := by
  have valid : c.toNat < 0xd800 ∨ 0xdfff < c.toNat ∧ c.toNat < 0x110000 := c.valid
  omega

theorem readCodePoint_unit {c : Char} {u : List Char} (h : SpellsUnit c.toNat u) (s : List Char) :
    readCodePoint (u ++ s) = .ok (c, s) := by
  obtain ⟨low, high⟩ := not_surrogate c
  simp [readCodePoint, readUnit_spelt h, low, high]

theorem readCodePoint_pair {c : Char} {u v : List Char} (beyond : 0x10000 ≤ c.toNat)
    (hu : SpellsUnit (0xd800 + (c.toNat - 0x10000) / 0x400) u)
    (hv : SpellsUnit (0xdc00 + (c.toNat - 0x10000) % 0x400) v) (s : List Char) :
    readCodePoint (u ++ '\\' :: 'u' :: (v ++ s)) = .ok (c, s) := by
  have bound := toNat_lt c
  have notLow : isLowSurrogate (0xd800 + (c.toNat - 0x10000) / 0x400) = false := by
    simp only [isLowSurrogate, Bool.and_eq_false_iff, decide_eq_false_iff_not]
    omega
  have high : isHighSurrogate (0xd800 + (c.toNat - 0x10000) / 0x400) = true := by
    simp only [isHighSurrogate, Bool.and_eq_true, decide_eq_true_eq]
    omega
  have low : isLowSurrogate (0xdc00 + (c.toNat - 0x10000) % 0x400) = true := by
    simp only [isLowSurrogate, Bool.and_eq_true, decide_eq_true_eq]
    omega
  have value : 0x10000 + (0xd800 + (c.toNat - 0x10000) / 0x400 - 0xd800) * 0x400 +
      (0xdc00 + (c.toNat - 0x10000) % 0x400 - 0xdc00) = c.toNat := by omega
  simp only [readCodePoint, readUnit_spelt hu, notLow, high, readSecondEscape, readUnit_spelt hv,
    low, if_true, Bool.false_eq_true, if_false, value, Char.ofNat_toNat]

theorem escaped?_of_mem {e c : Char} (mem : (e, c) ∈ letterEscapes) :
    e ≠ 'u' ∧ escaped? e = some c := by
  simp only [letterEscapes, List.mem_cons, Prod.mk.injEq, List.not_mem_nil, or_false] at mem
  rcases mem with ⟨rfl, rfl⟩ | ⟨rfl, rfl⟩ | ⟨rfl, rfl⟩ | ⟨rfl, rfl⟩ | ⟨rfl, rfl⟩ |
    ⟨rfl, rfl⟩ | ⟨rfl, rfl⟩ | ⟨rfl, rfl⟩ <;> decide

theorem readString_escape {s r ds u : List Char} {c : Char} (escape : readEscape s = .ok (c, r))
    (tail : readString r = .ok (ds, u)) : readString ('\\' :: s) = .ok (c :: ds, u) := by
  rw [readString, if_neg (by decide), if_pos rfl, escape]
  dsimp only
  rw [tail]

theorem readString_char {c : Char} {t : List Char} (h : SpellsChar c t) {s ds r : List Char}
    (tail : readString s = .ok (ds, r)) : readString (t ++ s) = .ok (c :: ds, r) := by
  cases h with
  | plain printed quote backslash =>
    rw [List.singleton_append, readString, if_neg quote, if_neg backslash,
      if_neg (Char.not_lt.mpr printed), tail]
  | letter mem =>
    obtain ⟨notUnit, escaped⟩ := escaped?_of_mem mem
    exact readString_escape (by simp [readEscape, notUnit, escaped]) tail
  | unit hu => exact readString_escape (by simp [readEscape, readCodePoint_unit hu]) tail
  | pair beyond hu hv =>
    exact readString_escape (by simp [readEscape, readCodePoint_pair beyond hu hv]) tail

theorem readString_spelt {s t : List Char} (h : SpellsString s t) (r : List Char) :
    readString (t ++ r) = .ok (s, r) := by
  induction h with
  | close => simp [readString]
  | char hc _ ih =>
    rw [List.append_assoc]
    exact readString_char hc ih

theorem skipString_escape {s r : List Char} (escape : skipEscape s = .ok r) :
    skipString ('\\' :: s) = skipString r := by
  rw [skipString, if_neg (by decide), if_pos rfl, escape]

theorem skipEscape_unit {n : Nat} {u : List Char} (h : SpellsUnit n u) (s : List Char) :
    skipEscape ('u' :: (u ++ s)) = .ok s := by
  simp [skipEscape, readUnit_spelt h]

theorem skipString_text {t : List Char} (h : StringText t) (r : List Char) :
    skipString (t ++ r) = .ok r := by
  induction h with
  | close => simp [skipString]
  | plain printed quote backslash _ ih =>
    rw [List.cons_append, skipString, if_neg quote, if_neg backslash,
      if_neg (Char.not_lt.mpr printed), ih]
  | letter mem _ ih =>
    obtain ⟨notUnit, escaped⟩ := escaped?_of_mem mem
    exact (skipString_escape (by simp [skipEscape, notUnit, escaped])).trans ih
  | @unit n u t hu _ ih =>
    -- The skipper does not look at the number, so it cannot miss the other half of a pair.
    rw [List.cons_append, List.cons_append, List.append_assoc,
      skipString_escape (skipEscape_unit hu (t ++ r)), ih]

end OpenCLRegistry.Json
