import OpenCLRegistry.Json.Skip
import OpenCLRegistry.Proofs.Json.Numbers

/-!
# Skipping values

The text of a value is skipped whole, however deep it is nested and whatever
brackets are open around it: the skipper goes on where the value ends. What
follows an item of a list is skipped together with its closing bracket, which
takes the innermost open bracket away. One induction over the text shows both.
-/
namespace OpenCLRegistry.Json

/-! ## Steps of the skipper -/

theorem skipKey_text {b k : List Char} (hb : Blank b) (h : KeyText k) (s : List Char) :
    skipKey (b ++ (k ++ s)) = .ok s := by
  cases h with
  | colon ht hd =>
    simp only [List.cons_append, List.append_assoc, List.nil_append]
    rw [skipKey, skipSpace_token hb rfl]
    simp only [if_true, skipString_text ht, readColon_token hd]

section
variable {b : List Char} (hb : Blank b) (around : List Bracket)
include hb

theorem skipValue_scalar {c : Char} {s r : List Char} (blank : isSpace c = false)
    (list : c ≠ '[') (object : c ≠ '\x7b') (scalar : skipScalar (c :: s) = .ok r) :
    skipValue around (b ++ c :: s) = skipOnward around r := by
  rw [skipValue, skipSpace_token hb blank]
  dsimp only
  rw [if_neg list, if_neg object, scalar]

theorem skipValue_emptyList {d : List Char} (hd : Blank d) (s : List Char) :
    skipValue around (b ++ '[' :: (d ++ ']' :: s)) = skipOnward around s := by
  rw [skipValue, skipSpace_token hb rfl]
  dsimp only
  rw [if_pos rfl, skipSpace_token hd rfl]
  exact if_pos rfl

theorem skipValue_list {d : List Char} (hd : Blank d) {c : Char} (h : Token c) (s : List Char) :
    skipValue around (b ++ '[' :: (d ++ c :: s)) = skipValue (.list :: around) (c :: s) := by
  obtain ⟨blank, close, -⟩ := h
  rw [skipValue, skipSpace_token hb rfl]
  dsimp only
  rw [if_pos rfl, skipSpace_token hd blank]
  exact if_neg close

theorem skipValue_emptyObject {d : List Char} (hd : Blank d) (s : List Char) :
    skipValue around (b ++ '\x7b' :: (d ++ '\x7d' :: s)) = skipOnward around s := by
  rw [skipValue, skipSpace_token hb rfl]
  dsimp only
  rw [if_neg (by decide), if_pos rfl, skipSpace_token hd rfl]
  exact if_pos rfl

theorem skipValue_object {d : List Char} (hd : Blank d) {k : List Char} (h : KeyText k)
    (s : List Char) :
    skipValue around (b ++ '\x7b' :: (d ++ (k ++ s))) = skipValue (.object :: around) s := by
  have skipped := skipKey_text blank_nil h s
  obtain ⟨k', rfl⟩ : ∃ k', k = '"' :: k' := by cases h; exact ⟨_, rfl⟩
  rw [skipValue, skipSpace_token hb rfl]
  dsimp only
  rw [if_neg (by decide), if_pos rfl, List.cons_append, skipSpace_token hd rfl]
  dsimp only
  rw [if_neg (by decide)]
  rw [List.nil_append, List.cons_append] at skipped
  rw [skipped]

theorem skipOnward_item (s : List Char) :
    skipOnward (.list :: around) (b ++ ',' :: s) = skipValue (.list :: around) s := by
  rw [skipOnward, skipSpace_token hb rfl]
  exact if_pos rfl

theorem skipOnward_closeList (s : List Char) :
    skipOnward (.list :: around) (b ++ ']' :: s) = skipOnward around s := by
  rw [skipOnward, skipSpace_token hb rfl]
  dsimp only
  rw [if_neg (by decide), if_pos rfl]

theorem skipOnward_member {c : List Char} (hc : Blank c) {k : List Char} (h : KeyText k)
    (s : List Char) :
    skipOnward (.object :: around) (b ++ ',' :: (c ++ (k ++ s))) =
      skipValue (.object :: around) s := by
  rw [skipOnward, skipSpace_token hb rfl]
  dsimp only
  rw [if_pos rfl, skipKey_text hc h]

theorem skipOnward_closeObject (s : List Char) :
    skipOnward (.object :: around) (b ++ '\x7d' :: s) = skipOnward around s := by
  rw [skipOnward, skipSpace_token hb rfl]
  dsimp only
  rw [if_neg (by decide), if_pos rfl]

end

/-! ## Whole values -/

theorem readLetters_append (letters r : List Char) :
    readLetters letters (letters ++ r) = .ok r := by
  induction letters with
  | nil => rfl
  | cons c letters ih =>
    rw [List.cons_append, readLetters, if_pos rfl]
    exact ih

theorem skipScalar_number {t r : List Char} (h : NumberText t) (ends : Ends r) :
    skipScalar (t ++ r) = .ok r := by
  have skipped := skipNumeral_text h ends
  obtain ⟨c, s, rfl, opens⟩ := h.opens
  rw [List.cons_append] at skipped ⊢
  have first : (c == '-' || c.isDigit) = true := by simpa using opens
  have ne {d : Char} := ne_of_opensNumber opens (d := d)
  rw [skipScalar, if_neg (ne (by decide) rfl), if_neg (ne (by decide) rfl),
    if_neg (ne (by decide) rfl), if_neg (ne (by decide) rfl)]
  exact (if_pos first).trans skipped

/-- Skipping a part of a text takes the skipper past it. -/
def Part.Skipped : Part → List Char → Prop
  | .value, t => ∀ around b r, Blank b → Ends r →
    skipValue around (b ++ (t ++ r)) = skipOnward around r
  | .items, t => ∀ around r, skipOnward (.list :: around) (t ++ r) = skipOnward around r
  | .members, t => ∀ around r, skipOnward (.object :: around) (t ++ r) = skipOnward around r

theorem WellFormed.skipped {p : Part} {t : List Char} (h : WellFormed p t) : p.Skipped t := by
  -- The bracket that a value opens goes onto the stack; the part after its first item,
  -- which is smaller, takes it off again.
  induction h with
  | null =>
    intro around b r hb _
    exact skipValue_scalar hb around rfl (by decide) (by decide)
      (readLetters_append ['u', 'l', 'l'] r)
  | yes =>
    intro around b r hb _
    exact skipValue_scalar hb around rfl (by decide) (by decide)
      (readLetters_append ['r', 'u', 'e'] r)
  | no =>
    intro around b r hb _
    exact skipValue_scalar hb around rfl (by decide) (by decide)
      (readLetters_append ['a', 'l', 's', 'e'] r)
  | number ht =>
    intro around b r hb ends
    have scalar := skipScalar_number ht ends
    obtain ⟨c, s, rfl, opens⟩ := ht.opens
    rw [List.cons_append] at scalar ⊢
    exact skipValue_scalar hb around (token_of_opensNumber opens).1
      (ne_of_opensNumber opens (by decide) rfl) (ne_of_opensNumber opens (by decide) rfl) scalar
  | string ht =>
    intro around b r hb _
    exact skipValue_scalar hb around rfl (by decide) (by decide) (skipString_text ht r)
  | emptyList hd =>
    intro around b r hb _
    simp only [List.cons_append, List.append_assoc, List.nil_append]
    exact skipValue_emptyList hb around hd r
  | @list d t u hd ht hu value onward =>
    intro around b r hb _
    obtain ⟨c, s, rfl, token⟩ := ht.opens
    simp only [List.cons_append, List.append_assoc]
    rw [skipValue_list hb around hd token]
    exact (value (.list :: around) [] (u ++ r) blank_nil (hu.ends nofun r)).trans (onward around r)
  | noItem hb =>
    intro around r
    rw [List.append_assoc]
    exact skipOnward_closeList hb around r
  | @item b d t u hb hd ht hu value onward =>
    intro around r
    simp only [List.cons_append, List.append_assoc]
    rw [skipOnward_item hb]
    exact (value (.list :: around) d (u ++ r) hd (hu.ends nofun r)).trans (onward around r)
  | emptyObject hd =>
    intro around b r hb _
    simp only [List.cons_append, List.append_assoc, List.nil_append]
    exact skipValue_emptyObject hb around hd r
  | @object d k c t u hd hk hc ht hu value onward =>
    intro around b r hb _
    simp only [List.cons_append, List.append_assoc]
    rw [skipValue_object hb around hd hk]
    exact (value (.object :: around) c (u ++ r) hc (hu.ends nofun r)).trans (onward around r)
  | noMember hb =>
    intro around r
    rw [List.append_assoc]
    exact skipOnward_closeObject hb around r
  | @member b c k d t u hb hc hk hd ht hu value onward =>
    intro around r
    simp only [List.cons_append, List.append_assoc]
    rw [skipOnward_member hb around hc hk]
    exact (value (.object :: around) d (u ++ r) hd (hu.ends nofun r)).trans (onward around r)

theorem skipValue_text {b t r : List Char} (h : WellFormed .value t) (hb : Blank b)
    (ends : Ends r) : skipValue [] (b ++ (t ++ r)) = .ok r := by
  rw [h.skipped [] b r hb ends, skipOnward]

end OpenCLRegistry.Json
