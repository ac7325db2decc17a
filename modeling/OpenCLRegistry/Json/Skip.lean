import OpenCLRegistry.Json.Numeral
import OpenCLRegistry.Json.Quotation

/-!
# Skipped values

The value of a key that nobody asked for is read past. It may be nested to any
depth: the brackets that are open are kept in a list, and each step shortens the
text. Between items and members only the separators themselves are checked, so
what is missing after a comma is noticed where a value or key should begin.
-/
namespace OpenCLRegistry.Json

inductive Bracket
  | list
  | object

/-- Skips a value that is no list and no object. -/
def skipScalar (s : List Char) : Except Fault (List Char) :=
  match s with
  | [] => .error (.next .endInValue [])
  | c :: rest =>
    if c = 'n' then readLetters ['u', 'l', 'l'] rest
    else if c = 't' then readLetters ['r', 'u', 'e'] rest
    else if c = 'f' then readLetters ['a', 'l', 's', 'e'] rest
    else if c = '"' then skipString rest
    else if c = '-' || c.isDigit then skipNumeral (c :: rest)
    else .error (.next .noValue (c :: rest))

theorem length_of_skipScalar {s r : List Char} (h : skipScalar s = .ok r) :
    r.length < s.length := by
  have letters := @length_of_readLetters
  have string := @length_of_skipString
  have numeral := @length_of_skipNumeral
  unfold skipScalar at h
  grind

/-- Skips a key and its colon. -/
def skipKey (s : List Char) : Except Fault (List Char) :=
  match skipSpace s with
  | [] => .error (.next .endInObject [])
  | c :: rest =>
    if c = '"' then
      match skipString rest with
      | .error f => .error f
      | .ok r => readColon r
    else .error (.next .keyNotString (c :: rest))

theorem length_of_skipKey {s r : List Char} (h : skipKey s = .ok r) : r.length < s.length := by
  have skip := length_skipSpace
  have string := @length_of_skipString
  have colon := @length_of_readColon
  unfold skipKey at h
  grind

mutual

/-- Skips a value, and then the rest of all lists and objects around it. -/
def skipValue (around : List Bracket) (s : List Char) : Except Fault (List Char) :=
  match _ : skipSpace s with
  | [] => .error (.next .endInValue [])
  | c :: rest =>
    if c = '[' then
      match _ : skipSpace rest with
      | [] => .error (.next .endInList [])
      | d :: r => if d = ']' then skipOnward around r else skipValue (.list :: around) (d :: r)
    else if c = '\x7b' then
      match _ : skipSpace rest with
      | [] => .error (.next .endInObject [])
      | d :: r =>
        if d = '\x7d' then skipOnward around r
        else
          match _ : skipKey (d :: r) with
          | .error f => .error f
          | .ok r => skipValue (.object :: around) r
    else
      match _ : skipScalar (c :: rest) with
      | .error f => .error f
      | .ok r => skipOnward around r
termination_by s.length
decreasing_by all_goals grind [length_skipSpace, → length_of_skipKey, → length_of_skipScalar]

/-- Goes on after a value inside the brackets that are open. -/
def skipOnward (around : List Bracket) (s : List Char) : Except Fault (List Char) :=
  match around with
  | [] => .ok s
  | .list :: outer =>
    match _ : skipSpace s with
    | [] => .error (.next .endInList [])
    | c :: rest =>
      if c = ',' then skipValue (.list :: outer) rest
      else if c = ']' then skipOnward outer rest
      else .error (.next .noListSeparator (c :: rest))
  | .object :: outer =>
    match _ : skipSpace s with
    | [] => .error (.next .endInObject [])
    | c :: rest =>
      if c = ',' then
        match _ : skipKey rest with
        | .error f => .error f
        | .ok r => skipValue (.object :: outer) r
      else if c = '\x7d' then skipOnward outer rest
      else .error (.next .noObjectSeparator (c :: rest))
termination_by s.length
decreasing_by all_goals grind [length_skipSpace, → length_of_skipKey]

end

/-- Skipping a value shortens the text, and going on after one does not lengthen it. -/
theorem length_of_skip (n : Nat) : ∀ s : List Char, s.length ≤ n →
    (∀ around r, skipValue around s = .ok r → r.length < s.length) ∧
      ∀ around r, skipOnward around s = .ok r → r.length ≤ s.length := by
  induction n with
  | zero =>
    intro s short
    have nil : s = [] := List.eq_nil_of_length_eq_zero (Nat.le_zero.1 short)
    subst nil
    refine ⟨fun around r h => ?_, fun around r h => ?_⟩
    · simp [skipValue, skipSpace] at h
    · rcases around with _ | ⟨_ | _, _⟩ <;> simp [skipOnward, skipSpace] at h
      exact h ▸ Nat.le_refl _
  | succ n ih =>
    intro s short
    refine ⟨fun around r h => ?_, fun around r h => ?_⟩
    · rw [skipValue] at h
      grind [length_skipSpace, → length_of_skipKey, → length_of_skipScalar]
    · rw [skipOnward.eq_def] at h
      grind [length_skipSpace, → length_of_skipKey]

theorem length_of_skipValue {s r : List Char} (h : skipValue [] s = .ok r) :
    r.length < s.length :=
  (length_of_skip s.length s (Nat.le_refl _)).1 [] r h

end OpenCLRegistry.Json
