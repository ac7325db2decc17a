import OpenCLRegistry.Json.Bracket
import OpenCLRegistry.Proofs.Json.Strings
import Mathlib.Tactic.Tauto

/-!
# Blanks, keys and separators

The steps of the reader that lie between two values of a spelt text. The first
character of a value tells which kind of value it is, and no value begins with a
blank or a closing bracket, so each step is decided by the character after the
blanks.
-/
namespace OpenCLRegistry.Json

/-! ## Blanks -/

theorem skipSpace_append {b : List Char} (hb : Blank b) (s : List Char) :
    skipSpace (b ++ s) = skipSpace s :=
  List.dropWhile_append_of_pos hb

theorem skipSpace_cons {c : Char} (h : isSpace c = false) (s : List Char) :
    skipSpace (c :: s) = c :: s :=
  List.dropWhile_cons_of_neg (by simp [h])

theorem skipSpace_token {b : List Char} (hb : Blank b) {c : Char} (h : isSpace c = false)
    (s : List Char) : skipSpace (b ++ c :: s) = c :: s := by
  rw [skipSpace_append hb, skipSpace_cons h]

theorem skipSpace_blank {b : List Char} (hb : Blank b) : skipSpace b = [] := by
  have skipped := skipSpace_append hb []
  rwa [List.append_nil] at skipped

/-- What may follow a value: nothing of it could belong to a number. -/
def Ends (s : List Char) : Prop :=
  ∀ c ∈ s.head?, isSpace c = true ∨ c = ',' ∨ c = ']' ∨ c = '\x7d'

theorem ends_nil : Ends [] := fun _ mem => nomatch mem

theorem ends_cons {c : Char} (s : List Char)
    (h : isSpace c = true ∨ c = ',' ∨ c = ']' ∨ c = '\x7d') : Ends (c :: s) := by
  intro d mem
  cases mem
  exact h

/-- Blanks do not keep a text from ending a value. -/
theorem Ends.blank_append {b s : List Char} (hb : Blank b) (hs : Ends s) : Ends (b ++ s) := by
  cases b with
  | nil => exact hs
  | cons c b => exact ends_cons _ (.inl (hb c List.mem_cons_self))

/-! ## Where a value begins -/

/-- The characters with which the texts of a value begin. -/
def Opens : Json → Char → Prop
  | .null, c => c = 'n'
  | .bool true, c => c = 't'
  | .bool false, c => c = 'f'
  | .int _, c => c = '-' ∨ c.isDigit = true
  | .str _, c => c = '"'
  | .arr _, c => c = '['
  | .obj _, c => c = '\x7b'

/-- A number begins with its sign or with a digit. -/
theorem NumberText.opens {t : List Char} (h : NumberText t) :
    ∃ c s, t = c :: s ∧ (c = '-' ∨ c.isDigit = true) := by
  cases h with
  | parts signed whole _ _ =>
    obtain ⟨c, s, rfl, digit⟩ := whole.1.eq_cons
    simp only [List.mem_cons, List.not_mem_nil, or_false] at signed
    rcases signed with rfl | rfl
    · exact ⟨c, _, rfl, .inr digit⟩
    · exact ⟨'-', _, rfl, .inl rfl⟩

theorem Spells.opens {j : Json} {t : List Char} (h : Spells (.value j) t) :
    ∃ c s, t = c :: s ∧ Opens j c := by
  cases h with
  | int n => exact (numberText_intText n).opens
  | _ => exact ⟨_, _, rfl, rfl⟩

theorem Opens.eq_or_isDigit {j : Json} {c : Char} (h : Opens j c) :
    c = 'n' ∨ c = 't' ∨ c = 'f' ∨ c = '-' ∨ c.isDigit = true ∨ c = '"' ∨ c = '[' ∨ c = '\x7b' := by
  unfold Opens at h
  split at h <;> tauto

/-- A digit is none of the other characters. -/
theorem ne_of_isDigit {c d : Char} (digit : c.isDigit = true) (other : d.isDigit = false) :
    c ≠ d := by
  intro same
  subst same
  rw [digit] at other
  cases other

/-- A number begins with a sign or a digit, and so with none of the other characters. -/
theorem ne_of_opensNumber {c d : Char} (h : c = '-' ∨ c.isDigit = true) (sign : '-' ≠ d)
    (other : d.isDigit = false) : c ≠ d := by
  rcases h with rfl | digit
  · exact sign
  · exact ne_of_isDigit digit other

theorem isSpace_of_isDigit {c : Char} (digit : c.isDigit = true) : isSpace c = false := by
  simp only [isSpace, Bool.or_eq_false_iff, beq_eq_false_iff_ne]
  exact ⟨⟨⟨ne_of_isDigit digit rfl, ne_of_isDigit digit rfl⟩, ne_of_isDigit digit rfl⟩,
    ne_of_isDigit digit rfl⟩

/-- The character is no blank and no closing bracket, as at the beginning of every value. -/
def Token (c : Char) : Prop := isSpace c = false ∧ c ≠ ']' ∧ c ≠ '\x7d'

instance (c : Char) : Decidable (Token c) :=
  inferInstanceAs (Decidable (isSpace c = false ∧ c ≠ ']' ∧ c ≠ '\x7d'))

theorem token_of_opensNumber {c : Char} (h : c = '-' ∨ c.isDigit = true) : Token c := by
  rcases h with rfl | digit
  · decide
  · exact ⟨isSpace_of_isDigit digit, ne_of_isDigit digit rfl, ne_of_isDigit digit rfl⟩

theorem Opens.token {j : Json} {c : Char} (h : Opens j c) : Token c := by
  rcases h.eq_or_isDigit with rfl | rfl | rfl | rfl | digit | rfl | rfl | rfl
  case inr.inr.inr.inr.inl => exact token_of_opensNumber (.inr digit)
  all_goals decide

theorem WellFormed.opens {t : List Char} (h : WellFormed .value t) :
    ∃ c s, t = c :: s ∧ Token c := by
  cases h with
  | number ht =>
    obtain ⟨c, s, rfl, opens⟩ := ht.opens
    exact ⟨c, s, rfl, token_of_opensNumber opens⟩
  | _ => exact ⟨_, _, rfl, by decide⟩

/-! ## After a value -/

theorem WellFormed.ends {p : Part} {u : List Char} (h : WellFormed p u)
    (within : p ≠ .value) (r : List Char) : Ends (u ++ r) := by
  cases h with
  | noItem hb | item hb | noMember hb | member hb =>
    simp only [List.append_assoc]
    exact .blank_append hb (ends_cons _ (by simp))
  | _ => exact absurd rfl within

theorem Spells.ends_items {rest : List Json} {u : List Char} (h : Spells (.items rest) u)
    (r : List Char) : Ends (u ++ r) :=
  h.wellFormed.ends nofun r

theorem MembersText.ends {rest : List (String × List Char)} {u : List Char}
    (h : MembersText rest u) (r : List Char) : Ends (u ++ r) := by
  cases h with
  | close hb | member hb =>
    simp only [List.append_assoc]
    exact .blank_append hb (ends_cons _ (by simp))

/-! ## Steps -/

theorem readColon_token {b : List Char} (hb : Blank b) (s : List Char) :
    readColon (b ++ ':' :: s) = .ok s := by
  rw [readColon, skipSpace_token hb rfl]
  exact if_pos rfl

/-- The item after an opening bracket. -/
theorem nextItem_first {b : List Char} (hb : Blank b) {j : Json} {c : Char} (h : Opens j c)
    (s : List Char) : nextItem true (b ++ c :: s) = .ok (.another (c :: s)) := by
  obtain ⟨blank, close, -⟩ := h.token
  rw [nextItem, skipSpace_token hb blank]
  simp only [if_neg close, if_true]

/-- The item after a comma. -/
theorem nextItem_later {b d : List Char} (hb : Blank b) (hd : Blank d) {j : Json} {c : Char}
    (h : Opens j c) (s : List Char) :
    nextItem false (b ++ ',' :: (d ++ c :: s)) = .ok (.another (c :: s)) := by
  obtain ⟨blank, close, -⟩ := h.token
  rw [nextItem, skipSpace_token hb rfl]
  simp [skipSpace_token hd blank, close]

theorem nextItem_close {b : List Char} (hb : Blank b) (first : Bool) (s : List Char) :
    nextItem first (b ++ ']' :: s) = .ok (.closed s) := by
  rw [nextItem, skipSpace_token hb rfl]
  exact if_pos rfl

theorem closeList_close {b : List Char} (hb : Blank b) (s : List Char) :
    closeList (b ++ ']' :: s) = .ok s := by
  rw [closeList, skipSpace_token hb rfl]
  exact if_pos rfl

/-- A list that goes on is not closed. -/
theorem closeList_refuses {b : List Char} (hb : Blank b) {c : Char} (blank : isSpace c = false)
    (close : c ≠ ']') (s : List Char) : (closeList (b ++ c :: s)).toOption = none := by
  rw [closeList, skipSpace_token hb blank]
  dsimp only
  rw [if_neg close]
  split
  · rfl
  · split <;> rfl

theorem nextKey_first {b : List Char} (hb : Blank b) (s : List Char) :
    nextKey true (b ++ '"' :: s) = .ok (.another s) := by
  rw [nextKey, skipSpace_token hb rfl]
  rfl

theorem nextKey_later {b c : List Char} (hb : Blank b) (hc : Blank c) (s : List Char) :
    nextKey false (b ++ ',' :: (c ++ '"' :: s)) = .ok (.another s) := by
  rw [nextKey, skipSpace_token hb rfl]
  simp [skipSpace_token hc (c := '"') rfl]

theorem nextKey_close {b : List Char} (hb : Blank b) (first : Bool) (s : List Char) :
    nextKey first (b ++ '\x7d' :: s) = .ok (.closed s) := by
  rw [nextKey, skipSpace_token hb rfl]
  exact if_pos rfl

end OpenCLRegistry.Json
