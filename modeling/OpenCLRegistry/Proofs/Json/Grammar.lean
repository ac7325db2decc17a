import OpenCLRegistry.Proofs.Json.Spelling
import Mathlib.Data.List.Forall2

/-!
# The grammar of JSON texts

The texts of all values, also of those that the program never writes and that no
value of its own stands for: a number may have a point and an exponent, and an
escape in a string may be half of a surrogate pair. The parts of a text are those
of its spellings, and every spelling is a text of this grammar. Like them, the
grammar is stated without the reader.
-/
namespace OpenCLRegistry.Json

/-! ## Numbers -/

/-- One digit or more. -/
def Digits (s : List Char) : Prop := s ≠ [] ∧ ∀ c ∈ s, c.isDigit = true

/-- The digits before the point: a zero stands alone. -/
def WholeText (s : List Char) : Prop := Digits s ∧ (s.head? = some '0' → s = ['0'])

inductive FractionText : List Char → Prop
  | none : FractionText []
  | point {s : List Char} : Digits s → FractionText ('.' :: s)

inductive ExponentText : List Char → Prop
  | none : ExponentText []
  | mark {c : Char} {sign s : List Char} : c ∈ ['e', 'E'] → sign ∈ [[], ['+'], ['-']] →
      Digits s → ExponentText (c :: (sign ++ s))

inductive NumberText : List Char → Prop
  | parts {sign whole fraction exponent : List Char} : sign ∈ [[], ['-']] → WholeText whole →
      FractionText fraction → ExponentText exponent →
      NumberText (sign ++ (whole ++ (fraction ++ exponent)))

/-! ## Strings -/

/-- The texts of a string after its opening quote. -/
inductive StringText : List Char → Prop
  | close : StringText ['"']
  | plain {c : Char} {t : List Char} : ' ' ≤ c → c ≠ '"' → c ≠ '\\' → StringText t →
      StringText (c :: t)
  | letter {e c : Char} {t : List Char} : (e, c) ∈ letterEscapes → StringText t →
      StringText ('\\' :: e :: t)
  | unit {n : Nat} {u t : List Char} : SpellsUnit n u → StringText t →
      StringText ('\\' :: 'u' :: (u ++ t))

/-- A key with its quotes, and the colon after it. -/
inductive KeyText : List Char → Prop
  | colon {t b : List Char} : StringText t → Blank b → KeyText ('"' :: t ++ b ++ [':'])

/-! ## Values -/

/-- What a part of a text is: a value, or what follows an item of a list or a member of an
object up to and including the closing bracket. -/
inductive Part
  | value
  | items
  | members

inductive WellFormed : Part → List Char → Prop
  | null : WellFormed .value ['n', 'u', 'l', 'l']
  | yes : WellFormed .value ['t', 'r', 'u', 'e']
  | no : WellFormed .value ['f', 'a', 'l', 's', 'e']
  | number {t : List Char} : NumberText t → WellFormed .value t
  | string {t : List Char} : StringText t → WellFormed .value ('"' :: t)
  | emptyList {b : List Char} : Blank b → WellFormed .value ('[' :: b ++ [']'])
  | list {b t u : List Char} : Blank b → WellFormed .value t → WellFormed .items u →
      WellFormed .value ('[' :: b ++ t ++ u)
  | noItem {b : List Char} : Blank b → WellFormed .items (b ++ [']'])
  | item {b d t u : List Char} : Blank b → Blank d → WellFormed .value t →
      WellFormed .items u → WellFormed .items (b ++ ',' :: d ++ t ++ u)
  | emptyObject {b : List Char} : Blank b → WellFormed .value ('\x7b' :: b ++ ['\x7d'])
  | object {b k d t u : List Char} : Blank b → KeyText k → Blank d → WellFormed .value t →
      WellFormed .members u → WellFormed .value ('\x7b' :: b ++ k ++ d ++ t ++ u)
  | noMember {b : List Char} : Blank b → WellFormed .members (b ++ ['\x7d'])
  | member {b c k d t u : List Char} : Blank b → Blank c → KeyText k → Blank d →
      WellFormed .value t → WellFormed .members u →
      WellFormed .members (b ++ ',' :: c ++ k ++ d ++ t ++ u)

/-! ## Objects member by member -/

/-- What follows a member of an object: the other members, each with its key and the text of its
value. -/
inductive MembersText : List (String × List Char) → List Char → Prop
  | close {b : List Char} : Blank b → MembersText [] (b ++ ['\x7d'])
  | member {key : String} {rest : List (String × List Char)} {b c k d t u : List Char} :
      Blank b → Blank c → SpellsKey key k → Blank d → WellFormed .value t → MembersText rest u →
      MembersText ((key, t) :: rest) (b ++ ',' :: c ++ k ++ d ++ t ++ u)

inductive ObjectText : List (String × List Char) → List Char → Prop
  | empty {b : List Char} : Blank b → ObjectText [] ('\x7b' :: b ++ ['\x7d'])
  | members {key : String} {rest : List (String × List Char)} {b k d t u : List Char} :
      Blank b → SpellsKey key k → Blank d → WellFormed .value t → MembersText rest u →
      ObjectText ((key, t) :: rest) ('\x7b' :: b ++ k ++ d ++ t ++ u)

/-! ## Spellings are texts -/

theorem digits_toDigits (m : Nat) : Digits (Nat.toDigits 10 m) :=
  ⟨Nat.toDigits_ne_nil, fun _ mem => Nat.isDigit_of_mem_toDigits (by decide) (by decide) mem⟩

theorem Digits.eq_cons {s : List Char} (h : Digits s) :
    ∃ c rest, s = c :: rest ∧ c.isDigit = true := by
  obtain ⟨c, rest, rfl⟩ := List.exists_cons_of_ne_nil h.1
  exact ⟨c, rest, rfl, h.2 c List.mem_cons_self⟩

/-- No number but zero is written with a zero in front. -/
theorem head?_toDigits_ne {m : Nat} (pos : 0 < m) : (Nat.toDigits 10 m).head? ≠ some '0' := by
  induction m using Nat.strongRecOn with
  | ind m ih =>
    by_cases small : m < 10
    · have digits : ∀ k < 10, 0 < k → k.digitChar ≠ '0' := by decide
      rw [Nat.toDigits_of_lt_base small]
      simpa using digits m small pos
    · have front := ih (m / 10) (by omega) (by omega)
      obtain ⟨c, s, digits, -⟩ := (digits_toDigits (m / 10)).eq_cons
      rw [digits, List.head?_cons] at front
      rw [Nat.toDigits_of_base_le (by omega) (by omega), digits, List.cons_append, List.head?_cons]
      exact front

theorem wholeText_toDigits (m : Nat) : WholeText (Nat.toDigits 10 m) := by
  refine ⟨digits_toDigits m, fun front => ?_⟩
  rcases Nat.eq_zero_or_pos m with rfl | pos
  · exact Nat.toDigits_zero 10
  · exact absurd front (head?_toDigits_ne pos)

theorem numberText_intText (n : Int) : NumberText (intText n) := by
  have whole := wholeText_toDigits n.natAbs
  unfold intText
  split
  · simpa using @NumberText.parts ['-'] _ _ _ (by simp) whole .none .none
  · simpa using @NumberText.parts [] _ _ _ (by simp) whole .none .none

theorem SpellsChar.append {c : Char} {t u : List Char} (h : SpellsChar c t) (hu : StringText u) :
    StringText (t ++ u) := by
  cases h with
  | plain printed quote backslash => exact .plain printed quote backslash hu
  | letter mem => exact .letter mem hu
  | unit hn => exact .unit hn hu
  | pair _ hn hm =>
    simp only [List.cons_append, List.append_assoc]
    exact .unit hn (.unit hm hu)

theorem SpellsString.text {s t : List Char} (h : SpellsString s t) : StringText t := by
  induction h with
  | close => exact .close
  | char hc _ ih => exact hc.append ih

theorem SpellsKey.text {key : String} {k : List Char} (h : SpellsKey key k) : KeyText k := by
  cases h with
  | colon ht hb => exact .colon ht.text hb

/-- What a piece of a spelling is. -/
def Piece.part : Piece → Part
  | .value _ => .value
  | .items _ => .items
  | .members _ => .members

theorem Spells.wellFormed {p : Piece} {t : List Char} (h : Spells p t) : WellFormed p.part t := by
  induction h with
  | null => exact .null
  | yes => exact .yes
  | no => exact .no
  | int n => exact .number (numberText_intText n)
  | str ht => exact .string ht.text
  | emptyList hb => exact .emptyList hb
  | list hb _ _ value items => exact .list hb value items
  | noItem hb => exact .noItem hb
  | item hb hd _ _ value items => exact .item hb hd value items
  | emptyObject hb => exact .emptyObject hb
  | object hb hk hd _ _ value members => exact .object hb hk.text hd value members
  | noMember hb => exact .noMember hb
  | member hb hc hk hd _ _ value members => exact .member hb hc hk.text hd value members

/-- A member as it is written, and the member that it spells. -/
def SpellsMember (written : String × List Char) (member : String × Json) : Prop :=
  written.1 = member.1 ∧ Spells (.value member.2) written.2

theorem Spells.membersText {rest : List (String × Json)} {u : List Char}
    (h : Spells (.members rest) u) :
    ∃ written, MembersText written u ∧ List.Forall₂ SpellsMember written rest := by
  induction rest generalizing u with
  | nil =>
    cases h with
    | noMember hb => exact ⟨[], .close hb, .nil⟩
  | cons member rest ih =>
    cases h with
    | member hb hc hk hd ht hu =>
      obtain ⟨written, others, same⟩ := ih hu
      exact ⟨_, .member hb hc hk hd ht.wellFormed others, .cons ⟨rfl, ht⟩ same⟩

theorem Spells.objectText {members : List (String × Json)} {t : List Char}
    (h : Spells (.value (.obj members)) t) :
    ∃ written, ObjectText written t ∧ List.Forall₂ SpellsMember written members := by
  cases h with
  | emptyObject hb => exact ⟨[], .empty hb, .nil⟩
  | object hb hk hd ht hu =>
    obtain ⟨written, others, same⟩ := hu.membersText
    exact ⟨_, .members hb hk hd ht.wellFormed others, .cons ⟨rfl, ht⟩ same⟩

end OpenCLRegistry.Json
