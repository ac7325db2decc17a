import OpenCLRegistry.Json.Printer
import OpenCLRegistry.Json.Space

/-!
# Spellings

The texts that stand for a value. Blanks may stand before every token, and each
character of a string may be written as itself or by any of its escapes; an
integer has one spelling. A list or an object is spelt from its brackets inward:
what follows one of its items is again a part with spellings of its own.

The grammar is stated without the reader. The printer's layouts are spellings as
long as they put only blanks between the tokens.
-/
namespace OpenCLRegistry.Json

/-- Nothing but blanks. -/
def Blank (s : List Char) : Prop := ∀ c ∈ s, isSpace c = true

/-- A hexadecimal digit in lower or upper case. -/
def HexDigit (k : Nat) (c : Char) : Prop :=
  k < 16 ∧ (c = k.digitChar ∨ c = k.digitChar.toUpper)

/-- Four hexadecimal digits. -/
inductive SpellsUnit : Nat → List Char → Prop
  | digits {i j k l : Nat} {a b c d : Char} :
      HexDigit i a → HexDigit j b → HexDigit k c → HexDigit l d →
      SpellsUnit (((i * 16 + j) * 16 + k) * 16 + l) [a, b, c, d]

/-- The escapes by a single letter, and what they stand for. -/
def letterEscapes : List (Char × Char) :=
  [('"', '"'), ('\\', '\\'), ('/', '/'), ('b', '\x08'), ('f', '\x0c'), ('n', '\n'),
    ('r', '\r'), ('t', '\t')]

/-- The texts of a character in a string. Beyond the basic plane an escape takes two units. -/
inductive SpellsChar : Char → List Char → Prop
  | plain {c : Char} : ' ' ≤ c → c ≠ '"' → c ≠ '\\' → SpellsChar c [c]
  | letter {e c : Char} : (e, c) ∈ letterEscapes → SpellsChar c ['\\', e]
  | unit {c : Char} {u : List Char} :
      SpellsUnit c.toNat u → SpellsChar c ('\\' :: 'u' :: u)
  | pair {c : Char} {u v : List Char} : 0x10000 ≤ c.toNat →
      SpellsUnit (0xd800 + (c.toNat - 0x10000) / 0x400) u →
      SpellsUnit (0xdc00 + (c.toNat - 0x10000) % 0x400) v →
      SpellsChar c ('\\' :: 'u' :: u ++ '\\' :: 'u' :: v)

/-- The texts of a string after its opening quote. -/
inductive SpellsString : List Char → List Char → Prop
  | close : SpellsString [] ['"']
  | char {c : Char} {s t u : List Char} :
      SpellsChar c t → SpellsString s u → SpellsString (c :: s) (t ++ u)

/-- A key with its quotes, and the colon after it. -/
inductive SpellsKey : String → List Char → Prop
  | colon {key : String} {t b : List Char} :
      SpellsString key.toList t → Blank b → SpellsKey key ('"' :: t ++ b ++ [':'])

/-- A part of a text: a value, or what follows an item of a list or a member of an
object up to and including the closing bracket. -/
inductive Piece
  | value (j : Json)
  | items (rest : List Json)
  | members (rest : List (String × Json))

inductive Spells : Piece → List Char → Prop
  | null : Spells (.value .null) ['n', 'u', 'l', 'l']
  | yes : Spells (.value (.bool true)) ['t', 'r', 'u', 'e']
  | no : Spells (.value (.bool false)) ['f', 'a', 'l', 's', 'e']
  | int (n : Int) : Spells (.value (.int n)) (intText n)
  | str {s : String} {t : List Char} :
      SpellsString s.toList t → Spells (.value (.str s)) ('"' :: t)
  | emptyList {b : List Char} : Blank b → Spells (.value (.arr [])) ('[' :: b ++ [']'])
  | list {item : Json} {rest : List Json} {b t u : List Char} : Blank b →
      Spells (.value item) t → Spells (.items rest) u →
      Spells (.value (.arr (item :: rest))) ('[' :: b ++ t ++ u)
  | noItem {b : List Char} : Blank b → Spells (.items []) (b ++ [']'])
  | item {item : Json} {rest : List Json} {b d t u : List Char} : Blank b → Blank d →
      Spells (.value item) t → Spells (.items rest) u →
      Spells (.items (item :: rest)) (b ++ ',' :: d ++ t ++ u)
  | emptyObject {b : List Char} :
      Blank b → Spells (.value (.obj [])) ('\x7b' :: b ++ ['\x7d'])
  | object {key : String} {j : Json} {rest : List (String × Json)} {b k d t u : List Char} :
      Blank b → SpellsKey key k → Blank d → Spells (.value j) t → Spells (.members rest) u →
      Spells (.value (.obj ((key, j) :: rest))) ('\x7b' :: b ++ k ++ d ++ t ++ u)
  | noMember {b : List Char} : Blank b → Spells (.members []) (b ++ ['\x7d'])
  | member {key : String} {j : Json} {rest : List (String × Json)} {b c k d t u : List Char} :
      Blank b → Blank c → SpellsKey key k → Blank d → Spells (.value j) t →
      Spells (.members rest) u →
      Spells (.members ((key, j) :: rest)) (b ++ ',' :: c ++ k ++ d ++ t ++ u)

/-- The texts of a value by itself, with blanks at both ends. -/
inductive SpellsDocument : Json → List Char → Prop
  | ends {j : Json} {b t d : List Char} :
      Blank b → Spells (.value j) t → Blank d → SpellsDocument j (b ++ t ++ d)

theorem blank_nil : Blank [] := fun _ mem => nomatch mem

/-! ## What the printer writes -/

theorem hexDigit_digitChar {k : Nat} (small : k < 16) : HexDigit k k.digitChar :=
  ⟨small, .inl rfl⟩

theorem toNat_lt_of_lt_space {c : Char} (control : c < ' ') : c.toNat < 32 := control

theorem spellsUnit_control {c : Char} (control : c < ' ') :
    SpellsUnit c.toNat ['0', '0', (c.toNat / 16).digitChar, (c.toNat % 16).digitChar] := by
  have small := toNat_lt_of_lt_space control
  have value : ((0 * 16 + 0) * 16 + c.toNat / 16) * 16 + c.toNat % 16 = c.toNat := by omega
  have zero : HexDigit 0 '0' := hexDigit_digitChar (by omega)
  have high := hexDigit_digitChar (k := c.toNat / 16) (by omega)
  have low := hexDigit_digitChar (k := c.toNat % 16) (by omega)
  have spelt := SpellsUnit.digits zero zero high low
  rwa [value] at spelt

theorem spellsChar_charText (c : Char) : SpellsChar c (charText c) := by
  unfold charText
  split
  any_goals exact .letter (by decide)
  rename_i quote backslash _ _ _ _ _
  split
  · rename_i control
    exact .unit (spellsUnit_control control)
  · rename_i printed
    exact .plain (Char.not_lt.mp printed) quote backslash

theorem spellsString_flatMap (s : List Char) :
    SpellsString s (s.flatMap charText ++ ['"']) := by
  induction s with
  | nil => exact .close
  | cons c s ih =>
    rw [List.flatMap_cons, List.append_assoc]
    exact .char (spellsChar_charText c) ih

theorem spellsKey_stringText (key : String) : SpellsKey key (stringText key ++ [':']) := by
  have spelt := SpellsKey.colon (spellsString_flatMap key.toList) blank_nil
  rwa [List.append_nil] at spelt

/-- The layout puts nothing but blanks between tokens. -/
structure Layout.IsBlank (l : Layout) : Prop where
  lineBreak (depth : Nat) : Blank (l.lineBreak depth)
  afterColon : Blank l.afterColon

theorem Layout.isBlank_compact : Layout.compact.IsBlank :=
  ⟨fun _ => blank_nil, blank_nil⟩

theorem Layout.isBlank_indented : Layout.indented.IsBlank := by
  refine ⟨fun depth c mem => ?_, fun c mem => ?_⟩
  · rcases List.mem_cons.mp mem with rfl | mem
    · rfl
    · rw [List.eq_of_mem_replicate mem]
      rfl
  · rw [List.mem_singleton.mp mem]
    rfl

mutual

theorem spells_render {l : Layout} (h : l.IsBlank) (depth : Nat) :
    ∀ j : Json, Spells (.value j) (j.render l depth)
  | .null => .null
  | .bool true => .yes
  | .bool false => .no
  | .int n => .int n
  | .str s => .str (spellsString_flatMap s.toList)
  | .arr [] => .emptyList blank_nil
  | .arr (item :: rest) =>
    .list (h.lineBreak _) (spells_render h _ item) (spells_renderItems h depth rest)
  | .obj [] => .emptyObject blank_nil
  | .obj ((key, j) :: rest) => by
    have spelt := Spells.object (h.lineBreak (depth + 1)) (spellsKey_stringText key) h.afterColon
      (spells_render h (depth + 1) j) (spells_renderMembers h depth rest)
    simp only [render, List.append_assoc, List.cons_append, List.nil_append] at spelt ⊢
    exact spelt

theorem spells_renderItems {l : Layout} (h : l.IsBlank) (depth : Nat) :
    ∀ rest : List Json, Spells (.items rest) (renderItems l depth rest)
  | [] => .noItem (h.lineBreak _)
  | item :: rest =>
    .item blank_nil (h.lineBreak _) (spells_render h _ item) (spells_renderItems h depth rest)

theorem spells_renderMembers {l : Layout} (h : l.IsBlank) (depth : Nat) :
    ∀ rest : List (String × Json), Spells (.members rest) (renderMembers l depth rest)
  | [] => .noMember (h.lineBreak _)
  | (key, j) :: rest => by
    have spelt := Spells.member blank_nil (h.lineBreak (depth + 1)) (spellsKey_stringText key)
      h.afterColon (spells_render h (depth + 1) j) (spells_renderMembers h depth rest)
    simp only [renderMembers, List.append_assoc, List.cons_append, List.nil_append] at spelt ⊢
    exact spelt

end

theorem spellsDocument_pretty (j : Json) : SpellsDocument j j.pretty.toList := by
  have spelt := SpellsDocument.ends blank_nil (spells_render Layout.isBlank_indented 0 j) blank_nil
  simpa [pretty] using spelt

end OpenCLRegistry.Json
