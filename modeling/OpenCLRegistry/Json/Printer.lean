import OpenCLRegistry.Json.Tree
import OpenCLRegistry.NameMap

/-!
# Writing JSON

A layout says what stands at the places where blanks are allowed; the value
decides everything else. Two layouts are used: one without any blanks, and one
with a line for each item and member, indented by two spaces a level.
-/
namespace OpenCLRegistry.Json

/-- What stands between the tokens of a written value. -/
structure Layout where
  /-- Before an item, a member or a closing bracket, at a nesting depth. -/
  lineBreak : Nat → List Char
  /-- After a colon. -/
  afterColon : List Char

def Layout.compact : Layout := ⟨fun _ => [], []⟩

def Layout.indented : Layout := ⟨fun depth => '\n' :: List.replicate (2 * depth) ' ', [' ']⟩

/-- A character inside a string. Only quotes, backslashes and control characters are escaped. -/
def charText (c : Char) : List Char :=
  match c with
  | '"' => ['\\', '"']
  | '\\' => ['\\', '\\']
  | '\x08' => ['\\', 'b']
  | '\x0c' => ['\\', 'f']
  | '\n' => ['\\', 'n']
  | '\r' => ['\\', 'r']
  | '\t' => ['\\', 't']
  | c =>
    if c < ' ' then
      ['\\', 'u', '0', '0', Nat.digitChar (c.toNat / 16), Nat.digitChar (c.toNat % 16)]
    else [c]

def stringText (s : String) : List Char := '"' :: s.toList.flatMap charText ++ ['"']

def intText (n : Int) : List Char :=
  if n < 0 then '-' :: Nat.toDigits 10 n.natAbs else Nat.toDigits 10 n.natAbs

mutual

/-- The text of a value that stands at a nesting depth. -/
def render (l : Layout) (depth : Nat) : Json → List Char
  | .null => "null".toList
  | .bool true => "true".toList
  | .bool false => "false".toList
  | .int n => intText n
  | .str s => stringText s
  | .arr [] => ['[', ']']
  | .arr (item :: rest) =>
    '[' :: l.lineBreak (depth + 1) ++ render l (depth + 1) item ++ renderItems l depth rest
  | .obj [] => ['{', '}']
  | .obj ((key, value) :: rest) =>
    '{' :: l.lineBreak (depth + 1) ++ stringText key ++ ':' :: l.afterColon ++
      render l (depth + 1) value ++ renderMembers l depth rest

/-- The items after the first one, and the closing bracket. -/
def renderItems (l : Layout) (depth : Nat) : List Json → List Char
  | [] => l.lineBreak depth ++ [']']
  | item :: rest =>
    ',' :: l.lineBreak (depth + 1) ++ render l (depth + 1) item ++ renderItems l depth rest

/-- The members after the first one, and the closing bracket. -/
def renderMembers (l : Layout) (depth : Nat) : List (String × Json) → List Char
  | [] => l.lineBreak depth ++ ['}']
  | (key, value) :: rest =>
    ',' :: l.lineBreak (depth + 1) ++ stringText key ++ ':' :: l.afterColon ++
      render l (depth + 1) value ++ renderMembers l depth rest

end

def compact (j : Json) : String := String.ofList (j.render .compact 0)

def pretty (j : Json) : String := String.ofList (j.render .indented 0)

mutual

/-- The value with the keys of every object in ascending order. -/
def ascendingKeys : Json → Json
  | .arr items => .arr (ascendingKeysItems items)
  | .obj members => .obj (NameMap.ofPairs (ascendingKeysMembers members)).entries
  | j => j

def ascendingKeysItems : List Json → List Json
  | [] => []
  | item :: rest => ascendingKeys item :: ascendingKeysItems rest

def ascendingKeysMembers : List (String × Json) → List (String × Json)
  | [] => []
  | (key, value) :: rest => (key, ascendingKeys value) :: ascendingKeysMembers rest

end

end OpenCLRegistry.Json
