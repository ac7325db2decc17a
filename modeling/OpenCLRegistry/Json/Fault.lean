import OpenCLRegistry.Decimal.Shortest
import OpenCLRegistry.Text.Quoted

/-!
# Faults in a JSON text

Why a text was refused, and where. A fault keeps the text that was left when it
was noticed, so no reader has to count; the place is worked out at the end, in
bytes, when the fault is put into words. The text that is left begins where
reading stopped. A fault about the byte that was looked at next lies one byte
further on, unless the text has ended.
-/
namespace OpenCLRegistry.Json

/-- What stands where a value of some type was wanted. -/
inductive Found
  | null
  | bool (value : Bool)
  | integer (value : Int)
  | decimal (value : Float)
  | string (value : String)
  | list
  | object

/-- The type of value that was wanted. -/
inductive Wanted
  | word
  | flag
  | string
  | list
  | record (name : String)

inductive Cause
  | endInValue
  | endInList
  | endInObject
  | endInString
  | trailingCharacters
  | trailingComma
  | noListSeparator
  | noObjectSeparator
  | noColon
  | noValue
  | misspeltLiteral
  | keyNotString
  | controlCharacter
  | invalidEscape
  | loneSurrogate
  | unfinishedSurrogate
  | invalidNumber
  | numberOutOfRange
  | wrongType (found : Found) (wanted : Wanted)
  | integerOutOfRange (value : Int)
  | tooFewItems (count : Nat) (record : String) (fields : Nat)
  | duplicateField (key : String)
  | missingField (key : String)

structure Fault where
  cause : Cause
  /-- The text left when the fault was noticed. -/
  rest : List Char
  /-- How many bytes of it are counted as read. -/
  ahead : Nat

namespace Found

def describe : Found → String
  | .null => "null"
  | .bool true => "boolean `true`"
  | .bool false => "boolean `false`"
  | .integer value => "integer `" ++ toString value ++ "`"
  | .decimal value => "floating point `" ++ Decimal.shortestText value ++ "`"
  | .string value => "string " ++ Text.quoted value
  | .list => "sequence"
  | .object => "map"

end Found

namespace Wanted

def describe : Wanted → String
  | .word => "u32"
  | .flag => "a boolean"
  | .string => "a string"
  | .list => "a sequence"
  | .record name => "struct " ++ name

end Wanted

namespace Cause

def message : Cause → String
  | .endInValue => "EOF while parsing a value"
  | .endInList => "EOF while parsing a list"
  | .endInObject => "EOF while parsing an object"
  | .endInString => "EOF while parsing a string"
  | .trailingCharacters => "trailing characters"
  | .trailingComma => "trailing comma"
  | .noListSeparator => "expected `,` or `]`"
  | .noObjectSeparator => "expected `,` or `\x7d`"
  | .noColon => "expected `:`"
  | .noValue => "expected value"
  | .misspeltLiteral => "expected ident"
  | .keyNotString => "key must be a string"
  | .controlCharacter => "control character (\\u0000-\\u001F) found while parsing a string"
  | .invalidEscape => "invalid escape"
  | .loneSurrogate => "lone leading surrogate in hex escape"
  | .unfinishedSurrogate => "unexpected end of hex escape"
  | .invalidNumber => "invalid number"
  | .numberOutOfRange => "number out of range"
  | .wrongType found wanted =>
    "invalid type: " ++ found.describe ++ ", expected " ++ wanted.describe
  | .integerOutOfRange value =>
    "invalid value: " ++ (Found.integer value).describe ++ ", expected " ++ Wanted.word.describe
  | .tooFewItems count record fields =>
    "invalid length " ++ toString count ++ ", expected " ++ (Wanted.record record).describe ++
      " with " ++ toString fields ++ (if fields = 1 then " element" else " elements")
  | .duplicateField key => "duplicate field `" ++ key ++ "`"
  | .missingField key => "missing field `" ++ key ++ "`"

end Cause

/-- The length of a text in bytes. -/
def byteLength : List Char → Nat
  | [] => 0
  | c :: rest => c.utf8Size + byteLength rest

/-- The line, and the bytes on it, after some bytes of a text. The count starts
from a line and a column, and it may end inside a character. -/
def positionFrom (line column : Nat) : List Char → Nat → Nat × Nat
  | [], _ => (line, column)
  | c :: rest, bytes =>
    if bytes < c.utf8Size then (line, column + bytes)
    else if c = '\n' then positionFrom (line + 1) 0 rest (bytes - c.utf8Size)
    else positionFrom line (column + c.utf8Size) rest (bytes - c.utf8Size)

namespace Fault

/-- A fault of what has been read. -/
def here (cause : Cause) (rest : List Char) : Fault := ⟨cause, rest, 0⟩

/-- A fault of the byte that comes next. -/
def next (cause : Cause) (rest : List Char) : Fault := ⟨cause, rest, 1⟩

/-- How many bytes of the text lie before the fault's place. -/
def offset (text : List Char) (f : Fault) : Nat :=
  min (byteLength text) (byteLength text - byteLength f.rest + f.ahead)

def message (text : List Char) (f : Fault) : String :=
  let (line, column) := positionFrom 1 0 text (f.offset text)
  f.cause.message ++ " at line " ++ toString line ++ " column " ++ toString column

end Fault

/-- The outcome of reading at the start of a text: what was read and what is left. -/
abbrev Reading (α : Type) := Except Fault (α × List Char)

end OpenCLRegistry.Json
