import OpenCLRegistry.Json.Bracket
import OpenCLRegistry.Json.Skip

/-!
# Typed readers

A reader takes a value of one type from the start of a text. It always shortens
the text, which is why lists and records can be read to their end. A record is
written as an object, in any order of its keys and with unknown keys among them,
or as a list of its fields in their order.

Only the faults that concern a whole record wait until its closing bracket has
been passed; every other fault stands where it was noticed.
-/
namespace OpenCLRegistry.Json

structure Reader (α : Type) where
  read : List Char → Reading α
  shorter {s r : List Char} {a : α} : read s = .ok (a, r) → r.length < s.length

/-- A literal found where something else was wanted; it is still read to its end. -/
def unwantedLiteral (letters : List Char) (found : Found) (wanted : Wanted) (s : List Char) :
    Fault :=
  match readLetters letters s with
  | .error f => f
  | .ok r => .here (.wrongType found wanted) r

/-- The fault of a text at whose start there is no value of the wanted type. -/
def unwanted (wanted : Wanted) (s : List Char) : Fault :=
  match s with
  | [] => .next .endInValue []
  | c :: rest =>
    if c = 'n' then unwantedLiteral ['u', 'l', 'l'] .null wanted rest
    else if c = 't' then unwantedLiteral ['r', 'u', 'e'] (.bool true) wanted rest
    else if c = 'f' then unwantedLiteral ['a', 'l', 's', 'e'] (.bool false) wanted rest
    else if c = '-' || c.isDigit then
      match readNumeral (c :: rest) with
      | .error f => f
      | .ok (.integer n, r) => .here (.wrongType (.integer n) wanted) r
      | .ok (.decimal x, r) => .here (.wrongType (.decimal x) wanted) r
    else if c = '"' then
      match readString rest with
      | .error f => f
      | .ok (t, r) => .here (.wrongType (.string (String.ofList t)) wanted) r
    else if c = '[' then .here (.wrongType .list wanted) (c :: rest)
    else if c = '\x7b' then .here (.wrongType .object wanted) (c :: rest)
    else .next .noValue (c :: rest)

def readWord (s : List Char) : Reading UInt32 :=
  let s := skipSpace s
  if s.head?.any fun c => c == '-' || c.isDigit then
    match readNumeral s with
    | .error f => .error f
    | .ok (.integer n, r) =>
      if 0 ≤ n ∧ n < UInt32.size then .ok (UInt32.ofNat n.toNat, r)
      else .error (.here (.integerOutOfRange n) r)
    | .ok (.decimal x, r) => .error (.here (.wrongType (.decimal x) .word) r)
  else .error (unwanted .word s)

def readFlag (s : List Char) : Reading Bool :=
  match skipSpace s with
  | 't' :: rest =>
    match readLetters ['r', 'u', 'e'] rest with
    | .error f => .error f
    | .ok r => .ok (true, r)
  | 'f' :: rest =>
    match readLetters ['a', 'l', 's', 'e'] rest with
    | .error f => .error f
    | .ok r => .ok (false, r)
  | s => .error (unwanted .flag s)

def readText (s : List Char) : Reading String :=
  match skipSpace s with
  | '"' :: rest =>
    match readString rest with
    | .error f => .error f
    | .ok (t, r) => .ok (String.ofList t, r)
  | s => .error (unwanted .string s)

theorem length_of_readWord {s r : List Char} {n : UInt32} (h : readWord s = .ok (n, r)) :
    r.length < s.length := by
  have skip := length_skipSpace s
  have numeral := @length_of_readNumeral
  unfold readWord at h
  grind

theorem length_of_readFlag {s r : List Char} {b : Bool} (h : readFlag s = .ok (b, r)) :
    r.length < s.length := by
  have skip := length_skipSpace s
  have letters := @length_of_readLetters
  unfold readFlag at h
  grind

theorem length_of_readText {s r : List Char} {t : String} (h : readText s = .ok (t, r)) :
    r.length < s.length := by
  have skip := length_skipSpace s
  have string := @length_of_readString
  unfold readText at h
  grind

namespace Reader

variable {α β σ : Type}

/-- An integer that fits in 32 bits without a sign. -/
def word : Reader UInt32 := ⟨readWord, length_of_readWord⟩

def flag : Reader Bool := ⟨readFlag, length_of_readFlag⟩

def text : Reader String := ⟨readText, length_of_readText⟩

def map (f : α → β) (reader : Reader α) : Reader β where
  read s :=
    match reader.read s with
    | .error f => .error f
    | .ok (a, r) => .ok (f a, r)
  shorter h := by
    have := @reader.shorter
    grind

/-- Reads the items of a list and its closing bracket. -/
def readItems (item : Reader α) (first : Bool) (s : List Char) : Reading (List α) :=
  match _ : nextItem first s with
  | .error f => .error f
  | .ok (.closed r) => .ok ([], r)
  | .ok (.another r) =>
    match _ : item.read r with
    | .error f => .error f
    | .ok (a, r) =>
      match readItems item false r with
      | .error f => .error f
      | .ok (as, r) => .ok (a :: as, r)
termination_by s.length
decreasing_by grind [→ length_of_nextItem, Onward.rest, → Reader.shorter]

theorem length_of_readItems {item : Reader α} {first : Bool} {s r : List Char} {as : List α}
    (h : item.readItems first s = .ok (as, r)) : r.length ≤ s.length := by
  fun_induction readItems item first s generalizing as r <;>
    grind [→ length_of_nextItem, Onward.rest, → Reader.shorter]

def readList (item : Reader α) (s : List Char) : Reading (List α) :=
  match skipSpace s with
  | '[' :: rest => item.readItems true rest
  | s => .error (unwanted .list s)

def list (item : Reader α) : Reader (List α) where
  read := item.readList
  shorter {s} _ _ h := by
    have skip := length_skipSpace s
    unfold readList at h
    grind [→ length_of_readItems]

end Reader

/-- A field of a record: its key, and a reader of its value that gives the change to
the record under construction. -/
structure Field (σ : Type) where
  key : String
  required : Bool
  change : Reader (σ → σ)

/-- How a type of record is written. -/
structure RecordFormat (σ : Type) where
  name : String
  fields : List (Field σ)
  /-- The record before any of its fields has been read. -/
  start : σ

namespace RecordFormat

variable {σ : Type}

/-- Reads the fields in their order from a list whose bracket has been opened. -/
def readFields (format : RecordFormat σ) (count : Nat) :
    List (Field σ) → σ → List Char → Reading σ
  | [], record, s =>
    match closeList s with
    | .error f => .error f
    | .ok r => .ok (record, r)
  | field :: fields, record, s =>
    match nextItem (count == 0) s with
    | .error f => .error f
    | .ok (.closed r) =>
      if (field :: fields).any (·.required) then
        .error (.here (.tooFewItems count format.name format.fields.length) r)
      else .ok (record, r)
    | .ok (.another r) =>
      match field.change.read r with
      | .error f => .error f
      | .ok (change, r) => format.readFields (count + 1) fields (change record) r

theorem length_of_readFields {format : RecordFormat σ} {count : Nat} {fields : List (Field σ)}
    {record record' : σ} {s r : List Char}
    (h : format.readFields count fields record s = .ok (record', r)) : r.length ≤ s.length := by
  induction fields generalizing count record s with
  | nil =>
    unfold readFields at h
    grind [→ length_of_closeList]
  | cons field fields ih =>
    unfold readFields at h
    grind [→ length_of_nextItem, Onward.rest, → Reader.shorter]

/-- Where a fault of a whole record stands: after the closing bracket, if that is next. -/
def pastObject (s : List Char) : List Char :=
  match skipSpace s with
  | '\x7d' :: rest => rest
  | s => s

/-- The record, or the fault of its first required field that is missing. -/
def finish (format : RecordFormat σ) (seen : List String) (record : σ) (r : List Char) :
    Reading σ :=
  match format.fields.find? fun field => field.required && !seen.contains field.key with
  | some field => .error (.here (.missingField field.key) r)
  | none => .ok (record, r)

/-- Reads the members of an object whose bracket has been opened. -/
def readMembers (format : RecordFormat σ) (seen : List String) (first : Bool) (record : σ)
    (s : List Char) : Reading σ :=
  match _ : nextKey first s with
  | .error f => .error f
  | .ok (.closed r) => format.finish seen record r
  | .ok (.another r) =>
    match _ : readString r with
    | .error f => .error f
    | .ok (name, r) =>
      let key := String.ofList name
      match format.fields.find? (·.key == key) with
      | none =>
        match _ : readColon r with
        | .error f => .error f
        | .ok r =>
          match _ : skipValue [] r with
          | .error f => .error f
          | .ok r => format.readMembers seen false record r
      | some field =>
        if seen.contains key then .error (.here (.duplicateField key) (pastObject r))
        else
          match _ : readColon r with
          | .error f => .error f
          | .ok r =>
            match _ : field.change.read r with
            | .error f => .error f
            | .ok (change, r) => format.readMembers (key :: seen) false (change record) r
termination_by s.length
decreasing_by all_goals grind [→ length_of_nextKey, Onward.rest, → length_of_readString,
  → length_of_readColon, → length_of_skipValue, → Reader.shorter]

theorem length_of_readMembers {format : RecordFormat σ} {seen : List String} {first : Bool}
    {record record' : σ} {s r : List Char}
    (h : format.readMembers seen first record s = .ok (record', r)) : r.length ≤ s.length := by
  fun_induction readMembers format seen first record s <;>
    grind [finish, → length_of_nextKey, Onward.rest, → length_of_readString,
      → length_of_readColon, → length_of_skipValue, → Reader.shorter]

def read (format : RecordFormat σ) (s : List Char) : Reading σ :=
  match skipSpace s with
  | '[' :: rest => format.readFields 0 format.fields format.start rest
  | '\x7b' :: rest => format.readMembers [] true format.start rest
  | s => .error (unwanted (.record format.name) s)

def reader (format : RecordFormat σ) : Reader σ where
  read := format.read
  shorter {s} _ _ h := by
    have skip := length_skipSpace s
    unfold read at h
    grind [→ length_of_readFields, → length_of_readMembers]

end RecordFormat

/-- Reads a whole text. The value is checked before what follows it, and the reason
for which a check fails has no place in the text. -/
def readDocument {α β : Type} (reader : Reader α) (check : α → Except String β) (text : String) :
    Except String β :=
  match reader.read text.toList with
  | .error f => .error (f.message text.toList)
  | .ok (a, r) =>
    match check a with
    | .error reason => .error reason
    | .ok b =>
      match readEnd r with
      | .error f => .error (f.message text.toList)
      | .ok () => .ok b

end OpenCLRegistry.Json
