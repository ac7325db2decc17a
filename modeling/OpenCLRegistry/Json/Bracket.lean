import OpenCLRegistry.Json.Space

/-!
# Items and members

What stands between the items of a list and the members of an object that are
read for their values: separators, and the bracket that closes them. A separator
must be followed by another item or member.
-/
namespace OpenCLRegistry.Json

/-- How a list or an object goes on. -/
inductive Onward
  /-- With an item, or with a key whose opening quote has been read. -/
  | another (rest : List Char)
  /-- Not at all: its closing bracket has been read. -/
  | closed (rest : List Char)

def Onward.rest : Onward → List Char
  | .another rest => rest
  | .closed rest => rest

/-- Goes on in a list, after its opening bracket or after an item. -/
def nextItem (first : Bool) (s : List Char) : Except Fault Onward :=
  match skipSpace s with
  | [] => .error (.next .endInList [])
  | c :: rest =>
    if c = ']' then .ok (.closed rest)
    else if first then .ok (.another (c :: rest))
    else if c = ',' then
      match skipSpace rest with
      | [] => .error (.next .endInValue [])
      | d :: rest =>
        if d = ']' then .error (.next .trailingComma (d :: rest)) else .ok (.another (d :: rest))
    else .error (.next .noListSeparator (c :: rest))

theorem length_of_nextItem {first : Bool} {s : List Char} {o : Onward}
    (h : nextItem first s = .ok o) : o.rest.length ≤ s.length := by
  have skip := length_skipSpace
  unfold nextItem at h
  grind [Onward.rest]

/-- Closes a list that must not have further items. -/
def closeList (s : List Char) : Except Fault (List Char) :=
  match skipSpace s with
  | [] => .error (.next .endInList [])
  | c :: rest =>
    if c = ']' then .ok rest
    else if c = ',' ∧ (skipSpace rest).head? = some ']' then
      .error (.next .trailingComma (skipSpace rest))
    else if c = ',' then .error (.next .trailingCharacters (skipSpace rest))
    else .error (.next .trailingCharacters (c :: rest))

theorem length_of_closeList {s r : List Char} (h : closeList s = .ok r) : r.length < s.length := by
  have skip := length_skipSpace
  unfold closeList at h
  grind

/-- Goes on in an object, after its opening bracket or after a member. -/
def nextKey (first : Bool) (s : List Char) : Except Fault Onward :=
  match skipSpace s with
  | [] => .error (.next .endInObject [])
  | c :: rest =>
    if c = '\x7d' then .ok (.closed rest)
    else if first then
      if c = '"' then .ok (.another rest) else .error (.next .keyNotString (c :: rest))
    else if c = ',' then
      match skipSpace rest with
      | [] => .error (.next .endInValue [])
      | d :: rest =>
        if d = '"' then .ok (.another rest)
        else if d = '\x7d' then .error (.next .trailingComma (d :: rest))
        else .error (.next .keyNotString (d :: rest))
    else .error (.next .noObjectSeparator (c :: rest))

theorem length_of_nextKey {first : Bool} {s : List Char} {o : Onward}
    (h : nextKey first s = .ok o) : o.rest.length < s.length := by
  have skip := length_skipSpace
  unfold nextKey at h
  grind [Onward.rest]

end OpenCLRegistry.Json
