import OpenCLRegistry.Json.Space

/-!
# Strings

The part of a string after its opening quote, read for its value or skipped. An
escape beyond the basic plane is a pair of surrogates; a surrogate that is not
part of such a pair is refused where the value is wanted, and goes unnoticed
where it is not.
-/
namespace OpenCLRegistry.Json

def hexValue? (c : Char) : Option Nat :=
  if c.isDigit then some (c.toNat - '0'.toNat)
  else if 'a' ≤ c && c ≤ 'f' then some (c.toNat - 'a'.toNat + 10)
  else if 'A' ≤ c && c ≤ 'F' then some (c.toNat - 'A'.toNat + 10)
  else none

/-- The number that four hexadecimal digits write. -/
def unit? (a b c d : Char) : Option Nat := do
  let a ← hexValue? a
  let b ← hexValue? b
  let c ← hexValue? c
  let d ← hexValue? d
  return ((a * 16 + b) * 16 + c) * 16 + d

/-- Reads four hexadecimal digits. The four bytes are taken before they are looked at. -/
def readUnit (s : List Char) : Reading Nat :=
  let refused : Fault := if byteLength s < 4 then .here .endInString [] else ⟨.invalidEscape, s, 4⟩
  match s with
  | a :: b :: c :: d :: rest =>
    match unit? a b c d with
    | some n => .ok (n, rest)
    | none => .error refused
  | _ => .error refused

theorem length_of_readUnit {s r : List Char} {n : Nat} (h : readUnit s = .ok (n, r)) :
    r.length < s.length := by
  unfold readUnit at h
  grind

/-- The character of a surrogate pair must be written by two escapes in a row. -/
def readSecondEscape : List Char → Except Fault (List Char)
  | [] => .error (.here .endInString [])
  | '\\' :: [] => .error (.here .endInString [])
  | '\\' :: 'u' :: rest => .ok rest
  | '\\' :: rest => .error (.next .unfinishedSurrogate rest)
  | rest => .error (.next .unfinishedSurrogate rest)

theorem length_of_readSecondEscape {s r : List Char} (h : readSecondEscape s = .ok r) :
    r.length < s.length := by
  unfold readSecondEscape at h
  grind

def isHighSurrogate (n : Nat) : Bool := 0xd800 ≤ n && n ≤ 0xdbff

def isLowSurrogate (n : Nat) : Bool := 0xdc00 ≤ n && n ≤ 0xdfff

/-- Reads the rest of an escape by number. -/
def readCodePoint (s : List Char) : Reading Char :=
  match readUnit s with
  | .error f => .error f
  | .ok (high, rest) =>
    if isLowSurrogate high then .error (.here .loneSurrogate rest)
    else if isHighSurrogate high then
      match readSecondEscape rest with
      | .error f => .error f
      | .ok rest =>
        match readUnit rest with
        | .error f => .error f
        | .ok (low, rest) =>
          if isLowSurrogate low then
            .ok (Char.ofNat (0x10000 + (high - 0xd800) * 0x400 + (low - 0xdc00)), rest)
          else .error (.here .loneSurrogate rest)
    else .ok (Char.ofNat high, rest)

theorem length_of_readCodePoint {s r : List Char} {c : Char} (h : readCodePoint s = .ok (c, r)) :
    r.length < s.length := by
  have unit := @length_of_readUnit
  have second := @length_of_readSecondEscape
  unfold readCodePoint at h
  grind

/-- The character that an escape by a single letter stands for. -/
def escaped? : Char → Option Char
  | '"' => some '"'
  | '\\' => some '\\'
  | '/' => some '/'
  | 'b' => some '\x08'
  | 'f' => some '\x0c'
  | 'n' => some '\n'
  | 'r' => some '\r'
  | 't' => some '\t'
  | _ => none

/-- Reads an escape after its backslash. -/
def readEscape : List Char → Reading Char
  | [] => .error (.here .endInString [])
  | c :: rest =>
    if c = 'u' then readCodePoint rest
    else match escaped? c with
      | some d => .ok (d, rest)
      | none => .error (.next .invalidEscape (c :: rest))

theorem length_of_readEscape {s r : List Char} {c : Char} (h : readEscape s = .ok (c, r)) :
    r.length < s.length := by
  have codePoint := @length_of_readCodePoint
  cases s <;> grind [readEscape]

/-- Reads a string to its closing quote. -/
def readString : List Char → Reading (List Char)
  | [] => .error (.here .endInString [])
  | c :: rest =>
    if c = '"' then .ok ([], rest)
    else if c = '\\' then
      match _ : readEscape rest with
      | .error f => .error f
      | .ok (d, r) =>
        match readString r with
        | .error f => .error f
        | .ok (ds, r) => .ok (d :: ds, r)
    else if c < ' ' then .error (.next .controlCharacter (c :: rest))
    else
      match readString rest with
      | .error f => .error f
      | .ok (ds, r) => .ok (c :: ds, r)
termination_by s => s.length
decreasing_by
  · rename_i h
    have := length_of_readEscape h
    simp only [List.length_cons]
    omega
  · simp

theorem length_of_readString {s t r : List Char} (h : readString s = .ok (t, r)) :
    r.length < s.length := by
  have escape := @length_of_readEscape
  fun_induction readString s generalizing t r <;> grind

/-- Skips an escape after its backslash. -/
def skipEscape : List Char → Except Fault (List Char)
  | [] => .error (.here .endInString [])
  | c :: rest =>
    if c = 'u' then
      match readUnit rest with
      | .error f => .error f
      | .ok (_, r) => .ok r
    else if (escaped? c).isSome then .ok rest
    else .error (.next .invalidEscape (c :: rest))

theorem length_of_skipEscape {s r : List Char} (h : skipEscape s = .ok r) :
    r.length < s.length := by
  have unit := @length_of_readUnit
  cases s <;> grind [skipEscape]

/-- Skips a string to its closing quote. -/
def skipString : List Char → Except Fault (List Char)
  | [] => .error (.here .endInString [])
  | c :: rest =>
    if c = '"' then .ok rest
    else if c = '\\' then
      match _ : skipEscape rest with
      | .error f => .error f
      | .ok r => skipString r
    else if c < ' ' then .error (.here .controlCharacter (c :: rest))
    else skipString rest
termination_by s => s.length
decreasing_by
  · rename_i h
    have := length_of_skipEscape h
    simp only [List.length_cons]
    omega
  · simp

theorem length_of_skipString {s r : List Char} (h : skipString s = .ok r) :
    r.length < s.length := by
  have escape := @length_of_skipEscape
  fun_induction skipString s generalizing r <;> grind

end OpenCLRegistry.Json
