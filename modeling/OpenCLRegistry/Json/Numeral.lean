import OpenCLRegistry.Json.Space

/-!
# Numbers

A number is first scanned into its parts and then valued. Its digits make a word
of 64 bits as far as they fit; a number that has a point, an exponent or more
digits than that is a float, and so is a negative one below the signed 64-bit
range, and minus zero. A skipped number is scanned only, so no size is too large
for it.
-/
namespace OpenCLRegistry.Json

inductive Numeral
  | integer (value : Int)
  | decimal (value : Float)

/-- A number as it is written. -/
structure NumeralText where
  negative : Bool
  whole : List Char
  /-- The digits after the point; there are none only if there is no point. -/
  fraction : List Char
  /-- Whether the exponent is negative, and its digits. -/
  exponent : Option (Bool × List Char)

def digitsOf (s : List Char) : List Char := s.takeWhile Char.isDigit

def afterDigits (s : List Char) : List Char := s.dropWhile Char.isDigit

/-- The fault of a digit that is missing. A text that ends there may have a cause of its own. -/
def missingDigit (atEnd : Cause) (s : List Char) : Fault :=
  .next (if s = [] then atEnd else .invalidNumber) s

/-- Reads one digit or more. -/
def readDigits (atEnd : Cause) (s : List Char) : Reading (List Char) :=
  if digitsOf s = [] then .error (missingDigit atEnd s) else .ok (digitsOf s, afterDigits s)

theorem length_of_readDigits {atEnd : Cause} {s ds r : List Char}
    (h : readDigits atEnd s = .ok (ds, r)) : r.length < s.length := by
  have split := congrArg List.length (List.takeWhile_append_dropWhile (p := Char.isDigit) (l := s))
  unfold readDigits at h
  split at h
  · cases h
  · rename_i some
    cases h
    have := List.length_pos_iff.2 some
    simp only [List.length_append, digitsOf, afterDigits] at *
    omega

/-- Reads the digits before the point: a zero stands alone. -/
def readWhole (atEnd : Cause) (s : List Char) : Reading (List Char) :=
  match readDigits atEnd s with
  | .error f => .error f
  | .ok (ds, r) =>
    if ds.head? = some '0' ∧ ds ≠ ['0'] then .error (.next .invalidNumber (s.drop 1))
    else .ok (ds, r)

/-- Reads the point and the digits after it, if a point comes. -/
def readFraction (atEnd : Cause) (s : List Char) : Reading (List Char) :=
  if s.head? = some '.' then readDigits atEnd (s.drop 1) else .ok ([], s)

def isExponentMark (c : Char) : Bool := c == 'e' || c == 'E'

/-- Reads the exponent, if one comes. -/
def readExponent (atEnd : Cause) (s : List Char) : Reading (Option (Bool × List Char)) :=
  if s.head?.any isExponentMark then
    let signed := s.drop 1
    let negative := signed.head? == some '-'
    let digits := if negative || signed.head? == some '+' then signed.drop 1 else signed
    match readDigits atEnd digits with
    | .error f => .error f
    | .ok (ds, r) => .ok (some (negative, ds), r)
  else .ok (none, s)

/-- Reads the parts of a number. -/
def scanNumeral (atEnd : Cause) (s : List Char) : Reading NumeralText :=
  let negative := s.head? == some '-'
  match readWhole atEnd (if negative then s.drop 1 else s) with
  | .error f => .error f
  | .ok (whole, r) =>
    match readFraction atEnd r with
    | .error f => .error f
    | .ok (fraction, r) =>
      match readExponent atEnd r with
      | .error f => .error f
      | .ok (exponent, r) => .ok (⟨negative, whole, fraction, exponent⟩, r)

theorem length_of_scanNumeral {atEnd : Cause} {s r : List Char} {t : NumeralText}
    (h : scanNumeral atEnd s = .ok (t, r)) : r.length < s.length := by
  have digits := @length_of_readDigits
  unfold scanNumeral readWhole readFraction readExponent at h
  grind [List.length_drop]

def digitValue (c : Char) : Nat := c.toNat - '0'.toNat

/-- Appends digits to a number while it stays below a bound; what is left begins
with the digit that would reach it. -/
def takeDigits (bound : Nat) : Nat → List Char → Nat × List Char
  | n, [] => (n, [])
  | n, d :: ds =>
    if n * 10 + digitValue d < bound then takeDigits bound (n * 10 + digitValue d) ds
    else (n, d :: ds)

/-- A power of ten as a float; exact or correctly rounded. -/
def powerOfTen (k : Nat) : Float := Float.ofScientific 1 false k

/-- Multiplies by a power of ten, or divides by one, in steps that the float's range
allows. There is no value if the number is too large. -/
def scale (x : Float) (k : Int) : Option Float :=
  if k.natAbs ≤ 308 then
    if 0 ≤ k then
      let y := x * powerOfTen k.natAbs
      if y.isInf then none else some y
    else some (x / powerOfTen k.natAbs)
  else if x == 0.0 then some x
  else if 0 ≤ k then none
  else scale (x / powerOfTen 308) (k + 308)
termination_by k.natAbs

def signed (negative : Bool) (x : Float) : Float := if negative then -x else x

namespace NumeralText

/-- The digits as a number and a power of ten; digits that do not fit in a word count
into the power, or are dropped after the point. -/
def significand (t : NumeralText) : Nat × Int :=
  let (n, counted) := takeDigits UInt64.size 0 t.whole
  let (m, dropped) := takeDigits UInt64.size n t.fraction
  (m, (counted.length : Int) - (t.fraction.length - dropped.length))

/-- The number if it is written as an integer and its digits fit in a word. -/
def word? (t : NumeralText) : Option Nat :=
  let (n, excess) := takeDigits UInt64.size 0 t.whole
  if excess = [] ∧ t.fraction = [] ∧ t.exponent = none then some n else none

/-- The value of a number written without point and exponent. -/
def ofWord (negative : Bool) (n : Nat) : Numeral :=
  if !negative then .integer n
  else if n = 0 ∨ UInt64.size / 2 < n then .decimal (signed true n.toUInt64.toFloat)
  else .integer (-n)

/-- The value of a number, or the text left when it turned out to be too large. -/
def value (t : NumeralText) (rest : List Char) : Except (List Char) Numeral :=
  match t.word? with
  | some n => .ok (ofWord t.negative n)
  | none =>
    let (n, k) := t.significand
    let (below, digits) := t.exponent.getD (false, [])
    let (e, excess) := takeDigits (UInt32.size / 2) 0 digits
    if excess ≠ [] then
      if n ≠ 0 && !below then .error (excess.drop 1 ++ rest)
      else .ok (.decimal (signed t.negative 0.0))
    else
      match scale n.toUInt64.toFloat (if below then k - e else k + e) with
      | some x => .ok (.decimal (signed t.negative x))
      | none => .error rest

end NumeralText

/-- Reads a number for its value. -/
def readNumeral (s : List Char) : Reading Numeral :=
  match scanNumeral .endInValue s with
  | .error f => .error f
  | .ok (t, r) =>
    match t.value r with
    | .ok n => .ok (n, r)
    | .error rest => .error (.here .numberOutOfRange rest)

theorem length_of_readNumeral {s r : List Char} {n : Numeral} (h : readNumeral s = .ok (n, r)) :
    r.length < s.length := by
  have scan := @length_of_scanNumeral
  unfold readNumeral at h
  grind

/-- Skips a number. -/
def skipNumeral (s : List Char) : Except Fault (List Char) :=
  match scanNumeral .invalidNumber s with
  | .error f => .error f
  | .ok (_, r) => .ok r

theorem length_of_skipNumeral {s r : List Char} (h : skipNumeral s = .ok r) :
    r.length < s.length := by
  have scan := @length_of_scanNumeral
  unfold skipNumeral at h
  grind

end OpenCLRegistry.Json
