import OpenCLRegistry.Json.Fault

/-!
# Space, words and punctuation

Blanks may stand before every token. A literal is read letter by letter, so a
misspelt one is refused at its first wrong letter.
-/
namespace OpenCLRegistry.Json

def isSpace (c : Char) : Bool := c == ' ' || c == '\n' || c == '\t' || c == '\r'

def skipSpace (s : List Char) : List Char := s.dropWhile isSpace

theorem length_skipSpace (s : List Char) : (skipSpace s).length ≤ s.length :=
  (List.dropWhile_suffix _).length_le

/-- Reads the given letters. -/
def readLetters : List Char → List Char → Except Fault (List Char)
  | [], s => .ok s
  | _ :: _, [] => .error (.here .endInValue [])
  | letter :: letters, c :: rest =>
    if c = letter then readLetters letters rest else .error (.next .misspeltLiteral (c :: rest))

theorem length_of_readLetters {letters s r : List Char} (h : readLetters letters s = .ok r) :
    r.length ≤ s.length := by
  induction letters generalizing s with
  | nil => cases h; exact Nat.le_refl _
  | cons letter letters ih =>
    cases s with
    | nil => cases h
    | cons c rest =>
      unfold readLetters at h
      split at h
      · exact Nat.le_succ_of_le (ih h)
      · cases h

/-- The colon between a key and its value. -/
def readColon (s : List Char) : Except Fault (List Char) :=
  match skipSpace s with
  | [] => .error (.next .endInObject [])
  | c :: rest => if c = ':' then .ok rest else .error (.next .noColon (c :: rest))

theorem length_of_readColon {s r : List Char} (h : readColon s = .ok r) : r.length < s.length := by
  have le := length_skipSpace s
  unfold readColon at h
  split at h
  · cases h
  · rename_i c rest eq
    split at h
    · cases h
      simp only [eq, List.length_cons] at le
      omega
    · cases h

/-- Nothing but blanks may be left. -/
def readEnd (s : List Char) : Except Fault Unit :=
  match skipSpace s with
  | [] => .ok ()
  | rest => .error (.next .trailingCharacters rest)

end OpenCLRegistry.Json
