import OpenCLRegistry.CommandLine.Invocation

/-!
# Arguments

Arguments are read from the left, values included, and the first that asks for
help or the version, or that cannot be understood, ends the reading. An option
takes its value after an equals sign, where it may be any text, or from the next
argument, which must then not look like an option itself. Flags of one letter
may share a dash. There are no positional arguments.
-/
namespace OpenCLRegistry

/-- Why the reading of arguments ended early. -/
inductive Exit
  | usage
  | help
  | version
deriving DecidableEq

/-- The options that take a value. -/
inductive OptionKey
  | version
  | configuration
  | features
  | enable
  | query
deriving DecidableEq

/-- An integer that fits in 32 bits without a sign. It is written with or without a
sign, and leading zeros are allowed; a minus sign therefore goes with zero only. -/
def readNumber? (s : List Char) : Option UInt32 :=
  let sign := s.head?
  let digits := if sign = some '+' ∨ sign = some '-' then s.drop 1 else s
  let n := Nat.ofDigitChars 10 digits 0
  let bound := if sign = some '-' then 1 else UInt32.size
  if digits ≠ [] ∧ digits.all Char.isDigit ∧ n < bound then some (UInt32.ofNat n) else none

namespace OptionKey

def ofName? : String → Option OptionKey
  | "cl-std" => some .version
  | "config" => some .configuration
  | "cl-ext" => some .features
  | "enable" => some .enable
  | "query" => some .query
  | _ => none

/-- The setting that an option makes with a value it accepts. -/
def setting? (key : OptionKey) (value : String) : Option Setting :=
  match key with
  | .version => (readNumber? value.toList).map .version
  | .configuration => if value = "" then none else some (.configuration value)
  | .features => some (.features value)
  | .enable => some (.enable value)
  | .query => some (.query value)

end OptionKey

/-- What one argument says by itself. -/
inductive Argument
  | setting (s : Setting)
  /-- An option whose value is the next argument. -/
  | opens (key : OptionKey)
  /-- Flags of one letter. -/
  | letters (flags : List Char)
  | exit (e : Exit)
  /-- Nothing but positional arguments may follow. -/
  | endOfOptions

namespace Argument

/-- A name after two dashes, without a value. -/
def ofName (name : String) : Argument :=
  match name with
  | "cpp" => .setting .cplusplus
  | "disable-all" => .setting .clearEnabled
  | "enable-core" => .setting .enableCore
  | "verbose" => .setting .verbose
  | "help" => .exit .help
  | "version" => .exit .version
  | name =>
    match OptionKey.ofName? name with
    | some key => .opens key
    | none => .exit .usage

/-- A name after two dashes with a value after the equals sign. -/
def ofNameAndValue (name value : String) : Argument :=
  match (OptionKey.ofName? name).bind fun key => key.setting? value with
  | some s => .setting s
  | none => .exit .usage

def ofText (arg : String) : Argument :=
  match arg.toList with
  | ['-', '-'] => .endOfOptions
  | '-' :: '-' :: long =>
    let name := long.takeWhile (· ≠ '=')
    match long.drop name.length with
    | [] => ofName (String.ofList name)
    | _ :: value => ofNameAndValue (String.ofList name) (String.ofList value)
  | '-' :: c :: flags => .letters (c :: flags)
  | _ => .exit .usage

/-- An argument that can be the value of the option before it. -/
def standsAlone (arg : String) : Bool := arg = "-" || arg.toList.head? != some '-'

end Argument

namespace Invocation

def set (i : Invocation) (s : Setting) : Except Exit Invocation :=
  match i.set? s with
  | some i => .ok i
  | none => .error .usage

/-- Reads flags of one letter from the left. -/
def readLetters (i : Invocation) : List Char → Except Exit Invocation
  | [] => .ok i
  | 'v' :: rest =>
    match i.set .verbose with
    | .ok i => i.readLetters rest
    | .error e => .error e
  | 'h' :: _ => .error .help
  | 'V' :: _ => .error .version
  | _ => .error .usage

/-- Reads arguments and adds what they say to an invocation. -/
def readArguments (i : Invocation) : List String → Except Exit Invocation
  | [] => .ok i
  | arg :: rest =>
    match Argument.ofText arg with
    | .setting s =>
      match i.set s with
      | .ok i => i.readArguments rest
      | .error e => .error e
    | .opens key =>
      match rest with
      | [] => .error .usage
      | value :: rest =>
        match if Argument.standsAlone value then key.setting? value else none with
        | none => .error .usage
        | some s =>
          match i.set s with
          | .ok i => i.readArguments rest
          | .error e => .error e
    | .letters flags =>
      match i.readLetters flags with
      | .ok i => i.readArguments rest
      | .error e => .error e
    | .exit e => .error e
    | .endOfOptions => if rest = [] then .ok i else .error .usage

/-- The invocation that a list of arguments writes. -/
def ofArguments (args : List String) : Except Exit Invocation := readArguments {} args

end Invocation

end OpenCLRegistry
