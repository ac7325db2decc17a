import OpenCLRegistry.Proofs.CommandLine.Failure
import OpenCLRegistry.Proofs.CommandLine.LanguageChoice
import OpenCLRegistry.Proofs.Language.Text

/-!
# A configuration file or its numbers

The options that choose the language may stand anywhere among other arguments,
and what these say does not depend on where. A file that configures a language
leads to the same output as its numbers given by options. If a file is named, the
options with the numbers count for nothing. Only where arguments are refused can they
be seen: what is said then may name the options that have been given.
-/
namespace OpenCLRegistry

/-- How the option of a setting is shown, with the kind of its value. -/
def Setting.synopsis : Setting → String
  | .version _ => "--cl-std <CL_STD>"
  | .cplusplus => "--cpp"
  | .configuration _ => "--config <CONFIG>"
  | .features _ => "--cl-ext <CL_EXT>"
  | .enable _ => "--enable <ENABLE>"
  | .clearEnabled => "--disable-all"
  | .enableCore => "--enable-core"
  | .query _ => "--query <QUERY>"
  | .verbose => "--verbose..."

/-- Makes a setting of the language, unless it has been made before. -/
def LanguageChoice.set? (c : LanguageChoice) : Setting → Option LanguageChoice
  | .version number => if c.version = none then some { c with version := some number } else none
  | .cplusplus => if c.cplusplus then none else some { c with cplusplus := true }
  | .configuration path =>
    if c.configuration = none then some { c with configuration := some path } else none
  | .features _ | .enable _ | .clearEnabled | .enableCore | .query _ | .verbose => none

namespace Argument

/-- Arguments that are read together: one that stands by itself, or an option and its value. -/
inductive Group : List String → Prop
  | alone {arg : String} : (∀ key, ofText arg ≠ .opens key) → ofText arg ≠ .endOfOptions →
      Group [arg]
  | pair {key : OptionKey} {arg value : String} : ofText arg = .opens key → Group [arg, value]

/-- The second list is the first one with options put in that take the choice of the language
from one to another. -/
inductive Choices : LanguageChoice → LanguageChoice → List String → List String → Prop
  | done {c : LanguageChoice} {args : List String} : Choices c c args args
  | choice {c next last : LanguageChoice} {s : Setting} {given args args' : List String} :
      Sets s given → c.set? s = some next → Choices next last args args' →
      Choices c last args (given ++ args')
  | keep {c last : LanguageChoice} {group args args' : List String} :
      Group group → Choices c last args args' → Choices c last (group ++ args) (group ++ args')

end Argument

namespace Invocation

/-! ## Options anywhere among the arguments -/

theorem readArguments_append_of_script {front rest : List String}
    (split : Argument.script (front ++ rest) = Argument.script front ++ Argument.script rest)
    (i : Invocation) :
    i.readArguments (front ++ rest) = (i.readArguments front).bind (·.readArguments rest) := by
  simp only [readArguments_eq_follow, split, follow_append]

/-- After a group the rest is read from what the group has led to. -/
theorem readArguments_group {group : List String} (h : Argument.Group group) (i : Invocation)
    (rest : List String) :
    i.readArguments (group ++ rest) = (i.readArguments group).bind (·.readArguments rest) := by
  cases h with
  | pair opened =>
    apply readArguments_append_of_script
    simp only [List.cons_append, List.nil_append, Argument.script, opened]
  | @alone arg closed more =>
    cases said : Argument.ofText arg with
    | opens key => exact absurd said (closed key)
    | endOfOptions => exact absurd said more
    | exit e =>
      -- What follows is not read, but it would be in the script.
      simp only [List.cons_append, List.nil_append, readArguments, said]
      rfl
    | setting | letters =>
      apply readArguments_append_of_script
      simp only [List.cons_append, List.nil_append, List.append_nil, Argument.script, said]

theorem set?_choosing_of_set? (i : Invocation) {c next : LanguageChoice} {s : Setting}
    (made : c.set? s = some next) : (i.choosing c).set? s = some (i.choosing next) := by
  cases s with
  | version | cplusplus | configuration =>
    simp only [LanguageChoice.set?, Option.ite_none_left_eq_some,
      Option.ite_none_right_eq_some, Option.some.injEq] at made
    obtain ⟨fresh, rfl⟩ := made
    simp [set?, choosing, fresh]
  | _ => cases made

theorem readArguments_choices {c last : LanguageChoice} {args args' : List String}
    (h : Argument.Choices c last args args') (apart : ∀ arg ∈ args, ¬ Argument.UsesLanguage arg)
    (i : Invocation) :
    (i.choosing c).readArguments args' = (i.readArguments args).map (choosing last) := by
  induction h generalizing i with
  | done => exact readArguments_choosing _ i apart
  | choice given made _ ih =>
    rw [readArguments_sets given (i.set?_choosing_of_set? made)]
    exact ih apart i
  | @keep c last group args args' grouped _ ih =>
    obtain ⟨front, back⟩ := List.forall_mem_append.mp apart
    rw [readArguments_group grouped, readArguments_group grouped, readArguments_choosing c i front]
    cases i.readArguments group with
    | error e => rfl
    | ok j => exact ih back j

end Invocation

/-- Whether arguments are accepted does not depend on options of the language among them. -/
theorem Invocation.ofArguments_choices {last : LanguageChoice} {args args' : List String}
    (h : Argument.Choices {} last args args') (apart : ∀ arg ∈ args, ¬ Argument.UsesLanguage arg) :
    ofArguments args' = (ofArguments args).map (choosing last) :=
  readArguments_choices h apart {}

theorem Invocation.refused_choices_iff {last : LanguageChoice} {args args' : List String}
    (h : Argument.Choices {} last args args') (apart : ∀ arg ∈ args, ¬ Argument.UsesLanguage arg) :
    ofArguments args' = .error .usage ↔ ofArguments args = .error .usage := by
  rw [ofArguments_choices h apart]
  cases ofArguments args <;> simp [Except.map]

namespace Report

theorem ofArguments_choices {files : Files} {last : LanguageChoice} {args args' : List String}
    (h : Argument.Choices {} last args args') (apart : ∀ arg ∈ args, ¬ Argument.UsesLanguage arg) :
    ofArguments files args' =
      match Invocation.ofArguments args with
      | .ok i => ofInvocation files (i.choosing last)
      | .error e => ofExit e := by
  rw [ofArguments, Invocation.ofArguments_choices h apart]
  cases Invocation.ofArguments args <;> rfl

theorem ofInvocation_of_language_error {i : Invocation} {files : Files} {e : Error}
    (failed : i.language files = .error e) :
    ofInvocation files i = { exitCode := 1, stderr := e.message ++ "\n" } := by
  have ran : i.run files = { value := .error e } := by rw [Invocation.run, failed]
  rw [ofInvocation, ran]
  rfl

/-- If a file is named, a report does not depend on the other options of the language. -/
theorem ofInvocation_choosing_configuration (i : Invocation) (files : Files)
    {c c' : LanguageChoice} {path : String} (named : c.configuration = some path)
    (named' : c'.configuration = some path) :
    ofInvocation files (i.choosing c) = ofInvocation files (i.choosing c') := by
  have same : (i.choosing c).language files = (i.choosing c').language files := by
    simp only [Invocation.language, Invocation.choosing, named, named']
  cases found : (i.choosing c').language files with
  | ok l => exact ofInvocation_choosing rfl i files (same.trans found) found
  | error e =>
    rw [ofInvocation_of_language_error found, ofInvocation_of_language_error (same.trans found)]

section Explained

variable (usage : List String → String) (files : Files) {args : List String}

theorem explained_of_refused (refused : Invocation.ofArguments args = .error .usage) :
    explained usage files args = { exitCode := 2, stderr := usage args } := by
  simp only [explained, ofArguments, refused]
  rfl

theorem explained_of_accepted (accepted : Invocation.ofArguments args ≠ .error .usage) :
    explained usage files args = ofArguments files args := by
  unfold explained
  split
  · contradiction
  · rfl

end Explained

/-- What a file says of the language goes the same way as its numbers. -/
theorem ofArguments_file_numbers {files : Files} {args : List String}
    (apart : ∀ arg ∈ args, ¬ Argument.UsesLanguage arg) {path : String} {byFile : List String}
    (named : Argument.Choices {} { configuration := some path } args byFile) {text : String}
    {n : UInt32} {cplusplus : Bool} {byNumbers : List String} (stored : files path = .ok text)
    (configures : Language.Configures n cplusplus text.toList)
    (chosen : Argument.Choices {} { version := some n, cplusplus } args byNumbers) :
    let file := ofArguments files byFile
    let numbers := ofArguments files byNumbers
    file.exitCode = numbers.exitCode ∧ file.stdout = numbers.stdout ∧
      ∀ e, Language.ofNumbers n cplusplus = .error e → file.exitCode = 1 →
        file.stderr = "invalid language configuration: " ++ numbers.stderr := by
  have read := Language.ofText_of_configures configures
  rw [ofArguments_choices named apart, ofArguments_choices chosen apart]
  cases Invocation.ofArguments args with
  | error e =>
    refine ⟨rfl, rfl, fun _ _ failed => ?_⟩
    cases e <;> cases failed
  | ok i =>
    have fromFile : (i.choosing { configuration := some path }).language files =
        Language.ofText text := by
      simp only [Invocation.language, Invocation.choosing, stored]
    have fromNumbers : (i.choosing { version := some n, cplusplus }).language files =
        Language.ofNumbers n cplusplus := rfl
    cases found : Language.ofNumbers n cplusplus with
    | ok l =>
      rw [found] at read fromNumbers
      dsimp only
      rw [ofInvocation_choosing rfl i files (fromFile.trans read) fromNumbers]
      refine ⟨rfl, rfl, fun _ failed => ?_⟩
      cases failed
    | error e =>
      rw [found] at read fromNumbers
      dsimp only
      rw [ofInvocation_of_language_error fromNumbers,
        ofInvocation_of_language_error (fromFile.trans read)]
      refine ⟨rfl, rfl, fun _ _ _ => ?_⟩
      exact String.append_assoc

/-- Where a file is named, the other options of the language count for nothing. -/
theorem ofArguments_file_and_others {files : Files} {args : List String}
    (apart : ∀ arg ∈ args, ¬ Argument.UsesLanguage arg) {c c' : LanguageChoice} {path : String}
    (named : c.configuration = some path) (named' : c'.configuration = some path)
    {given given' : List String} (chosen : Argument.Choices {} c args given)
    (chosen' : Argument.Choices {} c' args given') :
    ofArguments files given = ofArguments files given' := by
  rw [ofArguments_choices chosen apart, ofArguments_choices chosen' apart]
  cases Invocation.ofArguments args with
  | error e => rfl
  | ok i => exact ofInvocation_choosing_configuration i files named named'

/-- Arguments that do not choose a language give the same exit code and output with a file that
configures one and with its numbers; if there is no such language, the message for the file
quotes the message for the numbers. If a file is named, whatever its text, exit code, output and
log are the same with and without other options of the language. So is the message, unless the
arguments are refused: the reason for that may name all options. -/
theorem configuration_or_numbers (usage : List String → String) {files : Files}
    {args : List String} (apart : ∀ arg ∈ args, ¬ Argument.UsesLanguage arg) {path : String}
    {byFile : List String}
    (named : Argument.Choices {} { configuration := some path } args byFile) :
    (∀ (text : String) (n : UInt32) (cplusplus : Bool) (byNumbers : List String),
      files path = .ok text → Language.Configures n cplusplus text.toList →
      Argument.Choices {} { version := some n, cplusplus } args byNumbers →
      let file := explained usage files byFile
      let numbers := explained usage files byNumbers
      file.exitCode = numbers.exitCode ∧ file.stdout = numbers.stdout ∧
        ∀ e, Language.ofNumbers n cplusplus = .error e → file.exitCode = 1 →
          file.stderr = "invalid language configuration: " ++ numbers.stderr) ∧
    ∀ (version : Option UInt32) (cplusplus : Bool) (both : List String),
      Argument.Choices {} { version, cplusplus, configuration := some path } args both →
      let file := explained usage files byFile
      let whole := explained usage files both
      whole.exitCode = file.exitCode ∧ whole.stdout = file.stdout ∧ whole.log = file.log ∧
        (Invocation.ofArguments args ≠ .error .usage → whole.stderr = file.stderr) := by
  by_cases refused : Invocation.ofArguments args = .error .usage
  · have reason {c : LanguageChoice} {given : List String}
        (chosen : Argument.Choices {} c args given) :
        explained usage files given = { exitCode := 2, stderr := usage given } :=
      explained_of_refused usage files ((Invocation.refused_choices_iff chosen apart).mpr refused)
    refine ⟨fun text n cplusplus byNumbers _ _ chosen => ?_, fun version cplusplus both chosen => ?_⟩
    · rw [reason named, reason chosen]
      refine ⟨rfl, rfl, fun _ _ failed => ?_⟩
      cases failed
    · rw [reason named, reason chosen]
      exact ⟨rfl, rfl, rfl, absurd refused⟩
  · have plain {c : LanguageChoice} {given : List String}
        (chosen : Argument.Choices {} c args given) :
        explained usage files given = ofArguments files given :=
      explained_of_accepted usage files
        (mt (Invocation.refused_choices_iff chosen apart).mp refused)
    refine ⟨fun text n cplusplus byNumbers stored configures chosen => ?_,
      fun version cplusplus both chosen => ?_⟩
    · rw [plain named, plain chosen]
      exact ofArguments_file_numbers apart named stored configures chosen
    · rw [plain named, plain chosen, ofArguments_file_and_others apart rfl rfl chosen named]
      exact ⟨rfl, rfl, rfl, fun _ => rfl⟩

/-- There is no version 130. Under a key that is no field stand a number that is no integer and
half of a surrogate pair. -/
def unknownVersion : String :=
  "\x7b\"sizes\": [1.5E+3, \"\\uD800\"], \"opencl_cplusplus\":false ,\n\"opencl_version\": 130\x7d"

open Json in
theorem configures_unknownVersion : Language.Configures 130 false unknownVersion.toList := by
  have space : Blank [' '] := by simp [Blank, isSpace]
  have lineBreak : Blank ['\n'] := by simp [Blank, isSpace]
  have digit {c : Char} (h : c.isDigit = true) : Digits [c] := by simp [Digits, h]
  have exponent : ExponentText ('E' :: (['+'] ++ ['3'])) := .mark (by simp) (by simp) (digit rfl)
  have number : NumberText ([] ++ (['1'] ++ (['.', '5'] ++ 'E' :: (['+'] ++ ['3'])))) :=
    .parts (by simp) ⟨digit rfl, by simp⟩ (.point (digit rfl)) exponent
  have thirteen : HexDigit 13 'D' := ⟨by decide, .inr rfl⟩
  have eight : HexDigit 8 '8' := hexDigit_digitChar (by decide)
  have zero : HexDigit 0 '0' := hexDigit_digitChar (by decide)
  have surrogate : StringText ('\\' :: 'u' :: (['D', '8', '0', '0'] ++ ['"'])) :=
    .unit (.digits thirteen eight zero zero) .close
  have sizes := WellFormed.list blank_nil (.number number)
    (.item blank_nil space (.string surrogate) (.noItem blank_nil))
  have object := ObjectText.members blank_nil (spellsKey_stringText "sizes") space sizes
    (.member blank_nil space (spellsKey_stringText "opencl_cplusplus") blank_nil
      (Language.spells_bool false).wellFormed
      (.member space lineBreak (spellsKey_stringText "opencl_version") space
        (Language.spells_ofWord 130).wellFormed (.close blank_nil)))
  have configures : Language.Configures 130 false _ :=
    .object blank_nil object blank_nil (by decide) (by decide)
  exact Eq.subst (motive := Language.Configures 130 false) (by decide +kernel) configures

/-- Other arguments that such a file, or its numbers, can be combined with. -/
def others : List String := ["-v", "--enable", "cl_khr_fp64"]

/-- A reason that names the argument at the end, which is unknown, and in the line about the
usage the options that have been read before it. -/
def namingOptions (args : List String) : String :=
  let used := (Argument.script args).filterMap fun said => said.toOption.map Setting.synopsis
  "error: unexpected argument '" ++ args.getLastD "" ++ "' found\n\nUsage: clopts " ++
    String.intercalate " " used ++ "\n\nFor more information, try '--help'.\n"

theorem configuration_or_numbers_unknownVersion :
    let files : Files := fun path => if path = "l.json" then .ok unknownVersion else .error .missing
    let file := explained namingOptions files (["--config=l.json"] ++ others)
    let numbers := explained namingOptions files (["--cl-std", "130"] ++ others)
    let whole := explained namingOptions files (["--cpp"] ++ (["--config=l.json"] ++
      (["-v"] ++ (["--cl-std=+0200"] ++ ["--enable", "cl_khr_fp64"]))))
    file.exitCode = 1 ∧ file.stderr = "invalid language configuration: " ++ numbers.stderr ∧
      whole.exitCode = 1 ∧ whole.stdout = file.stdout ∧ whole.stderr = file.stderr := by
  intro files file numbers whole
  have apart : ∀ arg ∈ others, ¬ Argument.UsesLanguage arg := by decide +kernel
  have path : Argument.Sets (.configuration "l.json") ["--config=l.json"] := .joined rfl
  have unknown : Argument.Sets (.version 130) ["--cl-std", "130"] := .apart rfl (by decide)
  have known : Argument.Sets (.version 200) ["--cl-std=+0200"] := .joined rfl
  have cplusplus : Argument.Sets .cplusplus ["--cpp"] := .joined rfl
  have byFile : Argument.Choices {} { configuration := some "l.json" } others
      (["--config=l.json"] ++ others) := .choice path rfl .done
  have byNumbers : Argument.Choices {} { version := some 130 } others
      (["--cl-std", "130"] ++ others) := .choice unknown rfl .done
  have mark : Argument.Group ["-v"] := .alone (fun _ => nofun) nofun
  have both : Argument.Choices {}
      { version := some 200, cplusplus := true, configuration := some "l.json" } others
      (["--cpp"] ++ (["--config=l.json"] ++
        (["-v"] ++ (["--cl-std=+0200"] ++ ["--enable", "cl_khr_fp64"])))) :=
    .choice cplusplus rfl (.choice path rfl (.keep mark (.choice known rfl .done)))
  obtain ⟨agree, ignored⟩ := @configuration_or_numbers namingOptions files others apart _ _ byFile
  obtain ⟨code, -, message⟩ := agree _ 130 false _ rfl configures_unknownVersion byNumbers
  obtain ⟨sameCode, sameOutput, -, sameMessage⟩ := ignored _ _ _ both
  have failed : numbers.exitCode = 1 := by
    have read : Invocation.ofArguments (["--cl-std", "130"] ++ others) =
        .ok { version := some 130, enables := ["cl_khr_fp64"], verbosity := 1 } := by
      decide +kernel
    have unfound : Invocation.language
        { version := some 130, enables := ["cl_khr_fp64"], verbosity := 1 } files =
          .error (.unknownVersion 130) := rfl
    have plain : numbers = _ := explained_of_accepted namingOptions files fun refused => by
      rw [read] at refused
      cases refused
    rw [plain, ofArguments_of_read read, ofInvocation_of_language_error unfound]
  have accepted : Invocation.ofArguments others ≠ .error .usage := by decide +kernel
  exact ⟨code.trans failed, message _ rfl (code.trans failed), sameCode.trans (code.trans failed),
    sameOutput, sameMessage accepted⟩

/-- Of refused arguments the whole message is not the same with and without other options of the
language, where the reason names the options. -/
theorem refusal_names_options :
    let files : Files := fun _ => .ok "\x7b\x7d"
    let byFile := ["--config=l.json", "--bogus"]
    let both := ["--cpp", "--cl-std=200", "--config=l.json", "--bogus"]
    (∀ arg ∈ ["--bogus"], ¬ Argument.UsesLanguage arg) ∧
      Argument.Choices {} { configuration := some "l.json" } ["--bogus"] byFile ∧
      Argument.Choices {}
        { version := some 200, cplusplus := true, configuration := some "l.json" } ["--bogus"] both ∧
      (explained namingOptions files byFile).stderr =
        "error: unexpected argument '--bogus' found\n\n" ++
          "Usage: clopts --config <CONFIG>\n\nFor more information, try '--help'.\n" ∧
      (explained namingOptions files both).stderr =
        "error: unexpected argument '--bogus' found\n\n" ++
          "Usage: clopts --cpp --cl-std <CL_STD> --config <CONFIG>\n\n" ++
            "For more information, try '--help'.\n" ∧
      (explained namingOptions files both).stderr ≠
        (explained namingOptions files byFile).stderr := by
  intro files byFile both
  have path : Argument.Sets (.configuration "l.json") ["--config=l.json"] := .joined rfl
  have version : Argument.Sets (.version 200) ["--cl-std=200"] := .joined rfl
  have cplusplus : Argument.Sets .cplusplus ["--cpp"] := .joined rfl
  have refused : Invocation.ofArguments byFile = .error .usage := by decide +kernel
  have refused' : Invocation.ofArguments both = .error .usage := by decide +kernel
  refine ⟨by decide +kernel, .choice path rfl .done,
    .choice cplusplus rfl (.choice version rfl (.choice path rfl .done)), ?_⟩
  rw [explained_of_refused namingOptions files refused,
    explained_of_refused namingOptions files refused']
  decide +kernel

end Report

end OpenCLRegistry
