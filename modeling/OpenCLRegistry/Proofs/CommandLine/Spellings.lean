import OpenCLRegistry.Proofs.CommandLine.Failure
import OpenCLRegistry.Proofs.CommandLine.Options

/-!
# Two ways to give an option its value

The value of an option stands after an equals sign or in the next argument. After
an equals sign it may be any text. In an argument of its own it must not look like
an option, so a feature list that begins with a switched off item cannot be given
in this way: the same list is accepted in one spelling and refused in the other.
-/
namespace OpenCLRegistry

namespace Argument

/-- A dash with something after it. -/
def LooksLikeOption (text : String) : Prop := ∃ rest, rest ≠ "" ∧ text = "-" ++ rest

theorem standsAlone_iff {text : String} : standsAlone text = true ↔ ¬ LooksLikeOption text := by
  have looks : LooksLikeOption text ↔ ∃ rest, rest ≠ [] ∧ text.toList = '-' :: rest := by
    constructor
    · rintro ⟨rest, nonempty, rfl⟩
      exact ⟨rest.toList, mt String.toList_eq_nil_iff.mp nonempty, by simp⟩
    · rintro ⟨rest, nonempty, same⟩
      refine ⟨String.ofList rest, by simpa using nonempty, String.toList_inj.mp ?_⟩
      simp [same]
  have dash : text = "-" ↔ text.toList = ['-'] := String.toList_inj.symm
  simp only [looks, standsAlone, Bool.or_eq_true, decide_eq_true_eq, dash]
  cases text.toList with
  | nil => simp
  | cons c rest => by_cases same : c = '-' <;> simp [same]

theorem standsAlone_eq_false_iff {text : String} :
    standsAlone text = false ↔ LooksLikeOption text := by
  rw [← Bool.not_eq_true, standsAlone_iff, not_not]

/-- The arguments begin with one that is no value of an option before it. -/
def BeginsWithOption (args : List String) : Prop :=
  ∃ arg rest, args = arg :: rest ∧ standsAlone arg = false

end Argument

namespace Invocation

open Argument

/-- A value that stands alone is read as it is after an equals sign. -/
theorem readArguments_apart_eq_joined (i : Invocation) (key : OptionKey) {value : String}
    (alone : standsAlone value = true) (rest : List String) :
    i.readArguments (("--" ++ key.name) :: value :: rest) =
      i.readArguments (("--" ++ key.name ++ "=" ++ value) :: rest) := by
  simp only [readArguments, ofText_opens, ofText_joined, alone, if_true]
  cases key.setting? value <;> rfl

/-- A value that looks like an option is refused, whatever follows. -/
theorem readArguments_apart_refused (i : Invocation) (key : OptionKey) {value : String}
    (looks : standsAlone value = false) (rest : List String) :
    i.readArguments (("--" ++ key.name) :: value :: rest) = .error .usage := by
  simp only [readArguments, ofText_opens, looks, Bool.false_eq_true, if_false]

theorem follow_cons_congr {xs ys : List Instruction}
    (same : ∀ i : Invocation, i.follow xs = i.follow ys) (x : Instruction) (i : Invocation) :
    i.follow (x :: xs) = i.follow (x :: ys) := by
  cases x with
  | error e => rfl
  | ok s => simp only [follow, same]

theorem follow_script_append_congr {given given' : List String}
    (begins : BeginsWithOption given) (begins' : BeginsWithOption given')
    (same : ∀ i : Invocation, i.follow (script given) = i.follow (script given'))
    (before : List String) (i : Invocation) :
    i.follow (script (before ++ given)) = i.follow (script (before ++ given')) := by
  obtain ⟨arg, rest, rfl, looks⟩ := begins
  obtain ⟨arg', rest', rfl, looks'⟩ := begins'
  fun_induction script before generalizing i with
  | case1 => exact same i
  | case2 first others s said ih =>
    simp only [List.cons_append, script, said]
    exact follow_cons_congr ih _ i
  | case3 first key said =>
    -- The option at the end waits for its value and gets none.
    simp [script, said, ofSeparateValue, looks, looks', follow]
  | case4 first key said value others ih =>
    simp only [List.cons_append, script, said]
    exact follow_cons_congr ih _ i
  | case5 first others flags said ih =>
    simp only [List.cons_append, script, said, follow_append, ih]
  | case6 first others e said => simp only [List.cons_append, script, said, follow]
  | case7 first said => simp [script, said]
  | case8 first others said more => simp [script, said]

/-- Arguments that are read alike are read alike behind any others. If an option before them
waits for its value, it gets none from either. -/
theorem readArguments_append_congr {given given' : List String}
    (begins : BeginsWithOption given) (begins' : BeginsWithOption given')
    (same : ∀ i : Invocation, i.readArguments given = i.readArguments given')
    (before : List String) (i : Invocation) :
    i.readArguments (before ++ given) = i.readArguments (before ++ given') := by
  simp only [readArguments_eq_follow] at same ⊢
  exact follow_script_append_congr begins begins' same before i

/-- A feature list after an equals sign is read whatever it says. -/
theorem ofArguments_features (list : String) :
    ofArguments ["--cl-ext=" ++ list] = .ok { features := some list } := by
  have text : "--cl-ext=" = "--" ++ OptionKey.features.name ++ "=" := by decide
  have said : ofText ("--cl-ext=" ++ list) = .setting (.features list) := by
    rw [text, ofText_joined]
    rfl
  simp only [ofArguments, readArguments, said]
  rfl

end Invocation

namespace Report

open Argument

theorem ofArguments_congr {files : Files} {args args' : List String}
    (same : Invocation.ofArguments args = Invocation.ofArguments args') :
    ofArguments files args = ofArguments files args' := by
  rw [ofArguments, ofArguments, same]

/-- A list that stands alone may be given in either spelling, whatever the other arguments are. -/
theorem ofArguments_features_apart {files : Files} {list : String}
    (alone : standsAlone list = true) (before after : List String) :
    ofArguments files (before ++ "--cl-ext" :: list :: after) =
      ofArguments files (before ++ ("--cl-ext=" ++ list) :: after) := by
  have begins : BeginsWithOption ("--cl-ext" :: list :: after) := ⟨_, _, rfl, by decide⟩
  have begins' : BeginsWithOption (("--cl-ext=" ++ list) :: after) :=
    ⟨_, _, rfl, by simp [standsAlone, ← String.toList_inj]⟩
  exact ofArguments_congr (Invocation.readArguments_append_congr begins begins'
    (fun i => i.readArguments_apart_eq_joined .features alone after) before {})

theorem ofArguments_features_refused {files : Files} {list : String}
    (looks : standsAlone list = false) (after : List String) :
    ofArguments files ("--cl-ext" :: list :: after) = ofExit .usage := by
  have refused : Invocation.ofArguments ("--cl-ext" :: list :: after) = .error .usage :=
    Invocation.readArguments_apart_refused {} .features looks after
  rw [ofArguments, refused]

/-- After an equals sign a list is refused for its malformed items only. -/
theorem exitCode_features_joined (files : Files) (list : String) :
    let joined := ofArguments files ["--cl-ext=" ++ list]
    (joined.exitCode = 1 ↔ ∃ item ∈ TargetFeatures.items list, FeatureItem.Malformed item) ∧
      (joined.exitCode = 0 ↔ ∀ item ∈ TargetFeatures.items list, ¬ FeatureItem.Malformed item) := by
  intro joined
  have read : joined = ofInvocation files { features := some list } :=
    ofArguments_of_read (Invocation.ofArguments_features list)
  have speaks : ∀ e, ¬ Invocation.LanguageFails { features := some list } files e := by
    rw [← Invocation.exists_language_iff]
    exact ⟨.c .v10, rfl⟩
  have fails : joined.exitCode = 1 ↔
      ∃ item ∈ TargetFeatures.items list, FeatureItem.Malformed item := by
    rw [read, exitCode_eq_one_iff]
    simp only [Invocation.run_eq_error_iff_firstFailure, Invocation.exists_firstFailure_iff, speaks]
    simp
  have zero : joined.exitCode = 0 ↔ ¬ joined.exitCode = 1 := by
    rw [read, exitCode_eq_zero_iff, exitCode_eq_one_iff]
    cases (Invocation.run { features := some list } files).value <;> simp
  refine ⟨fails, ?_⟩
  rw [zero, fails]
  simp

/-- The two spellings of a feature list agree if and only if the list does not look like an
option. Then they agree among any other arguments. A list that does look like one is refused as
an argument of its own, whatever follows it, and accepted after an equals sign as any list is
whose items are well formed. -/
theorem features_spellings (files : Files) (list : String) :
    let apart := ofArguments files ["--cl-ext", list]
    let joined := ofArguments files ["--cl-ext=" ++ list]
    (apart.exitCode = joined.exitCode ∧ apart.stdout = joined.stdout ↔ ¬ LooksLikeOption list) ∧
    (¬ LooksLikeOption list → ∀ before after : List String,
      ofArguments files (before ++ "--cl-ext" :: list :: after) =
        ofArguments files (before ++ ("--cl-ext=" ++ list) :: after)) ∧
    (LooksLikeOption list → ∀ after : List String,
      (ofArguments files ("--cl-ext" :: list :: after)).exitCode = 2 ∧
        (ofArguments files ("--cl-ext" :: list :: after)).stdout = "") ∧
    (joined.exitCode = 1 ↔ ∃ item ∈ TargetFeatures.items list, FeatureItem.Malformed item) ∧
    (joined.exitCode = 0 ↔ ∀ item ∈ TargetFeatures.items list, ¬ FeatureItem.Malformed item) := by
  intro apart joined
  obtain ⟨fails, succeeds⟩ := exitCode_features_joined files list
  have refused (looks : LooksLikeOption list) (after : List String) :
      ofArguments files ("--cl-ext" :: list :: after) = ofExit .usage :=
    ofArguments_features_refused (standsAlone_eq_false_iff.mpr looks) after
  have agreed (plain : ¬ LooksLikeOption list) (before after : List String) :
      ofArguments files (before ++ "--cl-ext" :: list :: after) =
        ofArguments files (before ++ ("--cl-ext=" ++ list) :: after) :=
    ofArguments_features_apart (standsAlone_iff.mpr plain) before after
  refine ⟨⟨?_, ?_⟩, agreed, ?_, fails, succeeds⟩
  · rintro ⟨code, -⟩ looks
    have usage : joined.exitCode = 2 := by
      rw [← code]
      exact congrArg exitCode (refused looks [])
    rw [usage] at fails succeeds
    by_cases malformed : ∃ item ∈ TargetFeatures.items list, FeatureItem.Malformed item
    · exact absurd (fails.mpr malformed) (by decide)
    · exact absurd (succeeds.mpr fun item mem bad => malformed ⟨item, mem, bad⟩) (by decide)
  · intro plain
    have same : apart = joined := agreed plain [] []
    rw [same]
    exact ⟨rfl, rfl⟩
  · intro looks after
    rw [refused looks after]
    exact ⟨rfl, rfl⟩

/-- The list that the help of the option gives as an example. -/
def helpExample : String := "-all,+cl_khr_fp64"

theorem looksLikeOption_helpExample : LooksLikeOption helpExample :=
  ⟨"all,+cl_khr_fp64", by decide, by decide⟩

theorem features_spellings_halfFloats :
    (¬ LooksLikeOption "+cl_khr_fp16" ∧
      ofArguments (fun _ => .error .missing)
          (["--cl-std", "120"] ++ "--cl-ext" :: "+cl_khr_fp16" :: ["--query=cl_khr_fp16"]) =
        ofArguments (fun _ => .error .missing)
          (["--cl-std", "120"] ++ ("--cl-ext=" ++ "+cl_khr_fp16") :: ["--query=cl_khr_fp16"])) ∧
    (LooksLikeOption helpExample ∧
      (ofArguments (fun _ => .error .missing) ("--cl-ext" :: helpExample :: ["--cpp"])).exitCode = 2) := by
  have plain : ¬ LooksLikeOption "+cl_khr_fp16" := standsAlone_iff.mp (by decide)
  have looks := looksLikeOption_helpExample
  obtain ⟨-, agreed, -⟩ := features_spellings (fun _ => .error .missing) "+cl_khr_fp16"
  obtain ⟨-, -, refused, -⟩ := features_spellings (fun _ => .error .missing) helpExample
  exact ⟨⟨plain, agreed plain _ _⟩, looks, (refused looks _).1⟩

/-- The example can be given after an equals sign and not as an argument of its own. -/
theorem helpExample_needs_equals_sign :
    (ofArguments (fun _ => .error .missing) ["--cl-ext", helpExample]).exitCode = 2 ∧
      (ofArguments (fun _ => .error .missing) ["--cl-ext=" ++ helpExample]).exitCode = 0 := by
  have wellFormed : ∀ item ∈ TargetFeatures.items helpExample, ¬ FeatureItem.Malformed item := by
    simp only [← FeatureItem.ofText?_eq_none_iff]
    decide +kernel
  constructor
  · rw [ofArguments_features_refused (standsAlone_eq_false_iff.mpr looksLikeOption_helpExample)]
    rfl
  · exact (exitCode_features_joined _ helpExample).2.mpr wellFormed

end Report

end OpenCLRegistry
