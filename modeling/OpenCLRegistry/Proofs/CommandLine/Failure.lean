import OpenCLRegistry.Proofs.CommandLine.Outcome
import OpenCLRegistry.Proofs.FeatureList.Malformed
import OpenCLRegistry.Proofs.Registry.Accounting

/-!
# Why runs fail

A run fails for one of three reasons: it finds no language, the feature list has a
malformed item, or a name to enable is not in the catalog. What it reports is the
first of them in this order. The reasons are stated without the run, stage by
stage, and the other settings of an invocation do not enter into them. What has been
reported by then goes into the log, which shows none of it unless asked to.
-/
namespace OpenCLRegistry

/-! ## The names to enable -/

/-- The catalog has no option of this name. -/
def Uncatalogued (name : String) : Prop := ∀ row ∈ catalog, row.name ≠ name

namespace Registry

/-- Names are enabled until one is unknown. -/
theorem toExcept_enableAll_eq_error_iff {r : Registry} {names : List String} {e : Error} :
    (r.enableAll names).toExcept = .error e ↔
      ∃ name, IsFirst (fun name => r.isKnown name = false) names name ∧
        e = .unknownExtension name := by
  induction names generalizing r with
  | nil => simp [enableAll, Attempt.toExcept, not_isFirst_nil]
  | cons name rest ih =>
    rw [toExcept_enableAll_cons]
    cases known : r.isKnown name with
    | false =>
      rw [if_neg Bool.false_ne_true]
      simp only [isFirst_cons_iff, known, true_and, not_true_eq_false, false_and, or_false,
        exists_eq_left', Except.error.injEq]
      exact eq_comm
    | true =>
      have kept (other : String) :
          (r.changed (.setEnabled name true)).isKnown other = r.isKnown other :=
        isKnown_changed_of_brought rfl r
      rw [if_pos rfl, ih]
      simp only [isFirst_cons_iff, kept, known, Bool.true_eq_false, false_and, not_false_eq_true,
        true_and, false_or]

theorem isKnown_initial_eq_false_iff {name : String} :
    initial.isKnown name = false ↔ Uncatalogued name := by
  rw [← Bool.not_eq_true, isKnown_initial_iff]
  simp [Uncatalogued]

end Registry

/-! ## The language -/

theorem Language.ofNumbers_eq_error_iff {n : UInt32} {cplusplus : Bool} {e : Error} :
    ofNumbers n cplusplus = .error e ↔
      cplusplus = false ∧ (∀ v : Version, v.number ≠ n) ∧ e = .unknownVersion n := by
  have unknown : Version.ofNumber? n = none ↔ ∀ v : Version, v.number ≠ n := by
    simp [Version.ofNumber?, Version.mem_all]
  cases cplusplus with
  | true => simp [ofNumbers]
  | false =>
    rw [ofNumbers, ← unknown]
    cases Version.ofNumber? n <;> simp [eq_comm]

namespace Invocation

/-- Why no language is found: the file that is named cannot be read, its text is refused, or
the version is not one of C while C++ mode is off. -/
inductive LanguageFails (i : Invocation) (files : Files) : Error → Prop
  | unreadable {path : String} {fault : FileFault} :
      i.configuration = some path → files path = .error fault →
      LanguageFails i files (.unreadableFile (path ++ ": " ++ fault.message))
  | refused {path text : String} {e : Error} :
      i.configuration = some path → files path = .ok text → Language.ofText text = .error e →
      LanguageFails i files e
  | unknownVersion :
      i.configuration = none → i.cplusplus = false →
      (∀ v : Version, v.number ≠ i.version.getD Language.unstatedVersion) →
      LanguageFails i files (.unknownVersion (i.version.getD Language.unstatedVersion))

theorem language_eq_error_iff {i : Invocation} {files : Files} {e : Error} :
    i.language files = .error e ↔ i.LanguageFails files e := by
  constructor
  · intro failed
    unfold language at failed
    split at failed
    · rename_i path named
      split at failed
      · rename_i text stored
        exact .refused named stored failed
      · rename_i fault stored
        cases failed
        exact .unreadable named stored
    · rename_i unnamed
      obtain ⟨plain, unknown, rfl⟩ := Language.ofNumbers_eq_error_iff.mp failed
      exact .unknownVersion unnamed plain unknown
  · intro failed
    cases failed with
    | unreadable named stored => simp only [language, named, stored]
    | refused named stored failed => simp only [language, named, stored, failed]
    | unknownVersion unnamed plain unknown =>
      simp only [language, unnamed]
      exact Language.ofNumbers_eq_error_iff.mpr ⟨plain, unknown, rfl⟩

/-! ## Runs -/

/-- The first reason for which a run fails: the language, the feature list from its left, and
the names to enable in their order. -/
inductive FirstFailure (i : Invocation) (files : Files) : Error → Prop
  | language {e : Error} : i.LanguageFails files e → FirstFailure i files e
  | features {item : List Char} :
      (∀ e, ¬ i.LanguageFails files e) →
      IsFirst FeatureItem.Malformed (TargetFeatures.items (i.features.getD "")) item →
      FirstFailure i files (.invalidFeature (String.ofList item))
  | enables {name : String} :
      (∀ e, ¬ i.LanguageFails files e) →
      (∀ item ∈ TargetFeatures.items (i.features.getD ""), ¬ FeatureItem.Malformed item) →
      IsFirst Uncatalogued i.enables name →
      FirstFailure i files (.unknownExtension name)

theorem toExcept_enableAll_adopt_eq_error_iff {l : Language} {features : TargetFeatures}
    {names : List String} {e : Error} :
    ((Registry.initial.changed (.adopt features l)).enableAll names).toExcept = .error e ↔
      ∃ name, IsFirst Uncatalogued names name ∧ e = .unknownExtension name := by
  have kept (name : String) :
      (Registry.initial.changed (.adopt features l)).isKnown name = Registry.initial.isKnown name :=
    Registry.isKnown_changed_of_brought rfl _
  simp only [Registry.toExcept_enableAll_eq_error_iff, kept,
    Registry.isKnown_initial_eq_false_iff]

theorem toExcept_registry_eq_error_iff {i : Invocation} {l : Language} {e : Error} :
    (i.registry l).toExcept = .error e ↔
      TargetFeatures.ofList .initial (i.features.getD "") = .error e ∨
      (∃ features, TargetFeatures.ofList .initial (i.features.getD "") = .ok features) ∧
        ∃ name, IsFirst Uncatalogued i.enables name ∧ e = .unknownExtension name := by
  cases parsed : TargetFeatures.ofList .initial (i.features.getD "") with
  | error e' => simp [toExcept_registry_of_refused parsed]
  | ok features =>
    rw [toExcept_registry_of_parsed parsed, ← @toExcept_enableAll_adopt_eq_error_iff l features]
    cases ((Registry.initial.changed (.adopt features l)).enableAll i.enables).toExcept <;>
      simp [Except.map]

theorem run_eq_error_iff {i : Invocation} {files : Files} {e : Error} :
    (i.run files).value = .error e ↔
      i.language files = .error e ∨
        ∃ l, i.language files = .ok l ∧ (i.registry l).toExcept = .error e := by
  rw [run]
  cases i.language files with
  | error e' => simp
  | ok l =>
    simp only [reduceCtorEq, false_or, Except.ok.injEq, exists_eq_left']
    cases (i.registry l).toExcept <;> simp [Except.map]

theorem exists_language_iff {i : Invocation} {files : Files} :
    (∃ l, i.language files = .ok l) ↔ ∀ e, ¬ i.LanguageFails files e := by
  simp only [← language_eq_error_iff]
  cases i.language files <;> simp

/-- A run fails for its first reason to fail. -/
theorem run_eq_error_iff_firstFailure {i : Invocation} {files : Files} {e : Error} :
    (i.run files).value = .error e ↔ i.FirstFailure files e := by
  rw [run_eq_error_iff, language_eq_error_iff]
  constructor
  · rintro (failed | ⟨l, found, failed⟩)
    · exact .language failed
    · have language := exists_language_iff.mp ⟨l, found⟩
      rcases toExcept_registry_eq_error_iff.mp failed with refused | ⟨parsed, name, first, rfl⟩
      · obtain ⟨item, first, rfl⟩ := TargetFeatures.ofList_eq_error_iff.mp refused
        exact .features language first
      · exact .enables language ((TargetFeatures.exists_ofList_iff _).mp parsed) first
  · intro failed
    cases failed with
    | language failed => exact .inl failed
    | features language first =>
      obtain ⟨l, found⟩ := exists_language_iff.mpr language
      have refused := (@TargetFeatures.ofList_eq_error_iff .initial _ _).mpr ⟨_, first, rfl⟩
      exact .inr ⟨l, found, toExcept_registry_eq_error_iff.mpr (.inl refused)⟩
    | enables language wellFormed first =>
      obtain ⟨l, found⟩ := exists_language_iff.mpr language
      have parsed := (TargetFeatures.exists_ofList_iff .initial).mpr wellFormed
      exact .inr ⟨l, found, toExcept_registry_eq_error_iff.mpr (.inr ⟨parsed, _, first, rfl⟩)⟩

theorem run_eq_error_congr (i : Invocation) (clearEnabled enableCore : Bool)
    (query : Option String) (files : Files) (e : Error) :
    ({ i with clearEnabled, enableCore, query }.run files).value = .error e ↔
      (i.run files).value = .error e := by
  simp only [run_eq_error_iff, toExcept_registry_eq_error_iff]
  exact Iff.rfl

/-- A run fails if and only if one of its three parts does. -/
theorem exists_firstFailure_iff {i : Invocation} {files : Files} :
    (∃ e, i.FirstFailure files e) ↔
      (∃ e, i.LanguageFails files e) ∨
        (∃ item ∈ TargetFeatures.items (i.features.getD ""), FeatureItem.Malformed item) ∨
          ∃ name ∈ i.enables, Uncatalogued name := by
  constructor
  · rintro ⟨e, failed⟩
    cases failed with
    | language failed => exact .inl ⟨e, failed⟩
    | features _ first => exact .inr (.inl (exists_isFirst_iff.mp ⟨_, first⟩))
    | enables _ _ first => exact .inr (.inr (exists_isFirst_iff.mp ⟨_, first⟩))
  · intro fails
    by_cases language : ∃ e, i.LanguageFails files e
    · obtain ⟨e, failed⟩ := language
      exact ⟨e, .language failed⟩
    · have found := not_exists.mp language
      have others := fails.resolve_left language
      by_cases list : ∃ item ∈ TargetFeatures.items (i.features.getD ""),
          FeatureItem.Malformed item
      · obtain ⟨item, first⟩ := exists_isFirst_iff.mpr list
        exact ⟨_, .features found first⟩
      · obtain ⟨name, first⟩ := exists_isFirst_iff.mpr (others.resolve_left list)
        refine ⟨_, .enables found (fun item mem malformed => ?_) first⟩
        exact list ⟨item, mem, malformed⟩

end Invocation

/-! ## The log of a run -/

theorem Registry.level_of_mem_adopt {r : Registry} {features : TargetFeatures} {l : Language}
    {event : Event} (mem : event ∈ (r.adopt features l).events) : event.level ≠ .warn := by
  have level := List.mem_map_of_mem (f := Event.level) mem
  rw [levels_adopt, List.mem_append] at level
  rcases level with traced | last
  · rw [List.eq_of_mem_replicate traced]
    decide
  · rw [List.mem_singleton.mp last]
    decide

/-- The names up to the first unknown one are reported, also if there is one. -/
theorem Registry.events_enableAll (r : Registry) (names : List String) :
    (r.enableAll names).events =
      (names.takeWhile r.isKnown).map fun name => .enabledSet name true := by
  induction names generalizing r with
  | nil => rfl
  | cons name rest ih =>
    rw [enableAll]
    cases known : r.isKnown name with
    | true =>
      have kept : (r.changed (.setEnabled name true)).isKnown = r.isKnown :=
        funext fun other => isKnown_changed_of_brought rfl r
      have later := ih (r.changed (.setEnabled name true))
      rw [kept] at later
      rw [setEnabled, edit_of_known known, List.takeWhile_cons_of_pos known, List.map_cons, ← later]
      rfl
    | false =>
      rw [setEnabled, edit_of_unknown known, List.takeWhile_cons_of_neg (by simp [known])]
      rfl

namespace Invocation

theorem level_of_mem_registry {i : Invocation} {l : Language} {event : Event}
    (mem : event ∈ (i.registry l).events) : event.level ≠ .warn := by
  unfold registry at mem
  split at mem
  · cases mem
  · rcases Attempt.mem_events_thenIf mem with earlier | core
    · rcases Attempt.mem_events_thenIf earlier with earlier | cleared
      · rcases Attempt.mem_events_andThen earlier with adopted | named
        · exact Registry.level_of_mem_adopt adopted
        · rw [Registry.events_enableAll] at named
          obtain ⟨name, -, rfl⟩ := List.mem_map.mp named
          exact show LogLevel.debug ≠ .warn by decide
      · rw [List.mem_singleton.mp cleared]
        exact show LogLevel.debug ≠ .warn by decide
    · rw [List.mem_singleton.mp core]
      exact show LogLevel.debug ≠ .warn by decide

theorem level_of_mem_run {i : Invocation} {files : Files} {event : Event}
    (mem : event ∈ (i.run files).events) : event.level ≠ .warn := by
  unfold run at mem
  split at mem
  · cases mem
  · exact level_of_mem_registry mem

/-- No run reports anything that is logged without being asked for. -/
theorem logged_events_run {i : Invocation} (silent : i.verbosity = 0) (files : Files) :
    i.logged (i.run files).events = [] := by
  refine List.filter_eq_nil_iff.mpr fun event mem => ?_
  have level := level_of_mem_run mem
  rw [logLevel, if_pos silent]
  revert level
  cases event.level <;> decide

end Invocation

namespace Report

theorem ofInvocation_of_error {i : Invocation} {files : Files} {e : Error}
    (failed : (i.run files).value = .error e) :
    ofInvocation files i =
      { exitCode := 1, stderr := e.message ++ "\n", log := i.logged (i.run files).events } := by
  simp only [ofInvocation, failed]

theorem ofInvocation_of_ok {i : Invocation} {files : Files} {shown : Json}
    (done : (i.run files).value = .ok shown) :
    ofInvocation files i =
      { exitCode := 0
        stdout := shown.ascendingKeys.pretty ++ "\n"
        log := i.logged (i.run files).events } := by
  simp only [ofInvocation, done]

theorem ofArguments_of_read {files : Files} {args : List String} {i : Invocation}
    (read : Invocation.ofArguments args = .ok i) : ofArguments files args = ofInvocation files i := by
  simp only [ofArguments, read]

theorem exitCode_eq_one_iff {i : Invocation} {files : Files} :
    (ofInvocation files i).exitCode = 1 ↔ ∃ e, (i.run files).value = .error e := by
  rw [ofInvocation]
  cases (i.run files).value <;> simp

theorem exitCode_eq_zero_iff {i : Invocation} {files : Files} :
    (ofInvocation files i).exitCode = 0 ↔ ∃ shown, (i.run files).value = .ok shown := by
  rw [ofInvocation]
  cases (i.run files).value <;> simp

/-- Two runs that fail alike, if at all, have the same exit code and message. -/
theorem ofInvocation_congr_of_error {i j : Invocation} {files : Files}
    (same : ∀ e, (i.run files).value = .error e ↔ (j.run files).value = .error e) :
    (ofInvocation files i).exitCode = (ofInvocation files j).exitCode ∧
      (ofInvocation files i).stderr = (ofInvocation files j).stderr := by
  cases ran : (j.run files).value with
  | error e =>
    rw [ofInvocation_of_error ran, ofInvocation_of_error ((same e).mpr ran)]
    exact ⟨rfl, rfl⟩
  | ok shown =>
    cases ran' : (i.run files).value with
    | error e =>
      rw [(same e).mp ran'] at ran
      cases ran
    | ok shown' =>
      rw [ofInvocation_of_ok ran, ofInvocation_of_ok ran']
      exact ⟨rfl, rfl⟩

/-- Arguments that can be read lead to a failure if and only if the language, the feature list
or a name to enable fails. The report then says nothing but the message of the first failure,
and otherwise the run succeeds. Neither clearing flags, nor enabling core features, nor asking
about a name makes a difference to this. -/
theorem first_failure_reported {files : Files} {args : List String} {i : Invocation}
    (read : Invocation.ofArguments args = .ok i) :
    let report := ofArguments files args
    (report.exitCode = 1 ↔
      (∃ e, i.LanguageFails files e) ∨
        (∃ item ∈ TargetFeatures.items (i.features.getD ""), FeatureItem.Malformed item) ∨
          ∃ name ∈ i.enables, Uncatalogued name) ∧
    (report.exitCode = 1 → ∃ e, i.FirstFailure files e ∧ report.stdout = "" ∧
      (i.verbosity = 0 → report.log = [] ∧ report.stderr = e.message ++ "\n")) ∧
    (report.exitCode ≠ 1 → report.exitCode = 0) ∧
    ∀ (other : List String) (clearEnabled enableCore : Bool) (query : Option String),
      Invocation.ofArguments other = .ok { i with clearEnabled, enableCore, query } →
      (ofArguments files other).exitCode = report.exitCode ∧
        (ofArguments files other).stderr = report.stderr := by
  intro report
  have fails : report.exitCode = 1 ↔ ∃ e, (i.run files).value = .error e := by
    rw [← exitCode_eq_one_iff, ← ofArguments_of_read read]
  have succeeds : report.exitCode = 0 ↔ ∃ shown, (i.run files).value = .ok shown := by
    rw [← exitCode_eq_zero_iff, ← ofArguments_of_read read]
  refine ⟨?_, fun failed => ?_, fun succeeded => ?_, ?_⟩
  · simp only [fails, Invocation.run_eq_error_iff_firstFailure, Invocation.exists_firstFailure_iff]
  · obtain ⟨e, failed⟩ := fails.mp failed
    have said : report =
        { exitCode := 1
          stderr := e.message ++ "\n"
          log := i.logged (i.run files).events } := by
      rw [← ofInvocation_of_error failed, ← ofArguments_of_read read]
    rw [said]
    exact ⟨e, Invocation.run_eq_error_iff_firstFailure.mp failed, rfl,
      fun silent => ⟨Invocation.logged_events_run silent files, rfl⟩⟩
  · rw [succeeds]
    rw [ne_eq, fails] at succeeded
    cases ran : (i.run files).value with
    | error e => exact absurd ⟨e, ran⟩ succeeded
    | ok shown => exact ⟨shown, rfl⟩
  · intro other clearEnabled enableCore query read'
    have same (e : Error) := i.run_eq_error_congr clearEnabled enableCore query files e
    have agree := ofInvocation_congr_of_error same
    rwa [← ofArguments_of_read read, ← ofArguments_of_read read'] at agree

/-- A sign is missing, a name is unknown, and all flags would be cleared. -/
def misspelt : List String :=
  ["--disable-all", "--enable=cl_nope", "--cl-ext", "+cl_khr_fp16, fp64,-", "--cl-std=120"]

/-- What those arguments ask for. -/
def misspeltInvocation : Invocation :=
  { version := some 120, features := some "+cl_khr_fp16, fp64,-", enables := ["cl_nope"]
    clearEnabled := true }

theorem first_failure_reported_misspelt :
    Invocation.ofArguments misspelt = .ok misspeltInvocation ∧
      (ofArguments (fun _ => .error .missing) misspelt).exitCode = 1 ∧
      misspeltInvocation.FirstFailure (fun _ => .error .missing) (.invalidFeature "fp64") ∧
      (ofArguments (fun _ => .error .missing) misspelt).stderr =
        "invalid feature item: \"fp64\"\n" ∧
      (ofArguments (fun _ => .error .missing) ("--query=fp64" :: misspelt.drop 1)).stderr =
        "invalid feature item: \"fp64\"\n" := by
  have read : Invocation.ofArguments misspelt = .ok misspeltInvocation := by decide +kernel
  have asked : Invocation.ofArguments ("--query=fp64" :: misspelt.drop 1) =
      .ok { misspeltInvocation with clearEnabled := false, query := some "fp64" } := by
    decide +kernel
  have refused : TargetFeatures.ofList .initial "+cl_khr_fp16, fp64,-" =
      .error (.invalidFeature "fp64") := by decide +kernel
  have found : misspeltInvocation.language (fun _ => .error .missing) = .ok (.c .v12) := rfl
  have ran : (misspeltInvocation.run (fun _ => .error .missing)).value =
      .error (.invalidFeature "fp64") :=
    Invocation.run_eq_error_iff.mpr
      (.inr ⟨.c .v12, found, Invocation.toExcept_registry_eq_error_iff.mpr (.inl refused)⟩)
  have malformed : ∃ item ∈ TargetFeatures.items (misspeltInvocation.features.getD ""),
      FeatureItem.Malformed item := by
    refine ⟨"fp64".toList, by decide +kernel, ?_⟩
    exact (FeatureItem.ofText?_eq_none_iff _).mp (by decide)
  obtain ⟨fails, message, -, others⟩ := @first_failure_reported (fun _ => .error .missing) _ _ read
  have failed := fails.mpr (.inr (.inl malformed))
  obtain ⟨e, first, -, quiet⟩ := message failed
  have same := (Invocation.run_eq_error_iff_firstFailure.mpr first).symm.trans ran
  obtain rfl := Except.error.inj same
  have said : (ofArguments (fun _ => .error .missing) misspelt).stderr =
      "invalid feature item: \"fp64\"\n" := by
    rw [(quiet rfl).2]
    decide +kernel
  exact ⟨read, failed, first, said, (others _ _ _ _ asked).2.trans said⟩

end Report

end OpenCLRegistry
