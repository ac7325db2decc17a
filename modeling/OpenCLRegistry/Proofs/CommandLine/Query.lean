import OpenCLRegistry.Proofs.CommandLine.Output
import OpenCLRegistry.Proofs.Registry.Support
import OpenCLRegistry.Proofs.Snapshot.Canonical

/-!
# Asking about a name

Arguments can be put behind a question about a name. The run then fails as it
would have failed without the question, and where it succeeds it prints the
answers in place of the snapshot. The answers are read back here by a reader of
their own and compared with the entry that the snapshot has under the name.
-/
namespace OpenCLRegistry

open Json Json.RecordFormat

/-- The answers about one name, as a reader of the output has them. -/
structure Answers where
  name : String := ""
  known : Bool := false
  enabled : Bool := false
  supported : Bool := false
  supportedAsCore : Bool := false
  supportedAsOptionalCore : Bool := false
  supportedAsExtension : Bool := false
deriving DecidableEq

namespace Answers

/-- The answers that a registry gives. -/
def about (r : Registry) (l : Language) (name : String) : Answers where
  name
  known := r.isKnown name
  enabled := r.isEnabled name
  supported := r.isSupported name l
  supportedAsCore := r.isSupportedAsCore name l
  supportedAsOptionalCore := r.isSupportedAsOptionalCore name l
  supportedAsExtension := r.isSupportedAsExtension name l

/-! ## Answers as text -/

def format : RecordFormat Answers where
  name := "Answers"
  fields := [
    ⟨"name", true, Reader.text.map fun name a => { a with name }⟩,
    ⟨"known", true, Reader.flag.map fun known a => { a with known }⟩,
    ⟨"enabled", true, Reader.flag.map fun enabled a => { a with enabled }⟩,
    ⟨"supported", true, Reader.flag.map fun supported a => { a with supported }⟩,
    ⟨"supported_core", true,
      Reader.flag.map fun supportedAsCore a => { a with supportedAsCore }⟩,
    ⟨"supported_optional_core", true,
      Reader.flag.map fun supportedAsOptionalCore a => { a with supportedAsOptionalCore }⟩,
    ⟨"supported_extension", true,
      Reader.flag.map fun supportedAsExtension a => { a with supportedAsExtension }⟩]
  start := {}

def ofText (text : String) : Except String Answers := readDocument format.reader .ok text

/-- The values of the fields in their order. -/
def values (a : Answers) : List Json :=
  [.str a.name, .bool a.known, .bool a.enabled, .bool a.supported, .bool a.supportedAsCore,
    .bool a.supportedAsOptionalCore, .bool a.supportedAsExtension]

/-- A value gives exactly the answers. -/
def WrittenAs (a : Answers) (j : Json) : Prop :=
  Presents ["name", "known", "enabled", "supported", "supported_core", "supported_optional_core",
    "supported_extension"] a.values j

/-- What the value of a field changes in the answers. -/
def change : Changes Answers := fun key j =>
  match key with
  | "name" => (text? j).map fun name a => { a with name }
  | "known" => (flag? j).map fun known a => { a with known }
  | "enabled" => (flag? j).map fun enabled a => { a with enabled }
  | "supported" => (flag? j).map fun supported a => { a with supported }
  | "supported_core" => (flag? j).map fun supportedAsCore a => { a with supportedAsCore }
  | "supported_optional_core" =>
    (flag? j).map fun supportedAsOptionalCore a => { a with supportedAsOptionalCore }
  | "supported_extension" =>
    (flag? j).map fun supportedAsExtension a => { a with supportedAsExtension }
  | _ => none

theorem decodes_fields : ∀ field ∈ format.fields, field.change.Decodes (change field.key) := by
  intro field mem
  simp only [format, List.mem_cons, List.not_mem_nil, or_false] at mem
  rcases mem with rfl | flag
  · exact Reader.decodes_text.map _
  · rcases flag with rfl | rfl | rfl | rfl | rfl | rfl <;> exact Reader.decodes_flag.map _

theorem commute_change : change.Commute := by
  intro key other ne j i f g hf hg record
  unfold change at hf hg
  split at hf <;> split at hg <;> try contradiction
  all_goals
    obtain ⟨a, -, rfl⟩ := Option.map_eq_some_iff.mp hf
    obtain ⟨b, -, rfl⟩ := Option.map_eq_some_iff.mp hg
    rfl

theorem ofItems_values (a : Answers) : ofItems change format.fields {} a.values = some a := rfl

theorem decode_of_writtenAs {a : Answers} {j : Json} (written : a.WrittenAs j) :
    format.decode change j = some a :=
  (RecordFormat.decode_eq_some_iff commute_change (by decide) (by decide)).mpr
    ⟨a.values, written, a.ofItems_values⟩

theorem writtenAs_answers (r : Registry) (l : Language) (name : String) :
    (about r l name).WrittenAs (r.answers l name) := by
  refine .object ?_
  repeat refine .cons (by simp [valuesAt, about]) ?_
  exact .nil

/-- The printed form of answers is read as the answers. -/
theorem ofText_printed (r : Registry) (l : Language) (name : String) :
    ofText ((r.answers l name).ascendingKeys.pretty ++ "\n") = .ok (about r l name) := by
  have written : (about r l name).WrittenAs (r.answers l name).ascendingKeys :=
    Presents.sorted (writtenAs_answers r l name)
  exact (readDocument_eq_ok_iff (decodes_reader decodes_fields) (spellsDocument_line _)).mpr
    ⟨_, decode_of_writtenAs written, rfl⟩

end Answers

/-! ## What the answers say of an entry -/

/-- The answers about a name agree with the entries that a snapshot has under it. -/
structure Answers.Agree (a : Answers) (s : Snapshot) (v : Version) (name : String) : Prop where
  name_eq : a.name = name
  known_iff : a.known = true ↔ ∃ e ∈ s.entries, e.name = name
  enabled_eq : ∀ e ∈ s.entries, e.name = name → a.enabled = e.enabled
  core_iff : ∀ e ∈ s.entries, e.name = name →
    (a.supportedAsCore = true ↔
      e.supported = true ∧ e.since ≤ v.number ∧ e.core.bits &&& (VersionSet.only v).bits ≠ 0)
  optionalCore_iff : ∀ e ∈ s.entries, e.name = name →
    (a.supportedAsOptionalCore = true ↔
      e.supported = true ∧ e.since ≤ v.number ∧
        e.optionalCore.bits &&& (VersionSet.only v).bits ≠ 0 ∧
        e.core.bits &&& (VersionSet.only v).bits = 0)
  extension_iff : ∀ e ∈ s.entries, e.name = name →
    (a.supportedAsExtension = true ↔
      e.supported = true ∧ e.enabled = true ∧ e.since ≤ v.number ∧
        e.core.bits &&& (VersionSet.only v).bits = 0 ∧
        e.optionalCore.bits &&& (VersionSet.only v).bits = 0)
  supported_eq : a.supported =
    (a.supportedAsCore || a.supportedAsOptionalCore || a.supportedAsExtension)
  exclusive : [a.supportedAsCore, a.supportedAsOptionalCore, a.supportedAsExtension].Pairwise
    fun x y => ¬ (x = true ∧ y = true)
  unknown : (∀ e ∈ s.entries, e.name ≠ name) →
    a = { name, known := false, enabled := false, supported := false, supportedAsCore := false,
          supportedAsOptionalCore := false, supportedAsExtension := false }

/-- The answers of a registry agree with its snapshot. -/
theorem Answers.agree_snapshot (r : Registry) (l : Language) (name : String) :
    (about r l name).Agree r.snapshot l.effective name := by
  have found {e : SavedRecord} (mem : e ∈ r.snapshot.entries) (named : e.name = name) :
      r.find? name = some e.toRecord := by
    rw [← named]
    exact Registry.mem_snapshot_iff.mp mem
  constructor
  case name_eq => rfl
  case known_iff =>
    rw [about, Registry.isKnown_eq_isSome_find?, Option.isSome_iff_exists]
    constructor
    · rintro ⟨record, found⟩
      exact ⟨{ record with name }, Registry.mem_snapshot_iff.mpr found, rfl⟩
    · rintro ⟨e, mem, named⟩
      exact ⟨e.toRecord, found mem named⟩
  case enabled_eq =>
    intro e mem named
    simp only [about, Registry.isEnabled, found mem named, Option.any_some]
  case core_iff =>
    intro e mem named
    simp only [about, Registry.isSupportedAsCore, found mem named, Option.any_some]
    exact e.supportedAsCoreIn_iff l
  case optionalCore_iff =>
    intro e mem named
    simp only [about, Registry.isSupportedAsOptionalCore, found mem named, Option.any_some]
    exact e.supportedAsOptionalCoreIn_iff l
  case extension_iff =>
    intro e mem named
    simp only [about, Registry.isSupportedAsExtension, found mem named, Option.any_some]
    exact e.supportedAsExtensionIn_iff l
  case supported_eq => exact r.isSupported_eq_or name l
  case exclusive => exact r.exclusive_ways name l
  case unknown =>
    intro apart
    have missing : r.find? name = none := by
      by_contra known
      obtain ⟨record, found⟩ := Option.ne_none_iff_exists'.mp known
      exact apart { record with name } (Registry.mem_snapshot_iff.mpr found) rfl
    simp only [about, Registry.isKnown_eq_isSome_find?, Registry.isEnabled, Registry.isSupported,
      Registry.isSupportedAsCore, Registry.isSupportedAsOptionalCore,
      Registry.isSupportedAsExtension, missing]
    rfl

/-! ## Runs with a question -/

theorem Argument.ofText_query (name : String) :
    ofText ("--query=" ++ name) = .setting (.query name) := by
  have text : "--query=" = "--" ++ OptionKey.query.name ++ "=" := by decide
  rw [text, ofText_joined]
  rfl

/-- Arguments that ask nothing can be put behind a question about any text. -/
theorem Invocation.ofArguments_query {args : List String}
    (unasked : ∀ arg ∈ args, ¬ Argument.Uses "query" arg) {i : Invocation}
    (read : ofArguments args = .ok i) (name : String) :
    ofArguments (("--query=" ++ name) :: args) = .ok (i.asking (some name)) := by
  have asked : ofArguments (("--query=" ++ name) :: args) =
      (asking (some name) {}).readArguments args :=
    readArguments_sets (.joined (Argument.ofText_query name)) rfl args
  rw [asked, readArguments_asking (some name) unasked]
  exact congrArg (Except.map (asking (some name))) read

namespace Report

/-- A question about any text, put before arguments that ask none, leaves the exit code as it
is. After success the output is read as answers to the question, and these agree with the entry
that the output without the question has under that name. -/
theorem query_agrees {files : Files} {args : List String} {i : Invocation}
    (read : Invocation.ofArguments args = .ok i)
    (unasked : ∀ arg ∈ args, ¬ Argument.Uses "query" arg) (name : String) :
    let whole := ofArguments files args
    let asked := ofArguments files (("--query=" ++ name) :: args)
    asked.exitCode = whole.exitCode ∧
      (whole.exitCode = 0 → ∃ l s a, i.language files = .ok l ∧
        Snapshot.ofText whole.stdout = .ok s ∧ Answers.ofText asked.stdout = .ok a ∧
        a.Agree s l.effective name) := by
  intro whole asked
  have wholeRun : whole = ofInvocation files i := ofArguments_of_read read
  have askedRun : asked = ofInvocation files (i.asking (some name)) :=
    ofArguments_of_read (Invocation.ofArguments_query unasked read name)
  have same (e : Error) :=
    i.run_eq_error_congr i.clearEnabled i.enableCore (some name) files e
  have code : asked.exitCode = whole.exitCode := by
    rw [wholeRun, askedRun]
    exact (ofInvocation_congr_of_error same).1
  refine ⟨code, fun succeeded => ?_⟩
  have succeeded' := code.trans succeeded
  rw [wholeRun] at succeeded
  rw [askedRun] at succeeded'
  obtain ⟨shown, ran⟩ := exitCode_eq_zero_iff.mp succeeded
  obtain ⟨shown', ran'⟩ := exitCode_eq_zero_iff.mp succeeded'
  obtain ⟨l, built, found, described, value⟩ := Invocation.run_eq_ok ran
  obtain ⟨l', built', found', described', value'⟩ := Invocation.run_eq_ok ran'
  cases found.symm.trans found'
  cases described.symm.trans described'
  rw [Invocation.shown, Invocation.query_eq_none unasked read] at value
  refine ⟨l, built.snapshot, .about built l name, found, ?_, ?_,
    Answers.agree_snapshot built l name⟩
  · rw [wholeRun, ofInvocation_of_ok ran, value]
    exact Snapshot.ofText_printed _
  · rw [askedRun, ofInvocation_of_ok ran', value']
    exact Answers.ofText_printed built l name

/-- Of the extension that is reported there, the output says that it is supported. -/
theorem entry_enabling {s : Snapshot}
    (printed : Snapshot.ofText (ofArguments (fun _ => .error .missing) enabling).stdout = .ok s) :
    ∃ e ∈ s.entries, e.name = "cl_khr_fp64" ∧ e.supported = true ∧
      e.toMetadata = { since := 100, optionalCore := .since12 } := by
  obtain ⟨features, parsed, ran⟩ := run_enablingInvocation
  have described := @Invocation.describes_after_changes enablingInvocation features parsed (.c .v12)
  have kept := enablingInvocation.metadata?_after_changes (.c .v12) features "cl_khr_fp64"
  generalize Registry.initial.after (enablingInvocation.changes (.c .v12) features) = r at *
  have same : r.snapshot = s := by
    rw [ofArguments_of_read ofArguments_enabling, ofInvocation_of_ok ran,
      Snapshot.ofText_printed] at printed
    exact Except.ok.inj printed
  have metadata : r.metadata? "cl_khr_fp64" = some { since := 100, optionalCore := .since12 } := by
    have listed : CatalogRow.optionalCoreFeature "cl_khr_fp64" 100 .since12 ∈ catalog := by
      decide +kernel
    have start := Registry.metadata?_initial listed
    rw [kept]
    exact start
  obtain ⟨record, found, known⟩ := Registry.metadata?_eq_some_iff.mp metadata
  have supported := described.supported _ record found
  refine ⟨{ record with name := "cl_khr_fp64" }, ?_, rfl, supported.mpr ⟨?_, ?_⟩, known⟩
  · rw [← same]
    exact Registry.mem_snapshot_iff.mpr found
  · rw [known]
    decide
  · decide +kernel

theorem query_agrees_quoted :
    let whole := ofArguments (fun _ => .error .missing) enabling
    let quoted := ofArguments (fun _ => .error .missing) ("--query=\"fp64\"\n" :: enabling)
    let listed := ofArguments (fun _ => .error .missing) ("--query=cl_khr_fp64" :: enabling)
    quoted.exitCode = 0 ∧
      (∃ s a, Snapshot.ofText whole.stdout = .ok s ∧ Answers.ofText quoted.stdout = .ok a ∧
        a.name = "\"fp64\"\n" ∧ (a.known = true ↔ ∃ e ∈ s.entries, e.name = "\"fp64\"\n")) ∧
      ∃ a, Answers.ofText listed.stdout = .ok a ∧ a.known = true ∧ a.supported = true ∧
        a.supportedAsCore = false ∧ a.supportedAsOptionalCore = true := by
  have unasked : ∀ arg ∈ enabling, ¬ Argument.Uses "query" arg := by decide +kernel
  obtain ⟨code, answered⟩ := query_agrees ofArguments_enabling unasked "\"fp64\"\n"
  obtain ⟨l, s, a, -, whole, read, agree⟩ := answered exitCode_enabling
  obtain ⟨-, answered'⟩ := query_agrees ofArguments_enabling unasked "cl_khr_fp64"
  obtain ⟨l', s', a', found, whole', read', agree'⟩ := answered' exitCode_enabling
  cases found
  obtain ⟨e, mem, named, supported, metadata⟩ := entry_enabling whole'
  have optionalCore : a'.supportedAsOptionalCore = true := by
    refine (agree'.optionalCore_iff e mem named).mpr ⟨supported, ?_⟩
    rw [metadata]
    decide
  have core : a'.supportedAsCore = false := by
    rw [← Bool.not_eq_true, agree'.core_iff e mem named, metadata]
    rintro ⟨-, -, bit⟩
    exact absurd bit (by decide)
  refine ⟨code.trans exitCode_enabling,
    ⟨s, a, whole, read, agree.name_eq, agree.known_iff⟩,
    a', read', agree'.known_iff.mpr ⟨e, mem, named⟩, ?_, core, optionalCore⟩
  rw [agree'.supported_eq, core, optionalCore]
  rfl

end Report

end OpenCLRegistry
