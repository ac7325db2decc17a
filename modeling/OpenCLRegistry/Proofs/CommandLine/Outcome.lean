import OpenCLRegistry.CommandLine.Report
import OpenCLRegistry.Proofs.FeatureList
import OpenCLRegistry.Proofs.Registry.Report
import OpenCLRegistry.Proofs.Registry.Start

/-!
# What an invocation makes of the registry

The settings of an invocation stand for a run of changes, and that run settles
each record by itself: the feature list and the version decide whether it is
supported, the names to enable and the two bulk changes whether it is enabled.
Nothing else of an invocation counts, so neither the order nor the repetition of
the names does, and the bulk changes alone lead to a compilation's start.
-/
namespace OpenCLRegistry

namespace Registry

/-- Enabling names goes on as long as they are known. -/
theorem toExcept_enableAll_cons (r : Registry) (name : String) (rest : List String) :
    (r.enableAll (name :: rest)).toExcept =
      if r.isKnown name then ((r.changed (.setEnabled name true)).enableAll rest).toExcept
      else .error (.unknownExtension name) := by
  rw [enableAll, Attempt.toExcept_andThen, toExcept_setEnabled]
  cases r.isKnown name <;> rfl

/-- Known names are enabled to the last. -/
theorem toExcept_enableAll_of_known {r : Registry} {names : List String}
    (known : ∀ name ∈ names, r.isKnown name = true) :
    (r.enableAll names).toExcept = .ok (r.after (names.map fun name => .setEnabled name true)) := by
  induction names generalizing r with
  | nil => rfl
  | cons name rest ih =>
    have others := @ih (r.changed (.setEnabled name true)) fun other mem =>
      isKnown_changed (known other (List.mem_cons_of_mem _ mem)) (.setEnabled name true)
    rw [toExcept_enableAll_cons, if_pos (known name List.mem_cons_self), others]
    rfl

end Registry

namespace Invocation

open Registry

/-- The changes that the settings stand for, in the order in which they are made. -/
def changes (i : Invocation) (l : Language) (features : TargetFeatures) : List Change :=
  .adopt features l :: (i.enables.map fun name => .setEnabled name true) ++
    (if i.clearEnabled then [.clearEnabled] else []) ++
      if i.enableCore then [.enableCore l] else []

theorem toExcept_registry_of_refused {i : Invocation} {e : Error}
    (refused : TargetFeatures.ofList .initial (i.features.getD "") = .error e) (l : Language) :
    (i.registry l).toExcept = .error e := by
  rw [registry, refused]
  rfl

/-- Only enabling names can fail once the feature list has been read. -/
theorem toExcept_registry_of_parsed {i : Invocation} {features : TargetFeatures}
    (parsed : TargetFeatures.ofList .initial (i.features.getD "") = .ok features) (l : Language) :
    (i.registry l).toExcept =
      ((initial.changed (.adopt features l)).enableAll i.enables).toExcept.map fun r =>
        r.after ((if i.clearEnabled then [.clearEnabled] else []) ++
          if i.enableCore then [.enableCore l] else []) := by
  have adopted : (initial.adopt features l).value = initial.changed (.adopt features l) := rfl
  rw [registry, parsed]
  simp only [Attempt.toExcept_thenIf, Attempt.toExcept_andThen, Attempt.toExcept_ofLogged, adopted]
  simp only [Except.bind]
  cases ((initial.changed (.adopt features l)).enableAll i.enables).toExcept <;>
    cases i.clearEnabled <;> cases i.enableCore <;> rfl

theorem toExcept_registry {i : Invocation} {features : TargetFeatures}
    (parsed : TargetFeatures.ofList .initial (i.features.getD "") = .ok features)
    (known : ∀ name ∈ i.enables, initial.isKnown name = true) (l : Language) :
    (i.registry l).toExcept = .ok (initial.after (i.changes l features)) := by
  have enabled := toExcept_enableAll_of_known fun name mem =>
    isKnown_changed (known name mem) (.adopt features l)
  rw [toExcept_registry_of_parsed parsed, enabled, changes, List.append_assoc, List.cons_append,
    after_cons, after_append]
  rfl

/-- What the changes of an invocation make of a record, given what the features say of it. -/
def settled (i : Invocation) (l : Language) (said : Option Bool) (name : String)
    (record : Record) : Record :=
  let reported := record.reported l said
  let named := { reported with enabled := reported.enabled || decide (name ∈ i.enables) }
  let cleared := if i.clearEnabled then { named with enabled := false } else named
  if i.enableCore then withCoreEnabled l cleared else cleared

theorem foldl_effect_enables (name : String) (names : List String) (record? : Option Record) :
    (names.map fun other => Change.setEnabled other true).foldl (Change.effect name) record? =
      record?.map fun record =>
        { record with enabled := record.enabled || decide (name ∈ names) } := by
  induction names generalizing record? with
  | nil => cases record? <;> simp
  | cons other rest ih =>
    rw [List.map_cons, List.foldl_cons, ih, Change.effect]
    by_cases same : name = other
    · cases record? <;> simp [same]
    · simp [same]

theorem find?_after_changes (i : Invocation) (l : Language) (features : TargetFeatures)
    (name : String) :
    (initial.after (i.changes l features)).find? name =
      (initial.find? name).map (i.settled l (features.get? name) name) := by
  rw [find?_after, changes, List.foldl_append, List.foldl_append, List.foldl_cons,
    foldl_effect_enables, Change.effect]
  unfold settled
  cases i.clearEnabled <;> cases i.enableCore <;> cases initial.find? name <;> rfl

section Settled

variable (i : Invocation) (l : Language) (said : Option Bool) (name : String) (record : Record)

@[simp] theorem toMetadata_settled :
    (i.settled l said name record).toMetadata = record.toMetadata := by
  unfold settled
  cases i.clearEnabled <;> cases i.enableCore <;> simp

theorem supported_settled :
    (i.settled l said name record).supported = (record.reported l said).supported := by
  unfold settled
  cases i.clearEnabled <;> cases i.enableCore <;> simp

theorem enabled_settled (clear : record.enabled = false) :
    (i.settled l said name record).enabled =
      (decide (name ∈ i.enables) && !i.clearEnabled ||
        i.enableCore && coreToEnable l (record.reported l said)) := by
  simp only [settled, Record.enabled_reported, clear, Bool.false_or]
  cases i.clearEnabled <;> cases i.enableCore <;>
    simp only [Bool.false_eq_true, if_false, if_true, Record.enabled_withCoreEnabled,
      Record.coreToEnable_withEnabled] <;> simp

end Settled

/-- A registry holds the catalog with the flags that an invocation asks for. -/
structure Describes (i : Invocation) (l : Language) (r : Registry) : Prop where
  metadata : ∀ name m, r.metadata? name = some m ↔
    ∃ row ∈ catalog, row.name = name ∧ row.toMetadata = m
  supported : ∀ name record, r.find? name = some record →
    (record.supported = true ↔ record.since ≤ l.effective.number ∧
      TargetFeatures.lastSign name (i.features.getD "") = some true)
  enabled : ∀ name record, r.find? name = some record →
    (record.enabled = true ↔ name ∈ i.enables ∧ i.clearEnabled = false ∨
      i.enableCore = true ∧ record.supported = true ∧
        (record.core.bits &&& (VersionSet.only l.effective).bits ≠ 0 ∨
          record.optionalCore.bits &&& (VersionSet.only l.effective).bits ≠ 0))

theorem metadata?_after_changes (i : Invocation) (l : Language) (features : TargetFeatures)
    (name : String) :
    (initial.after (i.changes l features)).metadata? name = initial.metadata? name := by
  rw [metadata?, metadata?, find?_after_changes, Option.map_map]
  exact congrArg (fun f => (initial.find? name).map f) (funext fun record => toMetadata_settled ..)

/-- A record after the changes is that of a row of the catalog, settled by what the
feature list says last of it. -/
theorem exists_row_of_find? {i : Invocation} {l : Language} {features : TargetFeatures}
    (parsed : TargetFeatures.ofList .initial (i.features.getD "") = .ok features)
    {name : String} {record : Record}
    (found : (initial.after (i.changes l features)).find? name = some record) :
    ∃ row ∈ catalog, i.settled l (TargetFeatures.lastSign name (i.features.getD "")) name
      (.ofMetadata row.toMetadata) = record := by
  rw [find?_after_changes] at found
  obtain ⟨first, start, settled⟩ := Option.map_eq_some_iff.mp found
  obtain ⟨row, mem, named, rfl⟩ := find?_initial_eq_some_iff.mp start
  have known := isKnown_initial_iff.mpr ⟨row, mem, named⟩
  have nonempty := catalog_named row mem
  rw [named] at nonempty
  rw [TargetFeatures.get?_ofList_of_isKnown parsed known nonempty] at settled
  exact ⟨row, mem, settled⟩

theorem describes_after_changes {i : Invocation} {features : TargetFeatures}
    (parsed : TargetFeatures.ofList .initial (i.features.getD "") = .ok features) (l : Language) :
    i.Describes l (initial.after (i.changes l features)) where
  metadata name m := by
    rw [metadata?_after_changes]
    exact metadata?_initial_eq_some_iff
  supported name record found := by
    obtain ⟨row, -, rfl⟩ := exists_row_of_find? parsed found
    rw [supported_settled, toMetadata_settled]
    exact supported_reported_ofMetadata ..
  enabled name record found := by
    obtain ⟨row, -, rfl⟩ := exists_row_of_find? parsed found
    rw [enabled_settled _ _ _ _ _ rfl, supported_settled, toMetadata_settled]
    simp only [Bool.or_eq_true, Bool.and_eq_true, decide_eq_true_eq, Bool.not_eq_true',
      coreToEnable_reported_ofMetadata]
    exact Iff.rfl

/-- Of the names to enable it only counts which they are. -/
theorem after_changes_congr {i : Invocation} {names : List String}
    (same : ∀ name, name ∈ names ↔ name ∈ i.enables) (l : Language) (features : TargetFeatures) :
    initial.after ({ i with enables := names }.changes l features) =
      initial.after (i.changes l features) := by
  refine Registry.ext fun name => ?_
  rw [find?_after_changes, find?_after_changes]
  have settles (said : Option Bool) (record : Record) :
      { i with enables := names }.settled l said name record = i.settled l said name record := by
    simp only [settled, same]
  rw [funext (settles (features.get? name))]

/-- Clear flags that no setting touches stay clear until core features are enabled. -/
theorem settled_eq_withCoreEnabled {i : Invocation} (core : i.enableCore = true)
    (untouched : i.enables = [] ∨ i.clearEnabled = true) (l : Language) (said : Option Bool)
    (name : String) {record : Record} (clear : record.enabled = false) :
    i.settled l said name record = withCoreEnabled l (record.reported l said) := by
  have still : { record.reported l said with enabled := false } = record.reported l said := by
    rw [← clear, ← Record.enabled_reported l said record]
  simp only [settled, core, if_true, Record.enabled_reported, clear, Bool.false_or]
  rcases untouched with none | cleared
  · simp only [none, List.not_mem_nil, decide_false, ite_self, still]
  · simp only [cleared, if_true, still]

theorem after_changes_eq_startFor {i : Invocation} (core : i.enableCore = true)
    (untouched : i.enables = [] ∨ i.clearEnabled = true) (l : Language)
    (features : TargetFeatures) :
    initial.after (i.changes l features) = (startFor l features).value := by
  refine Registry.ext fun name => ?_
  rw [find?_after_changes, find?_startFor]
  cases start : initial.find? name with
  | none => rfl
  | some record =>
    obtain ⟨row, -, -, rfl⟩ := find?_initial_eq_some_iff.mp start
    have clear : (Record.ofMetadata row.toMetadata).enabled = false := rfl
    exact congrArg some (settled_eq_withCoreEnabled core untouched l _ name clear)

theorem run_eq_shown {i : Invocation} {files : Files} {l : Language} {features : TargetFeatures}
    (resolved : i.language files = .ok l)
    (parsed : TargetFeatures.ofList .initial (i.features.getD "") = .ok features)
    (known : ∀ name ∈ i.enables, ∃ row ∈ catalog, row.name = name) :
    (i.run files).value = .ok (i.shown l (initial.after (i.changes l features))) := by
  have built := toExcept_registry parsed
    (fun name mem => isKnown_initial_iff.mpr (known name mem)) l
  simp only [run, resolved, built]
  rfl

/-- If the language and the feature list can be read and the names to enable are in the catalog,
a run succeeds, and it shows the registry that the settings describe. The order and repetition
of the names change nothing, and if no name stays enabled before the core features are, the
registry is the one with which a compilation starts. -/
theorem run_shows_described {i : Invocation} {files : Files} {l : Language}
    {features : TargetFeatures} (resolved : i.language files = .ok l)
    (parsed : TargetFeatures.ofList .initial (i.features.getD "") = .ok features)
    (known : ∀ name ∈ i.enables, ∃ row ∈ catalog, row.name = name) :
    ∃ shown r, (i.run files).value = .ok shown ∧ i.Describes l r ∧
      (i.query = none → shown = r.snapshot.tree) ∧
      (∀ names, (∀ name, name ∈ names ↔ name ∈ i.enables) →
        ({ i with enables := names }.run files).value = .ok shown) ∧
      (i.enableCore = true → i.enables = [] ∨ i.clearEnabled = true →
        r = (startFor l features).value) := by
  refine ⟨_, initial.after (i.changes l features), run_eq_shown resolved parsed known,
    describes_after_changes parsed l, ?_, ?_, ?_⟩
  · intro unasked
    simp only [Invocation.shown, unasked]
  · intro names same
    have ran := run_eq_shown (i := { i with enables := names }) resolved parsed
      fun name mem => known name ((same name).mp mem)
    rw [ran, after_changes_congr same]
    rfl
  · intro core untouched
    exact after_changes_eq_startFor core untouched l features

/-- Two floating point extensions are reported, and one of them is named twice. -/
def floats : Invocation :=
  { version := some 120, features := some "-all, +cl_khr_fp16,+cl_khr_fp64"
    enables := ["cl_khr_fp16", "cl_khr_fp16"], clearEnabled := true, enableCore := true }

theorem run_shows_described_floats :
    ∃ features, TargetFeatures.ofList .initial "-all, +cl_khr_fp16,+cl_khr_fp64" = .ok features ∧
      ∃ shown r, (floats.run (fun _ => .error .missing)).value = .ok shown ∧
        floats.Describes (.c .v12) r ∧ shown = r.snapshot.tree ∧
        ({ floats with enables := ["cl_khr_fp16"] }.run (fun _ => .error .missing)).value =
          .ok shown ∧
        r = (startFor (.c .v12) features).value := by
  have readable : (TargetFeatures.ofList .initial
      "-all, +cl_khr_fp16,+cl_khr_fp64").isOk = true := by decide +kernel
  have known : ∀ name ∈ floats.enables, ∃ row ∈ catalog, row.name = name := by decide +kernel
  cases parsed : TargetFeatures.ofList .initial "-all, +cl_khr_fp16,+cl_khr_fp64" with
  | error e =>
    rw [parsed] at readable
    cases readable
  | ok features =>
    have resolved : floats.language (fun _ => .error .missing) = .ok (.c .v12) := rfl
    obtain ⟨shown, r, ran, described, value, reordered, start⟩ :=
      run_shows_described resolved parsed known
    refine ⟨features, rfl, shown, r, ran, described, value rfl, reordered _ ?_, start rfl (.inr rfl)⟩
    simp [floats]

end Invocation

end OpenCLRegistry
