import OpenCLRegistry.Proofs.CommandLine.Failure
import OpenCLRegistry.Proofs.CommandLine.Options
import OpenCLRegistry.Proofs.Json.SortedKeys
import OpenCLRegistry.Proofs.Snapshot.RoundTrip

/-!
# What a run prints can be restored

A run that is not asked about a name prints a snapshot of the registry it has
built, with the keys of every object sorted and a line break at the end. The
reader of snapshots takes that text as well as the one that a snapshot is written
as, so what a run prints is a file from which its registry can be restored.
-/
namespace OpenCLRegistry

open Json

theorem Json.spellsDocument_line (j : Json) : SpellsDocument j (j.pretty ++ "\n").toList := by
  have lineBreak : Blank ['\n'] := by simp [Blank, isSpace]
  have spelt := SpellsDocument.ends blank_nil (spells_render Layout.isBlank_indented 0 j) lineBreak
  simpa [pretty] using spelt

theorem SavedRecord.WrittenAs.sorted {e : SavedRecord} {j : Json} (h : e.WrittenAs j) :
    e.WrittenAs j.ascendingKeys :=
  Presents.sorted h

theorem Snapshot.WrittenAs.sorted {s : Snapshot} {j : Json} (h : s.WrittenAs j) :
    s.WrittenAs j.ascendingKeys := by
  obtain ⟨items, presents, written⟩ := h
  have sorted := presents.sorted
  rw [List.map_singleton, ascendingKeys, ascendingKeysItems_eq_map] at sorted
  exact ⟨items.map ascendingKeys, sorted,
    List.forall₂_map_right_iff.mpr (written.imp fun _ _ => SavedRecord.WrittenAs.sorted)⟩

/-- The printed form of a snapshot is read as the snapshot. -/
theorem Snapshot.ofText_printed (s : Snapshot) :
    ofText (s.tree.ascendingKeys.pretty ++ "\n") = .ok s :=
  (ofText_eq_ok_iff (spellsDocument_line _)).mpr s.writtenAs_tree.sorted

namespace Invocation

open Registry

/-- The registry that an invocation describes comes about by the changes it stands for. -/
theorem exists_after_of_registry {i : Invocation} {l : Language} {built : Registry}
    (described : (i.registry l).toExcept = .ok built) :
    ∃ features, built = initial.after (i.changes l features) := by
  have unfailing (e : Error) : (i.registry l).toExcept ≠ .error e := by rw [described]; simp
  cases parsed : TargetFeatures.ofList .initial (i.features.getD "") with
  | error e => exact absurd (toExcept_registry_eq_error_iff.mpr (.inl parsed)) (unfailing e)
  | ok features =>
    have known : ∀ name ∈ i.enables, initial.isKnown name = true := by
      intro name mem
      by_contra unknown
      rw [Bool.not_eq_true, isKnown_initial_eq_false_iff] at unknown
      obtain ⟨first, isFirst⟩ := exists_isFirst_iff.mpr ⟨name, mem, unknown⟩
      exact unfailing _ (toExcept_registry_eq_error_iff.mpr
        (.inr ⟨⟨features, parsed⟩, first, isFirst, rfl⟩))
    have after := toExcept_registry parsed known l
    rw [described, Except.ok.injEq] at after
    exact ⟨features, after⟩

/-- Restoring a snapshot of such a registry at the start gives the registry. -/
theorem restore_snapshot_of_registry {i : Invocation} {l : Language} {built : Registry}
    (described : (i.registry l).toExcept = .ok built) :
    (initial.restore built.snapshot).value = built := by
  obtain ⟨features, after⟩ := exists_after_of_registry described
  rw [after, restore_snapshot_eq_iff]
  exact fun name m known => metadata?_after known _

theorem run_eq_ok {i : Invocation} {files : Files} {shown : Json}
    (ran : (i.run files).value = .ok shown) :
    ∃ l built, i.language files = .ok l ∧ (i.registry l).toExcept = .ok built ∧
      shown = i.shown l built := by
  rw [run] at ran
  cases found : i.language files with
  | error e => simp [found] at ran
  | ok l =>
    cases described : (i.registry l).toExcept with
    | error e => simp [found, described, Except.map] at ran
    | ok built =>
      simp only [found, described, Except.map, Except.ok.injEq] at ran
      exact ⟨l, built, rfl, described, ran.symm⟩

end Invocation

namespace Report

/-- Arguments that do not ask about a name and lead to success, other than by a request for help
or for the version, make the run print a text which is read as the snapshot of the registry it
has built, and from which that registry is restored. The reader takes the written form of the
snapshot, whose keys are in another order, for the same. -/
theorem stdout_restores {files : Files} {args : List String}
    (unasked : ∀ arg ∈ args, ¬ Argument.Uses "query" arg)
    (noHelp : Invocation.ofArguments args ≠ .error .help)
    (noVersion : Invocation.ofArguments args ≠ .error .version)
    (succeeded : (ofArguments files args).exitCode = 0) :
    ∃ i l built, Invocation.ofArguments args = .ok i ∧ i.language files = .ok l ∧
      (i.registry l).toExcept = .ok built ∧
      Snapshot.ofText (ofArguments files args).stdout = .ok built.snapshot ∧
      Snapshot.ofText built.snapshot.toText = .ok built.snapshot ∧
      (Registry.initial.restore built.snapshot).value = built := by
  cases read : Invocation.ofArguments args with
  | error e =>
    cases e with
    | usage =>
      rw [ofArguments, read] at succeeded
      cases succeeded
    | help => exact absurd read noHelp
    | version => exact absurd read noVersion
  | ok i =>
    rw [ofArguments_of_read read] at succeeded ⊢
    obtain ⟨shown, ran⟩ := exitCode_eq_zero_iff.mp succeeded
    obtain ⟨l, built, found, described, value⟩ := Invocation.run_eq_ok ran
    rw [Invocation.shown, Invocation.query_eq_none unasked read] at value
    refine ⟨i, l, built, rfl, found, described, ?_, ?_,
      Invocation.restore_snapshot_of_registry described⟩
    · rw [ofInvocation_of_ok ran, value]
      exact Snapshot.ofText_printed _
    · exact (Snapshot.ofText_eq_ok_iff (spellsDocument_pretty _)).mpr (Snapshot.writtenAs_tree _)

/-- An extension is reported and enabled, and then the core features are. -/
def enabling : List String :=
  ["--cl-ext=-all,+cl_khr_fp64", "--enable", "cl_khr_fp64", "--enable-core", "--cl-std", "120"]

/-- What those arguments ask for. -/
def enablingInvocation : Invocation :=
  { version := some 120, features := some "-all,+cl_khr_fp64", enables := ["cl_khr_fp64"]
    enableCore := true }

theorem run_enablingInvocation :
    ∃ features, TargetFeatures.ofList .initial "-all,+cl_khr_fp64" = .ok features ∧
      (enablingInvocation.run fun _ => .error .missing).value =
        .ok (Registry.initial.after
          (enablingInvocation.changes (.c .v12) features)).snapshot.tree := by
  have known : ∀ name ∈ enablingInvocation.enables, ∃ row ∈ catalog, row.name = name := by
    decide +kernel
  have wellFormed : ∀ item ∈ TargetFeatures.items "-all,+cl_khr_fp64",
      ¬ FeatureItem.Malformed item := by
    simp only [← FeatureItem.ofText?_eq_none_iff]
    decide +kernel
  have found : enablingInvocation.language (fun _ => .error .missing) = .ok (.c .v12) := rfl
  obtain ⟨features, parsed⟩ := (TargetFeatures.exists_ofList_iff .initial).mpr wellFormed
  have shown (r : Registry) : enablingInvocation.shown (.c .v12) r = r.snapshot.tree := rfl
  refine ⟨features, parsed, ?_⟩
  rw [← shown]
  exact Invocation.run_eq_shown found parsed known

theorem ofArguments_enabling : Invocation.ofArguments enabling = .ok enablingInvocation := by
  decide +kernel

theorem exitCode_enabling : (ofArguments (fun _ => .error .missing) enabling).exitCode = 0 := by
  obtain ⟨features, -, ran⟩ := run_enablingInvocation
  rw [ofArguments_of_read ofArguments_enabling]
  exact exitCode_eq_zero_iff.mpr ⟨_, ran⟩

theorem stdout_restores_enabling :
    ∃ built, (enablingInvocation.registry (.c .v12)).toExcept = .ok built ∧
      Snapshot.ofText (ofArguments (fun _ => .error .missing) enabling).stdout =
        .ok built.snapshot ∧
      (Registry.initial.restore built.snapshot).value = built := by
  have read := ofArguments_enabling
  have unasked : ∀ arg ∈ enabling, ¬ Argument.Uses "query" arg := by decide +kernel
  have found : enablingInvocation.language (fun _ => .error .missing) = .ok (.c .v12) := rfl
  obtain ⟨i, l, built, read', found', described, text, -, restored⟩ :=
    stdout_restores unasked (by simp [read]) (by simp [read]) exitCode_enabling
  cases read.symm.trans read'
  cases found.symm.trans found'
  exact ⟨built, described, text, restored⟩

end Report

end OpenCLRegistry
