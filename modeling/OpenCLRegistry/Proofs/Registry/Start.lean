import OpenCLRegistry.Proofs.Registry.CoreEnabling

/-!
# The registry at the start of a compilation

A compilation starts with the catalog, in which the target's report has marked what
it supports of the available options and core features have been enabled. Being
enabled, being supported and being supported as a feature of the language are then
the same, and nothing is an extension. Of the report it counts only which available
options of the catalog it affirms.
-/
namespace OpenCLRegistry

namespace Record

open Registry

/-- Until it is enabled, a record counts as a feature or not at all. -/
theorem isFeature_of_not_enabled {record : Record} (clear : record.enabled = false)
    {l : Language} {way : Way} (counts : record.way? l = some way) : way.isFeature = true := by
  have cleared : record.way? l = (record.way? l).filter Way.isFeature := by
    rw [← way?_cleared, ← clear]
  rw [cleared, Option.filter_eq_some_iff] at counts
  exact counts.2

/-- Of a record that was not enabled, bulk enabling makes one that is enabled where it counts. -/
theorem enabled_withCoreEnabled_of_not_enabled {record : Record} (clear : record.enabled = false)
    (l : Language) : (withCoreEnabled l record).enabled = (record.way? l).isSome := by
  rw [enabled_withCoreEnabled, clear, Bool.false_or, coreToEnable_eq]
  cases counts : record.way? l with
  | none => rfl
  | some way => exact isFeature_of_not_enabled clear counts

/-- An option of the catalog is supported once a target has affirmed it and it is available. -/
theorem reported_ofMetadata (l : Language) (said : Option Bool) (m : Metadata) :
    (Record.ofMetadata m).reported l said =
      ⟨m, decide (m.since ≤ l.effective.number ∧ said = some true), false⟩ := by
  cases said with
  | none => simp [Record.ofMetadata]
  | some value =>
    by_cases available : m.since ≤ l.effective.number <;>
      simp [Record.ofMetadata, Record.reported, Metadata.availableIn, available]

end Record

namespace Registry

/-- A record with clear flags is supported once a target has said so of an available option. -/
theorem supported_reported_ofMetadata (l : Language) (said : Option Bool) (m : Metadata) :
    ((Record.ofMetadata m).reported l said).supported = true ↔
      m.since ≤ l.effective.number ∧ said = some true := by
  rw [Record.reported_ofMetadata, decide_eq_true_eq]

/-- Only an available option is supported, so its being available need not be asked again. -/
theorem coreToEnable_reported_ofMetadata (l : Language) (said : Option Bool) (m : Metadata) :
    coreToEnable l ((Record.ofMetadata m).reported l said) = true ↔
      ((Record.ofMetadata m).reported l said).supported = true ∧
        (m.core.bits &&& (VersionSet.only l.effective).bits ≠ 0 ∨
          m.optionalCore.bits &&& (VersionSet.only l.effective).bits ≠ 0) := by
  rw [← VersionSet.has_iff, ← VersionSet.has_iff]
  have available : ((Record.ofMetadata m).reported l said).supported = true →
      m.since ≤ l.effective.number :=
    fun supported => ((supported_reported_ofMetadata l said m).mp supported).1
  simp only [coreToEnable, Metadata.coreIn, Metadata.optionalCoreIn, Metadata.availableIn,
    Record.toMetadata_reported, ← Bool.and_or_distrib_left, Bool.and_eq_true, Bool.or_eq_true,
    decide_eq_true_eq]
  constructor
  · rintro ⟨supported, -, has⟩
    exact ⟨supported, has⟩
  · rintro ⟨supported, has⟩
    exact ⟨supported, available supported, has⟩

variable (l : Language) (features : TargetFeatures)

theorem find?_startFor (name : String) :
    (startFor l features).value.find? name = (initial.find? name).map fun record =>
      withCoreEnabled l (record.reported l (features.get? name)) := by
  rw [startFor_eq_after, find?_after]
  cases initial.find? name <;> rfl

theorem find?_startFor_eq_some_iff {name : String} {record : Record} :
    (startFor l features).value.find? name = some record ↔ ∃ row ∈ catalog, row.name = name ∧
      withCoreEnabled l ((Record.ofMetadata row.toMetadata).reported l (features.get? name)) =
        record := by
  rw [find?_startFor, Option.map_eq_some_iff]
  simp only [find?_initial_eq_some_iff]
  constructor
  · rintro ⟨_, ⟨row, mem, named, rfl⟩, same⟩
    exact ⟨row, mem, named, same⟩
  · rintro ⟨row, mem, named, same⟩
    exact ⟨_, ⟨row, mem, named, rfl⟩, same⟩

/-- Nothing counts as an extension, and what counts is enabled. -/
theorem way?_startFor (name : String) :
    (∀ way, (startFor l features).value.way? name l = some way → way.isFeature = true) ∧
      (startFor l features).value.isEnabled name =
        ((startFor l features).value.way? name l).isSome := by
  rw [way?, isEnabled]
  cases found : (startFor l features).value.find? name with
  | none =>
    refine ⟨fun way counts => ?_, rfl⟩
    cases counts
  | some record =>
    obtain ⟨row, -, -, rfl⟩ := (find?_startFor_eq_some_iff l features).mp found
    -- a report sets no enabled flag, so only the bulk change has set any
    have clear : ((Record.ofMetadata row.toMetadata).reported l (features.get? name)).enabled =
        false := by rw [Record.enabled_reported]; rfl
    simp only [Option.bind_some, Option.any_some, Record.way?_withCoreEnabled_self]
    exact ⟨fun way => Record.isFeature_of_not_enabled clear,
      Record.enabled_withCoreEnabled_of_not_enabled clear l⟩

theorem metadata?_startFor_eq_some_iff {name : String} {m : Metadata} :
    (startFor l features).value.metadata? name = some m ↔
      ∃ row ∈ catalog, row.name = name ∧ row.toMetadata = m := by
  have same : (startFor l features).value.metadata? name = initial.metadata? name := by
    rw [startFor_eq_after]
    simp only [after_cons, after_nil, metadata?_changed, Change.brought, Option.or_none]
  rw [same, metadata?_initial_eq_some_iff]

/-- A report counts as far as it affirms what is available. -/
theorem startFor_eq_of_affirmed {l : Language} {features others : TargetFeatures}
    (same : ∀ row ∈ catalog, row.since ≤ l.effective.number →
      (others.get? row.name = some true ↔ features.get? row.name = some true)) :
    (startFor l others).value = (startFor l features).value := by
  ext1 name
  rw [find?_startFor, find?_startFor]
  cases start : initial.find? name with
  | none => rfl
  | some record =>
    obtain ⟨row, mem, rfl, rfl⟩ := find?_initial_eq_some_iff.mp start
    have alike : (row.since ≤ l.effective.number ∧ others.get? row.name = some true) ↔
        row.since ≤ l.effective.number ∧ features.get? row.name = some true :=
      and_congr_right (same row mem)
    simp only [Option.map_some, Record.reported_ofMetadata, alike]

/-- A compilation starts with the names and the metadata of the catalog, and a name is supported
by the target if its report affirms it and it is available. Every name is then supported if it is
enabled, as a core or optional core feature and never as an extension. Reports that affirm the
same available options of the catalog lead to the same registry, whatever else they say. -/
theorem startFor_enabled_as_supported (l : Language) (features : TargetFeatures) :
    (∀ name m, (startFor l features).value.metadata? name = some m ↔
      ∃ row ∈ catalog, row.name = name ∧ row.toMetadata = m) ∧
    (∀ name record, (startFor l features).value.find? name = some record →
      (record.supported = true ↔
        features.get? name = some true ∧ record.since ≤ l.effective.number)) ∧
    (∀ name,
      (startFor l features).value.isSupported name l =
        (startFor l features).value.isEnabled name ∧
      (startFor l features).value.isSupportedAsFeature name l =
        (startFor l features).value.isEnabled name ∧
      (startFor l features).value.isSupportedAsExtension name l = false) ∧
    ∀ others : TargetFeatures,
      (∀ row ∈ catalog, row.since ≤ l.effective.number →
        (others.get? row.name = some true ↔ features.get? row.name = some true)) →
      (startFor l others).value = (startFor l features).value := by
  refine ⟨fun name m => metadata?_startFor_eq_some_iff l features, fun name record found => ?_,
    fun name => ?_, fun others => startFor_eq_of_affirmed⟩
  · obtain ⟨row, -, rfl, rfl⟩ := (find?_startFor_eq_some_iff l features).mp found
    rw [Record.supported_withCoreEnabled, supported_reported_ofMetadata,
      Record.toMetadata_withCoreEnabled, Record.toMetadata_reported, and_comm]
    rfl
  · obtain ⟨feature, enabled⟩ := way?_startFor l features name
    rw [enabled, isSupported_eq, isSupportedAsFeature_eq, isSupportedAsExtension_eq]
    cases counts : (startFor l features).value.way? name l with
    | none => exact ⟨rfl, rfl, rfl⟩
    | some way =>
      have isFeature := feature way counts
      cases way with
      | extension => cases isFeature
      | core => exact ⟨rfl, rfl, rfl⟩
      | optionalCore => exact ⟨rfl, rfl, rfl⟩

/-- A report of one option. -/
def terse : TargetFeatures := .ofPairs [(doubleFloats.name, true)]

/-- The same report among others: of an option that is missing, of an unknown name, and of a
feature that version 1.2 does not have. -/
def wordy : TargetFeatures :=
  .ofPairs [("cl_khr_fp16", false), ("vendor", true), (doubleFloats.name, true),
    ("__opencl_c_pipes", true)]

theorem startFor_enabled_as_supported_wordy :
    (startFor (.c .v12) terse).value.find? doubleFloats.name =
        some ⟨doubleFloats.toMetadata, true, true⟩ ∧
      (terse.get? doubleFloats.name = some true ∧ doubleFloats.since ≤ 120) ∧
      (∀ row ∈ catalog, row.since ≤ (Language.c .v12).effective.number →
        (wordy.get? row.name = some true ↔ terse.get? row.name = some true)) ∧
      (startFor (.c .v12) wordy).value = (startFor (.c .v12) terse).value := by
  obtain ⟨-, supported, -, congr⟩ := startFor_enabled_as_supported (.c .v12) terse
  have listed : doubleFloats ∈ catalog := by decide +kernel
  have found : (startFor (.c .v12) terse).value.find? doubleFloats.name =
      some ⟨doubleFloats.toMetadata, true, true⟩ := by
    rw [find?_startFor, find?_initial listed]
    decide
  have same : ∀ row ∈ catalog, row.since ≤ (Language.c .v12).effective.number →
      (wordy.get? row.name = some true ↔ terse.get? row.name = some true) := by decide +kernel
  exact ⟨found, (supported _ _ found).mp rfl, same, congr wordy same⟩

end Registry

end OpenCLRegistry
