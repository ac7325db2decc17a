import OpenCLRegistry.Proofs.Registry.Dialogue
import OpenCLRegistry.Proofs.Registry.Flags

/-!
# Ways of being supported

A language has an option as a core feature, as an optional core feature or as an
extension. A short list of tests decides in which of these ways a record is
supported, if it is, and every question about support asks for some of the ways.
So the answers exclude each other and leave nothing out, whatever the first
version, the two sets and the flags of a record are.
-/
namespace OpenCLRegistry

inductive Way
  | core | optionalCore | extension
deriving DecidableEq

/-- The language itself has the option, so that it need not be enabled. -/
def Way.isFeature : Way → Bool
  | .core | .optionalCore => true
  | .extension => false

namespace Record

/-- The way in which a record is supported. Core wins over optional core, and what is
neither counts only when it is enabled. -/
def way? (r : Record) (l : Language) : Option Way :=
  if r.supported && r.availableIn l then
    if r.core.has l.effective then some .core
    else if r.optionalCore.has l.effective then some .optionalCore
    else if r.enabled then some .extension
    else none
  else none

variable (r : Record) (l : Language)

theorem supportedIn_eq : r.supportedIn l = (r.way? l).isSome := by
  simp only [way?, supportedIn, Metadata.coreIn, Metadata.optionalCoreIn]
  split_ifs <;> simp_all

theorem supportedAsCoreIn_eq : r.supportedAsCoreIn l = (r.way? l).any (· = .core) := by
  rw [supportedAsCoreIn, supportedIn_eq]
  simp only [way?, Metadata.coreIn]
  split_ifs <;> simp_all

theorem supportedAsOptionalCoreIn_eq :
    r.supportedAsOptionalCoreIn l = (r.way? l).any (· = .optionalCore) := by
  rw [supportedAsOptionalCoreIn, supportedIn_eq]
  simp only [way?, Metadata.coreIn, Metadata.optionalCoreIn]
  split_ifs <;> simp_all

theorem supportedAsExtensionIn_eq :
    r.supportedAsExtensionIn l = (r.way? l).any (· = .extension) := by
  rw [supportedAsExtensionIn, supportedIn_eq]
  simp only [way?, Metadata.coreIn, Metadata.optionalCoreIn]
  split_ifs <;> simp_all

/-! ### What each way takes -/

theorem supportedAsCoreIn_iff :
    r.supportedAsCoreIn l = true ↔
      r.supported = true ∧ r.since ≤ l.effective.number ∧
        r.core.bits &&& (VersionSet.only l.effective).bits ≠ 0 := by
  rw [← VersionSet.has_iff]
  simp only [supportedAsCoreIn_eq, way?, Metadata.availableIn]
  grind

theorem supportedAsOptionalCoreIn_iff :
    r.supportedAsOptionalCoreIn l = true ↔
      r.supported = true ∧ r.since ≤ l.effective.number ∧
        r.optionalCore.bits &&& (VersionSet.only l.effective).bits ≠ 0 ∧
        r.core.bits &&& (VersionSet.only l.effective).bits = 0 := by
  rw [← VersionSet.has_iff, ← VersionSet.has_eq_false_iff]
  simp only [supportedAsOptionalCoreIn_eq, way?, Metadata.availableIn]
  grind

theorem supportedAsExtensionIn_iff :
    r.supportedAsExtensionIn l = true ↔
      r.supported = true ∧ r.enabled = true ∧ r.since ≤ l.effective.number ∧
        r.core.bits &&& (VersionSet.only l.effective).bits = 0 ∧
        r.optionalCore.bits &&& (VersionSet.only l.effective).bits = 0 := by
  rw [← VersionSet.has_eq_false_iff, ← VersionSet.has_eq_false_iff]
  simp only [supportedAsExtensionIn_eq, way?, Metadata.availableIn]
  grind

theorem supportedIn_iff :
    r.supportedIn l = true ↔
      r.supported = true ∧ r.since ≤ l.effective.number ∧
        (r.core.bits &&& (VersionSet.only l.effective).bits ≠ 0 ∨
          r.optionalCore.bits &&& (VersionSet.only l.effective).bits ≠ 0 ∨ r.enabled = true) := by
  rw [← VersionSet.has_iff, ← VersionSet.has_iff]
  simp only [supportedIn_eq, way?, Metadata.availableIn]
  grind

theorem availableIn_of_feature (feature : r.coreIn l = true ∨ r.optionalCoreIn l = true) :
    r.availableIn l = true := by
  simp only [Metadata.coreIn, Metadata.optionalCoreIn, Bool.and_eq_true] at feature
  exact feature.elim And.left And.left

/-- Without being enabled, an option is supported where it is a feature of the language. -/
theorem way?_cleared : ({ r with enabled := false } : Record).way? l =
    (r.way? l).filter Way.isFeature := by
  simp only [way?]
  split_ifs <;> first | rfl | simp_all

/-- Being enabled makes an extension of an available option that counts for nothing else. -/
theorem way?_enabled : ({ r with enabled := true } : Record).way? l =
    (r.way? l).or (if r.supported && r.availableIn l then some .extension else none) := by
  simp only [way?]
  split_ifs <;> simp_all

end Record

namespace Registry

/-- The way in which the option of a name is supported. -/
def way? (r : Registry) (name : String) (l : Language) : Option Way :=
  (r.find? name).bind (·.way? l)

section Questions

variable (r : Registry) (name : String) (l : Language)

theorem isSupported_eq : r.isSupported name l = (r.way? name l).isSome := by
  simp only [isSupported, way?, Record.supportedIn_eq]
  cases r.find? name <;> rfl

theorem isSupportedAsCore_eq :
    r.isSupportedAsCore name l = (r.way? name l).any (· = .core) := by
  simp only [isSupportedAsCore, way?, Record.supportedAsCoreIn_eq]
  cases r.find? name <;> rfl

theorem isSupportedAsOptionalCore_eq :
    r.isSupportedAsOptionalCore name l = (r.way? name l).any (· = .optionalCore) := by
  simp only [isSupportedAsOptionalCore, way?, Record.supportedAsOptionalCoreIn_eq]
  cases r.find? name <;> rfl

theorem isSupportedAsExtension_eq :
    r.isSupportedAsExtension name l = (r.way? name l).any (· = .extension) := by
  simp only [isSupportedAsExtension, way?, Record.supportedAsExtensionIn_eq]
  cases r.find? name <;> rfl

theorem isSupportedAsFeature_eq :
    r.isSupportedAsFeature name l = (r.way? name l).any Way.isFeature := by
  rw [isSupportedAsFeature, isSupportedAsCore_eq, isSupportedAsOptionalCore_eq]
  rcases r.way? name l with _ | _ | _ | _ <;> rfl

theorem isSupported_iff :
    r.isSupported name l = true ↔ ∃ record, r.find? name = some record ∧
      record.supported = true ∧ record.since ≤ l.effective.number ∧
      (record.core.bits &&& (VersionSet.only l.effective).bits ≠ 0 ∨
        record.optionalCore.bits &&& (VersionSet.only l.effective).bits ≠ 0 ∨
        record.enabled = true) := by
  rw [isSupported, Option.any_eq_true]
  simp only [Record.supportedIn_iff]

/-- No two ways at once. -/
theorem exclusive_ways :
    [r.isSupportedAsCore name l, r.isSupportedAsOptionalCore name l,
      r.isSupportedAsExtension name l].Pairwise fun x y => ¬ (x = true ∧ y = true) := by
  rw [isSupportedAsCore_eq, isSupportedAsOptionalCore_eq, isSupportedAsExtension_eq]
  rcases r.way? name l with _ | _ | _ | _ <;> decide

theorem isSupported_eq_or :
    r.isSupported name l = (r.isSupportedAsCore name l || r.isSupportedAsOptionalCore name l ||
      r.isSupportedAsExtension name l) := by
  rw [isSupported_eq, isSupportedAsCore_eq, isSupportedAsOptionalCore_eq,
    isSupportedAsExtension_eq]
  rcases r.way? name l with _ | _ | _ | _ <;> rfl

theorem isSupportedAsFeature_eq_and_not :
    r.isSupportedAsFeature name l =
      (r.isSupported name l && !r.isSupportedAsExtension name l) := by
  rw [isSupportedAsFeature_eq, isSupported_eq, isSupportedAsExtension_eq]
  rcases r.way? name l with _ | _ | _ | _ <;> rfl

end Questions

/-- What is answered about a name depends on its metadata and on the way in which it is
supported. -/
theorem answer_congr_of_way {r s : Registry} {name : String} {l : Language}
    (metadata : r.metadata? name = s.metadata? name) (way : r.way? name l = s.way? name l)
    (question : Question) : r.answer name l question = s.answer name l question := by
  have alike (f : Metadata → Bool) :
      (r.find? name).map (fun record => f record.toMetadata) =
        (s.find? name).map fun record => f record.toMetadata := by
    have mapped := congrArg (Option.map f) metadata
    rwa [metadata?, metadata?, Option.map_map, Option.map_map] at mapped
  cases question with
  | available => exact alike (·.availableIn l)
  | core => exact alike (·.coreIn l)
  | optionalCore => exact alike (·.optionalCoreIn l)
  | supported => simp only [answer, isSupported_eq, way]
  | supportedAsCore => simp only [answer, isSupportedAsCore_eq, way]
  | supportedAsOptionalCore => simp only [answer, isSupportedAsOptionalCore_eq, way]
  | supportedAsFeature => simp only [answer, isSupportedAsFeature_eq, way]
  | supportedAsExtension => simp only [answer, isSupportedAsExtension_eq, way]

theorem find?_eq_none_iff {r : Registry} {name : String} :
    r.find? name = none ↔ r.isKnown name = false := by
  rw [isKnown_eq_isSome_find?, Option.isSome_eq_false_iff, Option.isNone_iff_eq_none]

theorem answer_ne_of_unknown {r : Registry} {name : String} (unknown : r.isKnown name = false)
    (l : Language) (question : Question) : r.answer name l question ≠ some true := by
  have missing := find?_eq_none_iff.mpr unknown
  cases question <;>
    simp [answer, isSupported, isSupportedAsCore, isSupportedAsOptionalCore, isSupportedAsFeature,
      isSupportedAsExtension, missing]

/-- An option is supported if and only if it is known, supported by the target and available, and
the language has it as a core or optional core feature or it is enabled. It is then supported in
one way only: as a core feature if the first set has the version, whatever the second says, as an
optional core feature if only the second has it, and else as an extension. Nothing is core or
optional core before it is available, and nothing is affirmed about an unknown name. -/
theorem support_partitioned (r : Registry) (name : String) (l : Language) :
    (r.isSupported name l = true ↔ ∃ record, r.find? name = some record ∧
      record.supported = true ∧ record.since ≤ l.effective.number ∧
      (record.core.bits &&& (VersionSet.only l.effective).bits ≠ 0 ∨
        record.optionalCore.bits &&& (VersionSet.only l.effective).bits ≠ 0 ∨
        record.enabled = true)) ∧
    [r.isSupportedAsCore name l, r.isSupportedAsOptionalCore name l,
      r.isSupportedAsExtension name l].Pairwise (fun x y => ¬ (x = true ∧ y = true)) ∧
    r.isSupported name l = (r.isSupportedAsCore name l || r.isSupportedAsOptionalCore name l ||
      r.isSupportedAsExtension name l) ∧
    r.isSupportedAsFeature name l =
      (r.isSupported name l && !r.isSupportedAsExtension name l) ∧
    (∀ record, r.find? name = some record →
      (r.isSupportedAsCore name l = true ↔
        record.supported = true ∧ record.since ≤ l.effective.number ∧
          record.core.bits &&& (VersionSet.only l.effective).bits ≠ 0) ∧
      (r.isSupportedAsOptionalCore name l = true ↔
        record.supported = true ∧ record.since ≤ l.effective.number ∧
          record.optionalCore.bits &&& (VersionSet.only l.effective).bits ≠ 0 ∧
          record.core.bits &&& (VersionSet.only l.effective).bits = 0) ∧
      (record.coreIn l = true ∨ record.optionalCoreIn l = true →
        record.availableIn l = true)) ∧
    (r.isKnown name = false →
      r.isEnabled name = false ∧ ∀ question, r.answer name l question ≠ some true) := by
  refine ⟨r.isSupported_iff name l, r.exclusive_ways name l, r.isSupported_eq_or name l,
    r.isSupportedAsFeature_eq_and_not name l, fun record found => ⟨?_, ?_, ?_⟩,
    fun unknown => ⟨?_, answer_ne_of_unknown unknown l⟩⟩
  · rw [isSupportedAsCore, found]
    exact record.supportedAsCoreIn_iff l
  · rw [isSupportedAsOptionalCore, found]
    exact record.supportedAsOptionalCoreIn_iff l
  · exact record.availableIn_of_feature l
  · rw [isEnabled, find?_eq_none_iff.mpr unknown]
    rfl

/-- A snapshot that calls a name core and optional core from the beginning, with every bit of
both words set, but available since version 2.0 only. -/
def allBits : Snapshot :=
  ⟨[{ name := "vendor", since := 200, core := ⟨0xffffffff⟩, optionalCore := ⟨0xffffffff⟩,
      supported := true }]⟩

theorem support_partitioned_allBits :
    let r := initial.changed (.restore allBits)
    let record : Record :=
      { since := 200, core := ⟨0xffffffff⟩, optionalCore := ⟨0xffffffff⟩, supported := true }
    r.find? "vendor" = some record ∧
      r.isSupported "vendor" (.c .v12) = false ∧
      r.isSupportedAsCore "vendor" (.cplusplus 7) = true ∧
      r.isSupportedAsOptionalCore "vendor" (.cplusplus 7) = false ∧
      record.coreIn (.cplusplus 7) = true ∧ record.availableIn (.cplusplus 7) = true ∧
      r.isKnown "missing" = false ∧ r.isEnabled "missing" = false ∧
      ∀ question, r.answer "missing" (.c .v30) question ≠ some true := by
  intro r record
  have found : r.find? "vendor" = some record := by
    rw [find?_changed, find?_initial_eq_none (by decide +kernel)]
    decide
  have unknown : r.isKnown "missing" = false := by
    rw [← find?_eq_none_iff, find?_changed, find?_initial_eq_none (by decide +kernel)]
    decide
  obtain ⟨early, -⟩ := support_partitioned r "vendor" (.c .v12)
  obtain ⟨-, -, -, -, known, -⟩ := support_partitioned r "vendor" (.cplusplus 7)
  obtain ⟨core, optionalCore, available⟩ := known record found
  obtain ⟨-, -, -, -, -, unaffirmed⟩ := support_partitioned r "missing" (.c .v30)
  refine ⟨found, ?_, core.mpr (by decide), ?_, by decide, available (by decide), unknown,
    unaffirmed unknown⟩
  · rw [← Bool.not_eq_true, early]
    rintro ⟨other, same, -, available, -⟩
    rw [found] at same
    cases same
    exact absurd available (by decide)
  · rw [← Bool.not_eq_true, optionalCore]
    decide

end Registry

end OpenCLRegistry
