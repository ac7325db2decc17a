import OpenCLRegistry.Proofs.Registry.Support

/-!
# Enabling core features

Enabling the core and optional core features of a language changes no answer there,
because a feature of the language counts whether it is enabled or not. It shows in
other languages that have the same option as an extension. To enable for several
languages is to enable what is a feature of any of them, in whatever order.
-/
namespace OpenCLRegistry

namespace Record

open Registry

variable (record : Record) (l other : Language)

theorem coreToEnable_iff :
    coreToEnable l record = true ↔
      record.supported = true ∧ (record.coreIn l = true ∨ record.optionalCoreIn l = true) := by
  rw [coreToEnable, Bool.and_eq_true, Bool.or_eq_true]

/-- Bulk enabling is about the records that are supported as features of the language. -/
theorem coreToEnable_eq : coreToEnable l record = (record.way? l).any Way.isFeature := by
  simp only [coreToEnable, way?, Metadata.coreIn, Metadata.optionalCoreIn]
  split_ifs <;> simp_all [Way.isFeature]

theorem coreToEnable_withEnabled (value : Bool) :
    coreToEnable l { record with enabled := value } = coreToEnable l record := rfl

theorem withCoreEnabled_eq :
    withCoreEnabled l record =
      { record with enabled := record.enabled || coreToEnable l record } := by
  unfold withCoreEnabled
  cases due : coreToEnable l record <;> simp

/-- What has been enabled as a feature of one language may count as an extension in another. -/
theorem way?_withCoreEnabled :
    (withCoreEnabled l record).way? other = (record.way? other).or
      (if coreToEnable l record && record.availableIn other then some .extension else none) := by
  unfold withCoreEnabled
  cases due : coreToEnable l record with
  | false => simp
  | true =>
    have supported := ((record.coreToEnable_iff l).mp due).1
    rw [if_pos rfl, way?_enabled, supported]

theorem way?_withCoreEnabled_self : (withCoreEnabled l record).way? l = record.way? l := by
  rw [way?_withCoreEnabled, coreToEnable_eq]
  rcases record.way? l with _ | _ | _ | _ <;> rfl

theorem supportedIn_withCoreEnabled :
    (withCoreEnabled l record).supportedIn other =
      (record.supportedIn other || coreToEnable l record && record.availableIn other) := by
  rw [supportedIn_eq, supportedIn_eq, way?_withCoreEnabled, Option.isSome_or]
  cases coreToEnable l record && record.availableIn other <;> rfl

/-- A supported option that does not count in a language is no feature of it. -/
theorem no_feature_of_not_supportedIn (supported : record.supported = true)
    (unsupported : record.supportedIn l = false) :
    record.coreIn l = false ∧ record.optionalCoreIn l = false := by
  have none : coreToEnable l record = false := by
    rw [supportedIn_eq, Option.isSome_eq_false_iff, Option.isNone_iff_eq_none] at unsupported
    rw [coreToEnable_eq, unsupported]
    rfl
  simpa [coreToEnable, supported] using none

theorem supportedIn_eq_and :
    record.supportedIn l = (record.supported && record.availableIn l &&
      (record.enabled || coreToEnable l record)) := by
  simp only [supportedIn, coreToEnable, Metadata.coreIn, Metadata.optionalCoreIn]
  grind

/-- After bulk enabling the flags say what is supported wherever it is available. -/
theorem supportedIn_withCoreEnabled_self :
    (withCoreEnabled l record).supportedIn l =
      ((withCoreEnabled l record).supported && (withCoreEnabled l record).availableIn l &&
        (withCoreEnabled l record).enabled) := by
  rw [supportedIn_eq, way?_withCoreEnabled_self, ← supportedIn_eq, supportedIn_eq_and,
    supported_withCoreEnabled, enabled_withCoreEnabled, toMetadata_withCoreEnabled]

end Record

namespace Registry

variable (r : Registry) (l : Language)

theorem find?_enableCore (name : String) :
    (r.enableCore l).value.find? name = (r.find? name).map (withCoreEnabled l) :=
  find?_updateAll ..

theorem metadata?_enableCore (name : String) :
    (r.enableCore l).value.metadata? name = r.metadata? name :=
  (r.metadata?_changed (.enableCore l) name).trans Option.or_none

theorem way?_enableCore_self (name : String) :
    (r.enableCore l).value.way? name l = r.way? name l := by
  rw [way?, find?_enableCore, way?]
  cases r.find? name with
  | none => rfl
  | some record => exact record.way?_withCoreEnabled_self l

/-- Languages with one effective version get the same answers as before. -/
theorem answer_enableCore {other : Language} (same : other.effective = l.effective) (name : String)
    (question : Question) :
    (r.enableCore l).value.answer name other question = r.answer name other question := by
  -- the bulk change reads nothing of the language but its effective version
  rw [← r.enableCore_congr same]
  exact answer_congr_of_way (r.metadata?_enableCore other name) (r.way?_enableCore_self other name)
    question

theorem isSupported_enableCore_self_iff (name : String) :
    (r.enableCore l).value.isSupported name l = true ↔
      ∃ record, (r.enableCore l).value.find? name = some record ∧ record.supported = true ∧
        record.enabled = true ∧ record.since ≤ l.effective.number := by
  rw [isSupported, Option.any_eq_true, find?_enableCore]
  refine exists_congr fun record => and_congr_right fun found => ?_
  obtain ⟨record, -, rfl⟩ := Option.map_eq_some_iff.mp found
  rw [Record.supportedIn_withCoreEnabled_self, Bool.and_eq_true, Bool.and_eq_true, and_assoc,
    Metadata.availableIn, decide_eq_true_eq]
  exact and_congr_right fun _ => and_comm

theorem isSupported_enableCore (name : String) (other : Language) :
    (r.enableCore l).value.isSupported name other = (r.isSupported name other ||
      (r.find? name).any fun record => coreToEnable l record && record.availableIn other) := by
  rw [isSupported, find?_enableCore, isSupported]
  cases r.find? name with
  | none => rfl
  | some record => exact record.supportedIn_withCoreEnabled l other

/-- What is newly supported is an extension where it is, and was a feature of the language. -/
theorem isSupported_enableCore_iff {name : String} {other : Language}
    (unsupported : r.isSupported name other = false) :
    (r.enableCore l).value.isSupported name other = true ↔
      ∃ record, r.find? name = some record ∧ record.supported = true ∧
        (record.coreIn l = true ∨ record.optionalCoreIn l = true) ∧
        record.availableIn other = true ∧
        record.coreIn other = false ∧ record.optionalCoreIn other = false := by
  rw [isSupported_enableCore, unsupported, Bool.false_or, Option.any_eq_true]
  refine exists_congr fun record => and_congr_right fun found => ?_
  rw [Bool.and_eq_true, Record.coreToEnable_iff]
  constructor
  · rintro ⟨⟨supported, feature⟩, available⟩
    rw [isSupported, found] at unsupported
    exact ⟨supported, feature, available,
      record.no_feature_of_not_supportedIn other supported unsupported⟩
  · rintro ⟨supported, feature, available, -⟩
    exact ⟨⟨supported, feature⟩, available⟩

/-- The count that is reported is that of the names enabled, each of them once. -/
theorem events_enableCore :
    ∃ names : List String, names.Nodup ∧
      (∀ name, name ∈ names ↔ ∃ record, r.find? name = some record ∧ record.supported = true ∧
        (record.coreIn l = true ∨ record.optionalCoreIn l = true)) ∧
      (r.enableCore l).events = [.coreEnabled names.length] := by
  refine ⟨(r.records.entries.filter fun e => coreToEnable l e.2).map Prod.fst, ?_, ?_, ?_⟩
  · exact NameMap.nodup_of_ascending (r.records.ascending.filter _)
  · intro name
    simp only [List.mem_map, List.mem_filter, Record.coreToEnable_iff]
    constructor
    · rintro ⟨⟨_, record⟩, ⟨mem, due⟩, rfl⟩
      exact ⟨record, NameMap.get?_eq_some_iff.mpr mem, due⟩
    · rintro ⟨record, found, due⟩
      exact ⟨(name, record), ⟨NameMap.get?_eq_some_iff.mp found, due⟩, rfl⟩
  · rw [enableCore, List.countP_eq_length_filter, List.length_map]

/-! ## Several languages -/

/-- Only being enabled changes, and bulk enabling does not look at that. -/
theorem find?_after_enableCore (langs : List Language) (name : String) :
    (r.after (langs.map .enableCore)).find? name = (r.find? name).map fun record =>
      { record with enabled := record.enabled || langs.any fun l => coreToEnable l record } := by
  -- what the first language has enabled is part of the registry for the others
  induction langs generalizing r with
  | nil => simp
  | cons l rest ih =>
    rw [List.map_cons, after_cons, ih, find?_changed, Change.effect, Option.map_map]
    refine congrArg (fun f => (r.find? name).map f) (funext fun record => ?_)
    simp only [Function.comp_apply, Record.withCoreEnabled_eq, Record.coreToEnable_withEnabled,
      List.any_cons, Bool.or_assoc]

theorem any_coreToEnable (langs : List Language) (record : Record) :
    (langs.any fun l => coreToEnable l record) =
      (record.supported && langs.any fun l => record.coreIn l || record.optionalCoreIn l) :=
  (List.and_any_distrib_left ..).symm

theorem after_enableCore_congr {langs others : List Language}
    (same : ∀ l, l ∈ langs ↔ l ∈ others) :
    r.after (langs.map .enableCore) = r.after (others.map .enableCore) := by
  have alike (record : Record) :
      (langs.any fun l => coreToEnable l record) = others.any fun l => coreToEnable l record := by
    rw [Bool.eq_iff_iff, List.any_eq_true, List.any_eq_true]
    exact exists_congr fun l => and_congr_left fun _ => same l
  ext1 name
  simp only [find?_after_enableCore, alike]

/-- After the core features of a language have been enabled, what is supported there can be read
off the flags, and nothing that can be asked about the language has changed. In another language
nothing ceases to be supported, and what comes to be supported is an extension there. The report
counts the supported features, those already enabled included. For any languages in turn, in
whatever order and however often, enabled is what was so or is a supported feature of one of
them, and nothing else changes. -/
theorem enableCore_seen_elsewhere (r : Registry) (l : Language) :
    (∀ name, (r.enableCore l).value.isSupported name l = true ↔
      ∃ record, (r.enableCore l).value.find? name = some record ∧ record.supported = true ∧
        record.enabled = true ∧ record.since ≤ l.effective.number) ∧
    (∀ other : Language, other.effective = l.effective → ∀ name question,
      (r.enableCore l).value.answer name other question = r.answer name other question) ∧
    (∀ name other,
      (r.isSupported name other = true →
        (r.enableCore l).value.isSupported name other = true) ∧
      (r.isSupported name other = false →
        ((r.enableCore l).value.isSupported name other = true ↔
          ∃ record, r.find? name = some record ∧ record.supported = true ∧
            (record.coreIn l = true ∨ record.optionalCoreIn l = true) ∧
            record.availableIn other = true ∧
            record.coreIn other = false ∧ record.optionalCoreIn other = false))) ∧
    (∃ names : List String, names.Nodup ∧
      (∀ name, name ∈ names ↔ ∃ record, r.find? name = some record ∧ record.supported = true ∧
        (record.coreIn l = true ∨ record.optionalCoreIn l = true)) ∧
      (r.enableCore l).events = [.coreEnabled names.length]) ∧
    (∀ (langs : List Language) (name : String),
      (r.after (langs.map .enableCore)).find? name = (r.find? name).map fun record =>
        { record with
          enabled := record.enabled || record.supported &&
            langs.any fun other => record.coreIn other || record.optionalCoreIn other }) ∧
    ∀ langs others : List Language, (∀ other, other ∈ langs ↔ other ∈ others) →
      r.after (langs.map .enableCore) = r.after (others.map .enableCore) := by
  refine ⟨r.isSupported_enableCore_self_iff l, fun other same => r.answer_enableCore l same,
    fun name other => ⟨fun supported => ?_, r.isSupported_enableCore_iff l⟩,
    r.events_enableCore l, fun langs name => ?_, fun langs others => r.after_enableCore_congr⟩
  · rw [isSupported_enableCore, supported, Bool.true_or]
  · simp only [find?_after_enableCore, any_coreToEnable]

/-- A row of the catalog that is optional core since version 1.2 and an extension before. -/
def doubleFloats : CatalogRow := .optionalCoreFeature "cl_khr_fp64" 100 .since12

/-- A registry in which the target supports nothing but that option. -/
def doubles : Registry := initial.changed (.setSupported doubleFloats.name true)

theorem find?_doubles :
    doubles.find? doubleFloats.name =
      some { Record.ofMetadata doubleFloats.toMetadata with supported := true } := by
  have listed : doubleFloats ∈ catalog := by decide +kernel
  rw [doubles, find?_changed, find?_initial listed, Change.effect, if_pos rfl, Option.map_some]

theorem enableCore_seen_elsewhere_doubles :
    let enabled := (doubles.enableCore (.c .v20)).value
    (Language.cplusplus 7).effective = (Language.c .v20).effective ∧
      (∀ question, enabled.answer doubleFloats.name (.cplusplus 7) question =
        doubles.answer doubleFloats.name (.cplusplus 7) question) ∧
      doubles.isSupported doubleFloats.name (.c .v30) = true ∧
      enabled.isSupported doubleFloats.name (.c .v30) = true ∧
      doubles.isSupported doubleFloats.name (.c .v10) = false ∧
      enabled.isSupported doubleFloats.name (.c .v10) = true ∧
      (∀ l, l ∈ [Language.c .v12, .c .v20, .c .v12] ↔ l ∈ [Language.c .v20, .c .v12]) ∧
      doubles.after ([.c .v12, .c .v20, .c .v12].map .enableCore) =
        doubles.after ([.c .v20, .c .v12].map .enableCore) := by
  intro enabled
  obtain ⟨-, alike, others, -, -, listed⟩ := enableCore_seen_elsewhere doubles (.c .v20)
  have later : doubles.isSupported doubleFloats.name (.c .v30) = true := by
    rw [isSupported, find?_doubles]
    decide
  have before : doubles.isSupported doubleFloats.name (.c .v10) = false := by
    rw [isSupported, find?_doubles]
    decide
  have same : ∀ l, l ∈ [Language.c .v12, .c .v20, .c .v12] ↔ l ∈ [Language.c .v20, .c .v12] := by
    simp [or_comm]
  refine ⟨rfl, alike (.cplusplus 7) rfl doubleFloats.name, later,
    (others doubleFloats.name (.c .v30)).1 later, before, ?_, same, listed _ _ same⟩
  exact ((others doubleFloats.name (.c .v10)).2 before).mpr ⟨_, find?_doubles, by decide⟩

end Registry

end OpenCLRegistry
