import OpenCLRegistry.Proofs.Registry.CoreEnabling
import OpenCLRegistry.Proofs.Registry.Report
import OpenCLRegistry.Proofs.Registry.Restoration

/-!
# Metadata that no version shows

Numbers of first versions are compared with five numbers only, and of a set only the
bits of five versions are looked at. Records that agree as far as that goes are
answered for alike in every language, and every change does the same to both. So
registries which hold such records under the same names stay like that along every run,
and nothing that they report or answer tells them apart. A snapshot does, and so does the
question whether a set has any bits.
-/
namespace OpenCLRegistry

theorem VersionSet.has_inter_every (s : VersionSet) (v : Version) :
    (s ∩ every).has v = s.has v := by
  have inside : every.bits &&& (only v).bits = (only v).bits := by cases v <;> decide
  calc (s ∩ every).has v
      = ((s.bits &&& every.bits) &&& (only v).bits != 0) := rfl
    _ = (s.bits &&& (only v).bits != 0) := by rw [UInt32.and_assoc, inside]

/-- No version lies between the first versions, and the sets have the same versions. -/
structure Metadata.AlikeInVersions (m n : Metadata) : Prop where
  since : ∀ v : Version, m.since ≤ v.number ↔ n.since ≤ v.number
  core : m.core ∩ .every = n.core ∩ .every
  optionalCore : m.optionalCore ∩ .every = n.optionalCore ∩ .every

structure Record.AlikeInVersions (x y : Record) : Prop
    extends Metadata.AlikeInVersions x.toMetadata y.toMetadata where
  supported : x.supported = y.supported
  enabled : x.enabled = y.enabled

/-- The registries know the same names, and their records correspond name by name. -/
def Registry.AlikeInVersions (r s : Registry) : Prop :=
  ∀ name, Option.Rel Record.AlikeInVersions (r.find? name) (s.find? name)

/-! ## Two records -/

namespace Metadata.AlikeInVersions

variable {m n : Metadata} (h : m.AlikeInVersions n) (l : Language)

include h

theorem has_core (v : Version) : m.core.has v = n.core.has v := by
  rw [← VersionSet.has_inter_every, h.core, VersionSet.has_inter_every]

theorem has_optionalCore (v : Version) : m.optionalCore.has v = n.optionalCore.has v := by
  rw [← VersionSet.has_inter_every, h.optionalCore, VersionSet.has_inter_every]

theorem availableIn : m.availableIn l = n.availableIn l :=
  decide_eq_decide.mpr (h.since l.effective)

theorem coreIn : m.coreIn l = n.coreIn l := by
  rw [Metadata.coreIn, h.availableIn, h.has_core, Metadata.coreIn]

theorem optionalCoreIn : m.optionalCoreIn l = n.optionalCoreIn l := by
  rw [Metadata.optionalCoreIn, h.availableIn, h.has_optionalCore, Metadata.optionalCoreIn]

end Metadata.AlikeInVersions

namespace Record.AlikeInVersions

theorem refl (x : Record) : x.AlikeInVersions x where
  since _ := Iff.rfl
  core := rfl
  optionalCore := rfl
  supported := rfl
  enabled := rfl

variable {x y : Record} (h : x.AlikeInVersions y) (l : Language)

include h

theorem way? : x.way? l = y.way? l := by
  simp only [Record.way?, h.supported, h.enabled, h.availableIn, h.has_core, h.has_optionalCore]

theorem supportedIn : x.supportedIn l = y.supportedIn l := by
  rw [supportedIn_eq, h.way?, supportedIn_eq]

theorem supportedAsCoreIn : x.supportedAsCoreIn l = y.supportedAsCoreIn l := by
  rw [supportedAsCoreIn_eq, h.way?, supportedAsCoreIn_eq]

theorem supportedAsOptionalCoreIn :
    x.supportedAsOptionalCoreIn l = y.supportedAsOptionalCoreIn l := by
  rw [supportedAsOptionalCoreIn_eq, h.way?, supportedAsOptionalCoreIn_eq]

theorem supportedAsExtensionIn : x.supportedAsExtensionIn l = y.supportedAsExtensionIn l := by
  rw [supportedAsExtensionIn_eq, h.way?, supportedAsExtensionIn_eq]

theorem coreToEnable : Registry.coreToEnable l x = Registry.coreToEnable l y := by
  rw [coreToEnable_eq, h.way?, coreToEnable_eq]

/-- Writing the same flags into both keeps them alike. -/
theorem withFlags (supported enabled : Bool) :
    ({ x with supported, enabled } : Record).AlikeInVersions { y with supported, enabled } :=
  { h with supported := rfl, enabled := rfl }

theorem withSupported (supported : Bool) :
    ({ x with supported } : Record).AlikeInVersions { y with supported } :=
  { h with supported := rfl }

theorem withEnabled (enabled : Bool) :
    ({ x with enabled } : Record).AlikeInVersions { y with enabled } :=
  { h with enabled := rfl }

theorem reported (value? : Option Bool) :
    (x.reported l value?).AlikeInVersions (y.reported l value?) := by
  cases value? with
  | none => exact h
  | some value =>
    simp only [Record.reported, h.availableIn]
    split_ifs
    · exact h.withSupported value
    · exact h

theorem withCoreEnabled :
    (Registry.withCoreEnabled l x).AlikeInVersions (Registry.withCoreEnabled l y) := by
  simp only [Registry.withCoreEnabled, h.coreToEnable]
  split_ifs
  · exact h.withEnabled true
  · exact h

end Record.AlikeInVersions

/-! ## What is found under a name -/

theorem Record.rel_refl (x? : Option Record) : Option.Rel Record.AlikeInVersions x? x? := by
  cases x? with
  | none => exact .none
  | some x => exact .some (.refl x)

section Found

variable {x? y? : Option Record} (h : Option.Rel Record.AlikeInVersions x? y?)

include h

theorem Record.rel_map {f : Record → Record}
    (kept : ∀ x y : Record, x.AlikeInVersions y → (f x).AlikeInVersions (f y)) :
    Option.Rel Record.AlikeInVersions (x?.map f) (y?.map f) := by
  cases h with
  | none => exact .none
  | some alike => exact .some (kept _ _ alike)

theorem Record.map_eq_of_rel {α : Type} {f : Record → α}
    (same : ∀ x y : Record, x.AlikeInVersions y → f x = f y) : x?.map f = y?.map f := by
  cases h with
  | none => rfl
  | some alike => exact congrArg some (same _ _ alike)

/-- A name that neither registry has known comes in with the same metadata. -/
theorem Record.rel_foldl_restored (entries : List SavedRecord) :
    Option.Rel Record.AlikeInVersions (entries.foldl restored x?) (entries.foldl restored y?) := by
  induction entries generalizing x? y? with
  | nil => exact h
  | cons entry rest ih =>
    refine ih ?_
    cases h with
    | none => exact .some (.refl _)
    | some alike => exact .some (alike.withFlags entry.supported entry.enabled)

/-- Every change does the same to both. -/
theorem Change.rel_effect (c : Change) (name : String) :
    Option.Rel Record.AlikeInVersions (c.effect name x?) (c.effect name y?) := by
  cases c with
  | setEnabled other value =>
    simp only [effect]
    split_ifs
    · exact Record.rel_map h fun _ _ alike => alike.withEnabled value
    · exact h
  | setSupported other value =>
    simp only [effect]
    split_ifs
    · exact Record.rel_map h fun _ _ alike => alike.withSupported value
    · exact h
  | adopt features l => exact Record.rel_map h fun _ _ alike => alike.reported l _
  | clearEnabled => exact Record.rel_map h fun _ _ alike => alike.withEnabled false
  | enableCore l => exact Record.rel_map h fun _ _ alike => alike.withCoreEnabled l
  | restore s => exact Record.rel_foldl_restored h (s.entriesOf name)

end Found

/-! ## Two registries -/

namespace Registry

namespace AlikeInVersions

variable {r s : Registry} (h : r.AlikeInVersions s)

include h

theorem map_find? (name : String) {α : Type} {f : Record → α}
    (same : ∀ x y : Record, x.AlikeInVersions y → f x = f y) :
    (r.find? name).map f = (s.find? name).map f :=
  Record.map_eq_of_rel (h name) same

theorem any_find? (name : String) {p : Record → Bool}
    (same : ∀ x y : Record, x.AlikeInVersions y → p x = p y) :
    (r.find? name).any p = (s.find? name).any p := by
  have mapped := congrArg (Option.any id) (h.map_find? name same)
  rwa [Option.any_map, Option.any_map] at mapped

theorem isKnown (name : String) : r.isKnown name = s.isKnown name := by
  have mapped := congrArg Option.isSome (h.map_find? name (f := fun _ => ()) fun _ _ _ => rfl)
  rwa [Option.isSome_map, Option.isSome_map] at mapped

theorem answer (name : String) (l : Language) (question : Question) :
    r.answer name l question = s.answer name l question := by
  have core := h.any_find? name fun _ _ alike => alike.supportedAsCoreIn l
  have optionalCore := h.any_find? name fun _ _ alike => alike.supportedAsOptionalCoreIn l
  cases question with
  | available => exact h.map_find? name fun _ _ alike => alike.availableIn l
  | core => exact h.map_find? name fun _ _ alike => alike.coreIn l
  | optionalCore => exact h.map_find? name fun _ _ alike => alike.optionalCoreIn l
  | supported => exact congrArg some (h.any_find? name fun _ _ alike => alike.supportedIn l)
  | supportedAsCore => exact congrArg some core
  | supportedAsOptionalCore => exact congrArg some optionalCore
  | supportedAsFeature => exact congrArg some (congrArg₂ _ core optionalCore)
  | supportedAsExtension =>
    exact congrArg some (h.any_find? name fun _ _ alike => alike.supportedAsExtensionIn l)

theorem refusal? (l : Language) (name : String) : r.refusal? l name = s.refusal? l name := by
  have found := h name
  rw [Registry.refusal?, Registry.refusal?, metadata?, metadata?]
  generalize r.find? name = x?, s.find? name = y? at found
  cases found with
  | none => rfl
  | some alike => simp [alike.availableIn l]

theorem events_enableCore (l : Language) :
    (r.enableCore l).events = (s.enableCore l).events := by
  have due (t : Registry) (name : String) :
      (∃ record, t.find? name = some record ∧ record.supported = true ∧
        (record.coreIn l = true ∨ record.optionalCoreIn l = true)) ↔
      (t.find? name).any (coreToEnable l) = true := by
    simp only [Option.any_eq_true, Record.coreToEnable_iff]
  obtain ⟨names, nodup, mem_iff, reported⟩ := r.events_enableCore l
  obtain ⟨names', nodup', mem_iff', reported'⟩ := s.events_enableCore l
  have perm : names.Perm names' := (List.perm_ext_iff_of_nodup nodup nodup').mpr fun name => by
    rw [mem_iff, mem_iff', due, due, h.any_find? name fun _ _ alike => alike.coreToEnable l]
  rw [reported, reported', perm.length_eq]

theorem events_restore (snapshot : Snapshot) :
    (r.restore snapshot).events = (s.restore snapshot).events := by
  obtain ⟨fresh, newcomers, reported⟩ := r.events_restore snapshot
  obtain ⟨fresh', newcomers', reported'⟩ := s.events_restore snapshot
  rw [reported, reported', newcomers.unique newcomers' h.isKnown]

theorem report (c : Change) : r.report c = s.report c := by
  cases c with
  | setEnabled name value => rw [report_setEnabled, report_setEnabled, h.isKnown]
  | setSupported name value => rw [report_setSupported, report_setSupported, h.isKnown]
  | adopt features l =>
    have events : (r.adopt features l).events = (s.adopt features l).events := by
      rw [events_adopt, events_adopt, funext (h.refusal? l)]
    exact congrArg (Reply.mk none) events
  | clearEnabled =>
    have size : r.size = s.size := by
      rw [size_eq_length_names, names_congr h.isKnown, size_eq_length_names]
    exact congrArg (fun entries => Reply.mk none [Event.allDisabled entries]) size
  | enableCore l => exact congrArg (Reply.mk none) (h.events_enableCore l)
  | restore snapshot => exact congrArg (Reply.mk none) (h.events_restore snapshot)

theorem changed (c : Change) : (r.changed c).AlikeInVersions (s.changed c) := by
  intro name
  rw [find?_changed, find?_changed]
  exact c.rel_effect (h name) name

theorem after (changes : List Change) : (r.after changes).AlikeInVersions (s.after changes) := by
  induction changes generalizing r s with
  | nil => exact h
  | cons c rest ih => exact ih (h.changed c)

theorem reports (changes : List Change) : r.reports changes = s.reports changes := by
  induction changes generalizing r s with
  | nil => rfl
  | cons c rest ih => rw [Registry.reports, Registry.reports, h.report, ih (h.changed c)]

end AlikeInVersions

/-- Of the metadata only what the versions can tell apart matters. Records that are alike in this
and in their flags are answered for alike, and to adopt features or to enable core features writes
the same flags into both, wherever they stand. Registries whose records correspond in this way
name by name keep doing so along every run, their reports are the same and so are their answers. -/
theorem only_versions_matter :
    (∀ x y : Record, x.AlikeInVersions y → ∀ l : Language,
      x.availableIn l = y.availableIn l ∧ x.coreIn l = y.coreIn l ∧
      x.optionalCoreIn l = y.optionalCoreIn l ∧ x.supportedIn l = y.supportedIn l ∧
      x.supportedAsCoreIn l = y.supportedAsCoreIn l ∧
      x.supportedAsOptionalCoreIn l = y.supportedAsOptionalCoreIn l ∧
      x.supportedAsExtensionIn l = y.supportedAsExtensionIn l) ∧
    (∀ (r s : Registry) (name other : String),
      Option.Rel Record.AlikeInVersions (r.find? name) (s.find? other) → ∀ l : Language,
      (∀ features others : TargetFeatures, features.get? name = others.get? other →
        Option.Rel Record.AlikeInVersions ((r.adopt features l).value.find? name)
          ((s.adopt others l).value.find? other)) ∧
      Option.Rel Record.AlikeInVersions ((r.enableCore l).value.find? name)
        ((s.enableCore l).value.find? other)) ∧
    ∀ r s : Registry, r.AlikeInVersions s → ∀ changes : List Change,
      (r.after changes).AlikeInVersions (s.after changes) ∧
      r.reports changes = s.reports changes ∧
      ∀ (name : String) (l : Language) (question : Question),
        (r.after changes).answer name l question = (s.after changes).answer name l question := by
  refine ⟨fun x y alike l => ?_, fun r s name other alike l => ⟨fun features others same => ?_, ?_⟩,
    fun r s alike changes => ⟨alike.after changes, alike.reports changes, ?_⟩⟩
  · exact ⟨alike.availableIn l, alike.coreIn l, alike.optionalCoreIn l, alike.supportedIn l,
      alike.supportedAsCoreIn l, alike.supportedAsOptionalCoreIn l, alike.supportedAsExtensionIn l⟩
  · rw [value_adopt, value_adopt, find?_changed, find?_changed, Change.effect, Change.effect, same]
    exact Record.rel_map alike fun _ _ alike => alike.reported l _
  · rw [find?_enableCore, find?_enableCore]
    exact Record.rel_map alike fun _ _ alike => alike.withCoreEnabled l
  · exact (alike.after changes).answer

/-- A first version between two versions, and a bit of no version in either word. -/
def oddVendor : Record :=
  { since := 121, core := ⟨0x20⟩, optionalCore := ⟨0x80000008⟩ }

/-- The same as far as the versions go. -/
def plainVendor : Record :=
  { since := 200, optionalCore := .only .v20 }

/-- The initial registry with one more name. -/
def withVendor (record : Record) : Registry :=
  initial.changed (.restore ⟨[{ record with name := "vendor" }]⟩)

theorem find?_withVendor (record : Record) (name : String) :
    (withVendor record).find? name =
      if name = "vendor" then some record else initial.find? name := by
  rw [withVendor, find?_changed, Change.effect, Snapshot.entriesOf]
  by_cases here : name = "vendor"
  · subst here
    have new : initial.find? "vendor" = none := find?_initial_eq_none (by decide +kernel)
    simp [new, Record.restored, Record.withFlagsOf]
  · simp [here, Ne.symm here]

/-- The name is supported and enabled in C++ mode, and then restored with other metadata. -/
def vendorChanges : List Change :=
  [.adopt (.ofPairs [("vendor", true)]) (.cplusplus 7), .enableCore (.cplusplus 130),
    .restore ⟨[{ name := "vendor", since := 7, supported := true, enabled := true }]⟩]

theorem only_versions_matter_vendor :
    let odd := withVendor oddVendor
    let plain := withVendor plainVendor
    oddVendor.AlikeInVersions plainVendor ∧ oddVendor.isCore ≠ plainVendor.isCore ∧
      (∀ l, oddVendor.optionalCoreIn l = plainVendor.optionalCoreIn l) ∧
      Option.Rel Record.AlikeInVersions
        ((odd.adopt (.ofPairs [("vendor", true)]) (.c .v12)).value.find? "vendor")
        ((plain.adopt (.ofPairs [("vendor", true)]) (.c .v12)).value.find? "vendor") ∧
      odd.AlikeInVersions plain ∧ odd ≠ plain ∧
      (odd.after vendorChanges).AlikeInVersions (plain.after vendorChanges) ∧
      odd.reports vendorChanges = plain.reports vendorChanges ∧
      ∀ name l question, (odd.after vendorChanges).answer name l question =
        (plain.after vendorChanges).answer name l question := by
  intro odd plain
  have records : oddVendor.AlikeInVersions plainVendor :=
    { since := fun v => by cases v <;> decide
      core := by decide
      optionalCore := by decide
      supported := rfl
      enabled := rfl }
  have alike : odd.AlikeInVersions plain := fun name => by
    rw [find?_withVendor, find?_withVendor]
    split_ifs
    · exact .some records
    · exact Record.rel_refl _
  have different : odd ≠ plain := fun same => by
    have found := congrArg (fun r => r.find? "vendor") same
    simp only [odd, plain, find?_withVendor] at found
    exact absurd found (by decide)
  obtain ⟨answered, written, kept⟩ := only_versions_matter
  exact ⟨records, by decide, fun l => (answered _ _ records l).2.2.1,
    (written odd plain "vendor" "vendor" (alike _) (.c .v12)).1 _ _ rfl, alike, different,
    kept odd plain alike vendorChanges⟩

end Registry

end OpenCLRegistry
