import OpenCLRegistry.Proofs.Registry.CoreEnabling

/-!
# Clearing enabled flags

Once every enabled flag is clear, what remains supported in a language is what the
language has as a feature itself. Registries that differ in nothing but these flags
have then become equal, and they stay so when core features are enabled: nothing of
what one source text has enabled reaches the next.
-/
namespace OpenCLRegistry.Registry

variable (r : Registry) (l : Language) (name : String)

theorem find?_clearEnabled :
    r.clearEnabled.value.find? name =
      (r.find? name).map fun record => { record with enabled := false } :=
  find?_updateAll ..

/-! ## What remains supported -/

theorem way?_clearEnabled :
    r.clearEnabled.value.way? name l = (r.way? name l).filter Way.isFeature := by
  rw [way?, find?_clearEnabled, way?]
  cases r.find? name with
  | none => rfl
  | some record => exact record.way?_cleared l

theorem isSupportedAsCore_clearEnabled :
    r.clearEnabled.value.isSupportedAsCore name l = r.isSupportedAsCore name l := by
  rw [isSupportedAsCore_eq, isSupportedAsCore_eq, way?_clearEnabled]
  rcases r.way? name l with _ | _ | _ | _ <;> rfl

theorem isSupportedAsOptionalCore_clearEnabled :
    r.clearEnabled.value.isSupportedAsOptionalCore name l =
      r.isSupportedAsOptionalCore name l := by
  rw [isSupportedAsOptionalCore_eq, isSupportedAsOptionalCore_eq, way?_clearEnabled]
  rcases r.way? name l with _ | _ | _ | _ <;> rfl

theorem isSupportedAsExtension_clearEnabled :
    r.clearEnabled.value.isSupportedAsExtension name l = false := by
  rw [isSupportedAsExtension_eq, way?_clearEnabled]
  rcases r.way? name l with _ | _ | _ | _ <;> rfl

theorem isSupported_clearEnabled :
    r.clearEnabled.value.isSupported name l = r.isSupportedAsFeature name l := by
  rw [isSupported_eq, isSupportedAsFeature_eq, way?_clearEnabled]
  rcases r.way? name l with _ | _ | _ | _ <;> rfl

/-! ## What is forgotten -/

/-- The registries know the same names with the same metadata, and their records have the same
supported flags. -/
def AlikeButForEnabled (r s : Registry) : Prop :=
  ∀ name, r.metadata? name = s.metadata? name ∧
    flag? (·.supported) r name = flag? (·.supported) s name

theorem clearEnabled_eq_iff {r s : Registry} :
    r.clearEnabled.value = s.clearEnabled.value ↔ r.AlikeButForEnabled s := by
  have metadata (r : Registry) (name : String) :
      r.clearEnabled.value.metadata? name = r.metadata? name :=
    (r.metadata?_changed .clearEnabled name).trans Option.or_none
  have supported (r : Registry) (name : String) :
      flag? (·.supported) r.clearEnabled.value name = flag? (·.supported) r name :=
    supported?_changed name r .clearEnabled
  have enabled (r : Registry) (name : String) :
      flag? (·.enabled) r.clearEnabled.value name = (r.metadata? name).map fun _ => false := by
    rw [flag?, find?_clearEnabled, Option.map_map, metadata?, Option.map_map]
    rfl
  constructor
  · intro same name
    rw [← metadata r, ← metadata s, ← supported r, ← supported s, same]
    exact ⟨rfl, rfl⟩
  · intro alike
    ext1 name
    obtain ⟨sameMetadata, sameSupported⟩ := alike name
    refine find?_eq_of_parts ?_ ?_ ?_
    · rw [metadata, metadata, sameMetadata]
    · rw [supported, supported, sameSupported]
    · rw [enabled, enabled, sameMetadata]

theorem alikeButForEnabled_setEnabled (other : String) (value : Bool) :
    (r.changed (.setEnabled other value)).AlikeButForEnabled r := by
  intro name
  constructor
  · exact (r.metadata?_changed _ name).trans Option.or_none
  · exact supported?_changed name r _

/-- The flags that bulk enabling leaves are those it has set. -/
theorem find?_enableCore_clearEnabled :
    (r.clearEnabled.value.enableCore l).value.find? name = (r.find? name).map fun record =>
      { record with enabled := record.supported && (record.coreIn l || record.optionalCoreIn l) } := by
  rw [find?_enableCore, find?_clearEnabled, Option.map_map]
  refine congrArg (fun f => (r.find? name).map f) (funext fun record => ?_)
  rw [Function.comp_apply, Record.withCoreEnabled_eq, Record.coreToEnable_withEnabled,
    Bool.false_or]
  rfl

/-- Clearing enabled flags changes no other part of a record. It leaves core and optional core
features supported as they were and no extensions, so that what is supported is what was so as a
feature. If core features are then enabled, exactly the supported features of the language are
enabled, and registries that differed in enabled flags only have become equal. -/
theorem clearEnabled_forgets_enabled (r : Registry) (l : Language) :
    (∀ name, r.clearEnabled.value.find? name =
      (r.find? name).map fun record => { record with enabled := false }) ∧
    (∀ name,
      r.clearEnabled.value.isSupportedAsCore name l = r.isSupportedAsCore name l ∧
      r.clearEnabled.value.isSupportedAsOptionalCore name l =
        r.isSupportedAsOptionalCore name l ∧
      r.clearEnabled.value.isSupportedAsExtension name l = false ∧
      r.clearEnabled.value.isSupported name l = r.isSupportedAsFeature name l) ∧
    (∀ name, (r.clearEnabled.value.enableCore l).value.find? name =
      (r.find? name).map fun record =>
        { record with
          enabled := record.supported && (record.coreIn l || record.optionalCoreIn l) }) ∧
    ∀ s : Registry, r.AlikeButForEnabled s →
      (r.clearEnabled.value.enableCore l).value = (s.clearEnabled.value.enableCore l).value := by
  refine ⟨r.find?_clearEnabled, fun name => ⟨?_, ?_, ?_, ?_⟩,
    r.find?_enableCore_clearEnabled l, fun s alike => ?_⟩
  · exact r.isSupportedAsCore_clearEnabled l name
  · exact r.isSupportedAsOptionalCore_clearEnabled l name
  · exact r.isSupportedAsExtension_clearEnabled l name
  · exact r.isSupported_clearEnabled l name
  · rw [clearEnabled_eq_iff.mpr alike]

/-- The option that the target supports, enabled where it may be an extension. -/
def doublesEnabled : Registry := doubles.changed (.setEnabled doubleFloats.name true)

theorem clearEnabled_forgets_enabled_doubles :
    doublesEnabled.AlikeButForEnabled doubles ∧
      doublesEnabled.isSupported doubleFloats.name (.c .v10) = true ∧
      doubles.isSupported doubleFloats.name (.c .v10) = false ∧
      (doublesEnabled.clearEnabled.value.enableCore (.c .v10)).value =
        (doubles.clearEnabled.value.enableCore (.c .v10)).value := by
  have alike : doublesEnabled.AlikeButForEnabled doubles :=
    doubles.alikeButForEnabled_setEnabled doubleFloats.name true
  have enabled : doublesEnabled.find? doubleFloats.name =
      some ⟨doubleFloats.toMetadata, true, true⟩ := by
    rw [doublesEnabled, find?_changed, find?_doubles, Change.effect, if_pos rfl, Option.map_some]
    rfl
  refine ⟨alike, ?_, ?_, (clearEnabled_forgets_enabled doublesEnabled (.c .v10)).2.2.2 _ alike⟩
  · rw [isSupported, enabled]
    decide
  · rw [isSupported, find?_doubles]
    decide

end OpenCLRegistry.Registry
