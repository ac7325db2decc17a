import OpenCLRegistry.Proofs.Registry.Metadata

/-!
# What changes report

Setting one flag reports itself, or fails if the name is unknown. Adopting
features reports each of them that is not taken over, in the order of the names,
and then how many were. What is known and since when an option is available
decides all of this; the flags of the records do not enter into it.
-/
namespace OpenCLRegistry.Registry

theorem names_updateAll (r : Registry) (f : Record → Record) : (r.updateAll f).names = r.names := by
  simp [names, NameMap.names, updateAll, NameMap.mapValues]

/-- Registries that know the same names list them alike. -/
theorem names_congr {r s : Registry} (same : ∀ name, r.isKnown name = s.isKnown name) :
    r.names = s.names := by
  have blank : r.updateAll (fun _ => .ofMetadata {}) = s.updateAll fun _ => .ofMetadata {} := by
    ext1 name
    rw [find?_updateAll, find?_updateAll]
    have known := same name
    rw [isKnown_eq_isSome, isKnown_eq_isSome, metadata?, metadata?] at known
    cases found : r.find? name <;> cases found' : s.find? name <;> simp_all
  rw [← names_updateAll r, blank, names_updateAll]

theorem size_eq_length_names (r : Registry) : r.size = r.names.length := by
  simp [size, NameMap.size, names, NameMap.names]

/-! ## Setting one flag -/

theorem edit_of_known {r : Registry} {name : String} (known : r.isKnown name = true)
    (f : Record → Record) (event : Event) :
    r.edit name f event = { value := (r.edit name f event).value, events := [event] } := by
  rw [isKnown_eq_isSome, metadata?, Option.isSome_map, Option.isSome_iff_exists] at known
  obtain ⟨record, found⟩ := known
  rw [edit, found]

/-- To change the record of an unknown name fails before anything else. -/
theorem edit_of_unknown {r : Registry} {name : String} (unknown : r.isKnown name = false)
    (f : Record → Record) (event : Event) :
    r.edit name f event = { value := r, error := some (.unknownExtension name) } := by
  rw [isKnown_eq_isSome, metadata?, Option.isSome_map, Option.isSome_eq_false_iff,
    Option.isNone_iff_eq_none] at unknown
  rw [edit, unknown]

theorem toReply_edit (r : Registry) (name : String) (f : Record → Record) (event : Event) :
    (r.edit name f event).toReply =
      if r.isKnown name then { events := [event] } else { error := some (.unknownExtension name) } := by
  cases known : r.isKnown name with
  | true => rw [edit_of_known known, if_pos rfl]
  | false => rw [edit_of_unknown known, if_neg Bool.false_ne_true]

theorem report_setEnabled (r : Registry) (name : String) (value : Bool) :
    r.report (.setEnabled name value) =
      if r.isKnown name then { events := [.enabledSet name value] }
      else { error := some (.unknownExtension name) } :=
  r.toReply_edit ..

theorem report_setSupported (r : Registry) (name : String) (value : Bool) :
    r.report (.setSupported name value) =
      if r.isKnown name then { events := [.supportedSet name value] }
      else { error := some (.unknownExtension name) } :=
  r.toReply_edit ..

theorem toExcept_setEnabled (r : Registry) (name : String) (value : Bool) :
    (r.setEnabled name value).toExcept =
      if r.isKnown name then .ok (r.changed (.setEnabled name value))
      else .error (.unknownExtension name) := by
  rw [changed, apply, setEnabled]
  cases known : r.isKnown name with
  | true =>
    rw [edit_of_known known]
    rfl
  | false =>
    rw [edit_of_unknown known]
    rfl

/-- A change that fails leaves the registry as it was and reports nothing. -/
theorem apply_of_error {r : Registry} {c : Change} {e : Error}
    (failed : (r.apply c).error = some e) : r.apply c = { value := r, error := some e } := by
  have edited {name : String} {f : Record → Record} {event : Event}
      (failed : (r.edit name f event).error = some e) :
      r.edit name f event = { value := r, error := some e } := by
    cases known : r.isKnown name with
    | true =>
      rw [edit_of_known known] at failed
      cases failed
    | false =>
      rw [edit_of_unknown known] at failed ⊢
      cases failed
      rfl
  cases c with
  | setEnabled name value => exact edited failed
  | setSupported name value => exact edited failed
  | _ => cases failed

/-! ## Adopting features -/

/-- Why a reported feature is not taken over. -/
def refusal? (r : Registry) (l : Language) (name : String) : Option Event :=
  match r.metadata? name with
  | some m => if m.availableIn l then none else some (.notAvailable name)
  | none => some (.unknownFeature name)

theorem refusal?_congr {r s : Registry} {name : String}
    (same : r.metadata? name = s.metadata? name) (l : Language) :
    r.refusal? l name = s.refusal? l name := by
  rw [refusal?, refusal?, same]

theorem metadata?_next (l : Language) (u : Uptake) (name other : String) (value : Bool) :
    (u.next l other value).registry.metadata? name = u.registry.metadata? name := by
  rw [metadata?, metadata?, find?_next]
  split_ifs
  · cases u.registry.find? name <;> simp
  · rfl

theorem skipped_next (l : Language) (u : Uptake) (name : String) (value : Bool) :
    (u.next l name value).skipped = u.skipped ++ (u.registry.refusal? l name).toList := by
  rw [Uptake.next, refusal?, metadata?]
  cases u.registry.find? name with
  | none => rfl
  | some record => by_cases available : record.availableIn l = true <;> simp [available]

theorem applied_next (l : Language) (u : Uptake) (name : String) (value : Bool) :
    (u.next l name value).applied =
      u.applied + if (u.registry.refusal? l name).isNone then 1 else 0 := by
  rw [Uptake.next, refusal?, metadata?]
  cases u.registry.find? name with
  | none => rfl
  | some record => by_cases available : record.availableIn l = true <;> simp [available]

/-- The registry changes from feature to feature, but what decides on the next one does not. -/
theorem uptake_skipped_applied (l : Language) (pairs : List (String × Bool)) (u : Uptake) :
    let last := pairs.foldl (fun u e => u.next l e.1 e.2) u
    last.skipped = u.skipped ++ pairs.filterMap (fun e => u.registry.refusal? l e.1) ∧
      last.applied = u.applied + pairs.countP fun e => (u.registry.refusal? l e.1).isNone := by
  induction pairs generalizing u with
  | nil => simp
  | cons head rest ih =>
    rcases head with ⟨name, value⟩
    have kept (other : String) :
        (u.next l name value).registry.refusal? l other = u.registry.refusal? l other :=
      refusal?_congr (metadata?_next l u other name value) l
    obtain ⟨skipped, applied⟩ := ih (u.next l name value)
    simp only [kept] at skipped applied
    simp only [List.foldl_cons, skipped, applied, skipped_next, applied_next, List.countP_cons]
    refine ⟨?_, by omega⟩
    cases refused : u.registry.refusal? l name <;> simp [refused]

theorem events_adopt (r : Registry) (features : TargetFeatures) (l : Language) :
    (r.adopt features l).events =
      features.entries.filterMap (fun e => r.refusal? l e.1) ++
        [.supportAdded (features.entries.countP fun e => (r.refusal? l e.1).isNone)
          features.size] := by
  obtain ⟨skipped, applied⟩ := uptake_skipped_applied l features.entries { registry := r }
  rw [adopt, skipped, applied, Nat.zero_add, List.nil_append]

end OpenCLRegistry.Registry
