import OpenCLRegistry.Proofs.Registry.Metadata
import Mathlib.Data.List.Induction

/-!
# Flags over runs

Which changes write a flag of a name is decided when they are made: a name has to
be known, an option has to be available, a core feature has to be supported by
then. A run leaves in each flag what the last change that wrote it has written,
and it starts from flags that are clear. Nothing else reaches a record, so names
do not disturb each other and neither do the two flags.
-/
namespace OpenCLRegistry

namespace Record

theorem supported_reported (l : Language) (value? : Option Bool) (record : Record) :
    (record.reported l value?).supported =
      if record.availableIn l then value?.getD record.supported else record.supported := by
  cases value? with
  | none => simp
  | some value => by_cases available : record.availableIn l = true <;> simp [reported, available]

@[simp] theorem enabled_reported (l : Language) (value? : Option Bool) (record : Record) :
    (record.reported l value?).enabled = record.enabled := by
  cases value? with
  | none => rfl
  | some value => by_cases available : record.availableIn l = true <;> simp [reported, available]

@[simp] theorem supported_withCoreEnabled (l : Language) (record : Record) :
    (Registry.withCoreEnabled l record).supported = record.supported := by
  unfold Registry.withCoreEnabled
  split_ifs <;> rfl

theorem enabled_withCoreEnabled (l : Language) (record : Record) :
    (Registry.withCoreEnabled l record).enabled =
      (record.enabled || Registry.coreToEnable l record) := by
  unfold Registry.withCoreEnabled
  split_ifs with due <;> simp [due]

end Record

namespace Registry

/-- What a change writes into the supported flag of a name. -/
def supportedWrite (name : String) (r : Registry) : Change → Option Bool
  | .setSupported other value => if other = name ∧ r.isKnown name then some value else none
  | .adopt features l => (r.find? name).bind fun record =>
      if record.since ≤ l.effective.number then features.get? name else none
  | .restore s => (s.entriesOf name).getLast?.map fun entry => entry.supported
  | _ => none

/-- What a change writes into the enabled flag of a name. -/
def enabledWrite (name : String) (r : Registry) : Change → Option Bool
  | .setEnabled other value => if other = name ∧ r.isKnown name then some value else none
  | .clearEnabled => if r.isKnown name then some false else none
  | .enableCore l => (r.find? name).bind fun record =>
      if record.supported ∧ (record.coreIn l ∨ record.optionalCoreIn l) then some true else none
  | .restore s => (s.entriesOf name).getLast?.map fun entry => entry.enabled
  | _ => none

/-- What the changes of a run write, in their order. -/
def written (write : Registry → Change → Option Bool) (r : Registry) : List Change → List Bool
  | [] => []
  | c :: rest => (write r c).toList ++ (r.changed c).written write rest

def flag? (flag : Record → Bool) (r : Registry) (name : String) : Option Bool :=
  (r.find? name).map flag

theorem written_concat (write : Registry → Change → Option Bool) (r : Registry)
    (changes : List Change) (c : Change) :
    r.written write (changes ++ [c]) =
      r.written write changes ++ (write (r.after changes) c).toList := by
  induction changes generalizing r with
  | nil => simp [written]
  | cons first rest ih =>
    rw [List.cons_append, written, ih, written, after_cons, List.append_assoc]

theorem after_concat (r : Registry) (changes : List Change) (c : Change) :
    r.after (changes ++ [c]) = (r.after changes).changed c := by
  rw [after_append, after_cons, after_nil]

/-- A flag that each change leaves or overwrites ends up as it was last written. -/
theorem flag?_after {flag : Record → Bool} {name : String}
    {write : Registry → Change → Option Bool}
    (step : ∀ r c, flag? flag (r.changed c) name = (write r c).or (flag? flag r name))
    (r : Registry) (changes : List Change) :
    flag? flag (r.after changes) name =
      (r.written write changes).getLast?.or (flag? flag r name) := by
  induction changes using List.reverseRecOn with
  | nil => rfl
  | append_singleton changes c ih =>
    rw [after_concat, step, ih, written_concat, List.getLast?_append, Option.or_assoc]
    cases write (r.after changes) c <;> rfl

theorem isKnown_eq_isSome_find? (r : Registry) (name : String) :
    r.isKnown name = (r.find? name).isSome := rfl

/-- Of the entries of a name the last one sets its flags. -/
theorem map_foldl_restored {flag : Record → Bool}
    (taken : ∀ (record : Record) (entry : SavedRecord),
      flag (record.withFlagsOf entry) = flag entry.toRecord)
    (entries : List SavedRecord) (record? : Option Record) :
    (entries.foldl Record.restored record?).map flag =
      (entries.getLast?.map fun entry => flag entry.toRecord).or (record?.map flag) := by
  induction entries using List.reverseRecOn with
  | nil => rfl
  | append_singleton entries entry _ =>
    rw [List.foldl_append, List.getLast?_concat]
    exact congrArg some (taken _ entry)

theorem supported?_changed (name : String) (r : Registry) (c : Change) :
    flag? (·.supported) (r.changed c) name =
      (supportedWrite name r c).or (flag? (·.supported) r name) := by
  simp only [flag?]
  rw [find?_changed]
  cases c with
  | setEnabled other value =>
    simp only [Change.effect, supportedWrite, Option.none_or]
    split_ifs
    · cases r.find? name <;> rfl
    · rfl
  | setSupported other value =>
    simp only [Change.effect, supportedWrite]
    by_cases same : name = other
    · cases found : r.find? name <;> simp [isKnown_eq_isSome_find?, ← same, found]
    · simp [same, Ne.symm same]
  | adopt features l =>
    simp only [Change.effect, supportedWrite]
    cases r.find? name with
    | none => rfl
    | some record =>
      simp only [Option.map_some, Option.bind_some, Record.supported_reported,
        Metadata.availableIn, decide_eq_true_eq]
      split_ifs
      · cases features.get? name <;> rfl
      · rfl
  | clearEnabled => cases r.find? name <;> rfl
  | enableCore l => cases found : r.find? name <;> simp [Change.effect, supportedWrite]
  | restore s => exact map_foldl_restored (fun _ _ => rfl) _ _

theorem enabled?_changed (name : String) (r : Registry) (c : Change) :
    flag? (·.enabled) (r.changed c) name =
      (enabledWrite name r c).or (flag? (·.enabled) r name) := by
  simp only [flag?]
  rw [find?_changed]
  cases c with
  | setEnabled other value =>
    simp only [Change.effect, enabledWrite]
    by_cases same : name = other
    · cases found : r.find? name <;> simp [isKnown_eq_isSome_find?, ← same, found]
    · simp [same, Ne.symm same]
  | setSupported other value =>
    simp only [Change.effect, enabledWrite, Option.none_or]
    split_ifs
    · cases r.find? name <;> rfl
    · rfl
  | adopt features l => cases found : r.find? name <;> simp [Change.effect, enabledWrite]
  | clearEnabled =>
    simp only [Change.effect, enabledWrite]
    cases found : r.find? name <;> simp [isKnown_eq_isSome_find?, found]
  | enableCore l =>
    simp only [Change.effect, enabledWrite]
    cases r.find? name with
    | none => rfl
    | some record =>
      simp only [Option.map_some, Option.bind_some, Record.enabled_withCoreEnabled, coreToEnable,
        ← Bool.or_eq_true, ← Bool.and_eq_true]
      split_ifs with due <;> simp [due]
  | restore s => exact map_foldl_restored (fun _ _ => rfl) _ _

theorem find?_eq_of_parts {r s : Registry} {name : String}
    (metadata : r.metadata? name = s.metadata? name)
    (supported : flag? (·.supported) r name = flag? (·.supported) s name)
    (enabled : flag? (·.enabled) r name = flag? (·.enabled) s name) :
    r.find? name = s.find? name := by
  simp only [metadata?, flag?] at metadata supported enabled
  cases found : r.find? name with
  | none =>
    rw [found] at metadata
    exact (Option.map_eq_none_iff.mp metadata.symm).symm
  | some record =>
    cases found' : s.find? name with
    | none => simp [found, found'] at metadata
    | some record' =>
      simp only [found, found', Option.map_some, Option.some.injEq] at metadata supported enabled
      cases record
      cases record'
      cases metadata
      cases supported
      cases enabled
      rfl

/-- A change that writes neither flag of a name leaves its record alone. -/
theorem find?_changed_of_no_write {name : String} {r : Registry} {c : Change}
    (supported : supportedWrite name r c = none) (enabled : enabledWrite name r c = none) :
    (r.changed c).find? name = r.find? name := by
  have unbrought : c.brought name = none := by
    cases c with
    | restore s =>
      have absent : (s.entriesOf name).getLast? = none := Option.map_eq_none_iff.mp supported
      rw [List.getLast?_eq_none_iff] at absent
      simp [Change.brought, absent]
    | _ => rfl
  refine find?_eq_of_parts ?_ ?_ ?_
  · rw [metadata?_changed, unbrought, Option.or_none]
  · rw [supported?_changed, supported, Option.none_or]
  · rw [enabled?_changed, enabled, Option.none_or]

end Registry

/-- A change is about a name. One that says no names is about all. -/
def Change.Concerns (name : String) : Change → Prop
  | .setEnabled other _ | .setSupported other _ => other = name
  | .adopt features _ => name ∈ features.names
  | .restore s => ∃ entry ∈ s.entries, entry.name = name
  | .clearEnabled | .enableCore _ => True

namespace Registry

theorem no_write_of_not_concerns {name : String} {r : Registry} {c : Change}
    (apart : ¬ c.Concerns name) :
    supportedWrite name r c = none ∧ enabledWrite name r c = none := by
  cases c with
  | setEnabled other value => exact ⟨rfl, if_neg fun due => apart due.1⟩
  | setSupported other value => exact ⟨if_neg fun due => apart due.1, rfl⟩
  | adopt features l =>
    have unsaid : features.get? name = none := by
      simpa [Change.Concerns, NameMap.mem_names_iff, NameMap.contains] using apart
    constructor
    · simp only [supportedWrite, unsaid, ite_self]
      cases r.find? name <;> rfl
    · rfl
  | restore s =>
    have unlisted : s.entriesOf name = [] :=
      List.filter_eq_nil_iff.mpr fun entry mem same => apart ⟨entry, mem, by simpa using same⟩
    simp [supportedWrite, enabledWrite, unlisted]
  | clearEnabled => exact absurd trivial apart
  | enableCore l => exact absurd trivial apart

/-- A flag that is clear at the start is what was last written into it. -/
theorem flag_eq_getLastD {flag : Record → Bool} {name : String}
    {write : Registry → Change → Option Bool}
    (step : ∀ r c, flag? flag (r.changed c) name = (write r c).or (flag? flag r name))
    (clear : ∀ m, flag (.ofMetadata m) = false) {changes : List Change} {record : Record}
    (found : (initial.after changes).find? name = some record) :
    flag record = (initial.written write changes).getLastD false := by
  have last := flag?_after step initial changes
  rw [flag?, found, Option.map_some] at last
  rw [List.getLastD_eq_getLast?]
  cases writes : (initial.written write changes).getLast? with
  | some value =>
    rw [writes, Option.some_or] at last
    exact Option.some.inj last
  | none =>
    rw [writes, Option.none_or] at last
    obtain ⟨first, start, same⟩ := Option.map_eq_some_iff.mp last.symm
    obtain ⟨row, -, -, rfl⟩ := find?_initial_eq_some_iff.mp start
    exact same.symm.trans (clear row.toMetadata)

/-- After a run from the start, each flag of a known name is what was last written into it, and
clear if nothing was. A change that writes neither flag of a name leaves its record as it is,
and so does a change that is only about other names. -/
theorem flags_last_written (changes : List Change) (name : String) :
    (∀ record, (initial.after changes).find? name = some record →
      record.supported = (initial.written (supportedWrite name) changes).getLastD false ∧
      record.enabled = (initial.written (enabledWrite name) changes).getLastD false) ∧
    (∀ c, supportedWrite name (initial.after changes) c = none →
      enabledWrite name (initial.after changes) c = none →
      ((initial.after changes).changed c).find? name = (initial.after changes).find? name) ∧
    ∀ c : Change, ¬ c.Concerns name →
      ((initial.after changes).changed c).find? name = (initial.after changes).find? name := by
  refine ⟨fun record found => ⟨?_, ?_⟩, fun c => find?_changed_of_no_write, fun c apart => ?_⟩
  · exact flag_eq_getLastD (supported?_changed name) (fun _ => rfl) found
  · exact flag_eq_getLastD (enabled?_changed name) (fun _ => rfl) found
  · obtain ⟨supported, enabled⟩ := no_write_of_not_concerns apart
    exact find?_changed_of_no_write supported enabled

/-- A name comes in with clear flags, is supported and thereby enabled as optional core in C++
mode, and is then reported as missing. -/
def vendorRun : List Change :=
  [.restore forged, .setSupported "vendor" true, .setEnabled "missing" true,
    .enableCore (.cplusplus 7), .adopt (.ofPairs [("vendor", false)]) (.c .v10)]

theorem flags_last_written_vendor :
    (initial.after vendorRun).find? "vendor" =
        some { since := 7, optionalCore := .every, enabled := true } ∧
      false = (initial.written (supportedWrite "vendor") vendorRun).getLastD false ∧
      true = (initial.written (enabledWrite "vendor") vendorRun).getLastD false ∧
      enabledWrite "vendor" (initial.after vendorRun) (.setEnabled "missing" true) = none ∧
      ((initial.after vendorRun).changed (.setEnabled "missing" true)).find? "vendor" =
        (initial.after vendorRun).find? "vendor" ∧
      ((initial.after vendorRun).changed (.restore ⟨[]⟩)).find? "vendor" =
        (initial.after vendorRun).find? "vendor" := by
  have found : (initial.after vendorRun).find? "vendor" =
      some { since := 7, optionalCore := .every, enabled := true } := by
    rw [find?_after, find?_initial_eq_none (by decide +kernel)]
    decide
  have unwritten : enabledWrite "vendor" (initial.after vendorRun) (.setEnabled "missing" true) =
      none := by simp [enabledWrite]
  obtain ⟨flags, kept, apart⟩ := flags_last_written vendorRun "vendor"
  obtain ⟨supported, enabled⟩ := flags _ found
  refine ⟨found, supported, enabled, unwritten, kept _ rfl unwritten, apart _ ?_⟩
  simp [Change.Concerns]

end Registry

end OpenCLRegistry
