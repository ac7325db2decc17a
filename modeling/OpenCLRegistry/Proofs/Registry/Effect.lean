import OpenCLRegistry.Registry.Change

/-!
# What a change does to one name

A change treats every name by itself: what becomes of a record depends on the
change and on the record only. So a run can be followed one name at a time, and
everything said below of single changes holds along every run.
-/
namespace OpenCLRegistry

namespace Record

/-- The record once a target has reported on it, or has said nothing of it. -/
def reported (l : Language) (value? : Option Bool) (record : Record) : Record :=
  match value? with
  | some value => if record.availableIn l then { record with supported := value } else record
  | none => record

@[simp] theorem reported_none (l : Language) : reported l none = id := rfl

theorem reported_some_of_available {l : Language} {record : Record}
    (available : record.availableIn l = true) (value : Bool) :
    record.reported l (some value) = { record with supported := value } := if_pos available

/-- The record with the flags of a saved one. -/
def withFlagsOf (record : Record) (entry : SavedRecord) : Record :=
  { record with supported := entry.supported, enabled := entry.enabled }

/-- What a saved entry makes of the record of its name; a missing one is added. -/
def restored (record? : Option Record) (entry : SavedRecord) : Option Record :=
  some ((record?.getD entry.toRecord).withFlagsOf entry)

end Record

/-- The entries of a name, in their order. -/
def Snapshot.entriesOf (s : Snapshot) (name : String) : List SavedRecord :=
  s.entries.filter fun entry => entry.name = name

/-- What a change makes of the record of a name, or of its absence. -/
def Change.effect (name : String) (record? : Option Record) : Change → Option Record
  | .setEnabled other value =>
    if name = other then record?.map fun record => { record with enabled := value } else record?
  | .setSupported other value =>
    if name = other then record?.map fun record => { record with supported := value } else record?
  | .adopt features l => record?.map (Record.reported l (features.get? name))
  | .clearEnabled => record?.map fun record => { record with enabled := false }
  | .enableCore l => record?.map (Registry.withCoreEnabled l)
  | .restore s => (s.entriesOf name).foldl Record.restored record?

namespace Registry

/-- Changing the record that is found at a name changes what is found there, and only there. -/
theorem find?_put_of_found {r : Registry} {other : String} {record : Record}
    (found : r.find? other = some record) (f : Record → Record) (name : String) :
    (r.put other (f record)).find? name =
      if name = other then (r.find? name).map f else r.find? name := by
  rw [find?_put]
  by_cases same : name = other
  · simp [same, found]
  · simp [same]

theorem find?_edit (r : Registry) (name other : String) (f : Record → Record) (event : Event) :
    (r.edit other f event).value.find? name =
      if name = other then (r.find? name).map f else r.find? name := by
  unfold edit
  cases found : r.find? other with
  | none =>
    by_cases same : name = other
    · simp [same, found]
    · simp [same]
  | some record => exact find?_put_of_found found f name

theorem find?_next (l : Language) (u : Uptake) (name other : String) (value : Bool) :
    (u.next l other value).registry.find? name =
      if name = other then (u.registry.find? name).map (Record.reported l (some value))
      else u.registry.find? name := by
  unfold Uptake.next
  cases found : u.registry.find? other with
  | none =>
    by_cases same : name = other
    · simp [same, found]
    · simp [same]
  | some record =>
    by_cases available : record.availableIn l = true
    · have put := find?_put_of_found found (Record.reported l (some value)) name
      rw [Record.reported_some_of_available available] at put
      simp only [available, if_true]
      exact put
    · by_cases same : name = other
      · simp [same, found, Record.reported, available]
      · simp [same, available]

/-- The names of the pairs ascend, so at most one of the pairs is about the name. -/
theorem find?_uptake (l : Language) (name : String) {pairs : List (String × Bool)}
    (ascending : Ascending pairs) (u : Uptake) :
    (pairs.foldl (fun u e => u.next l e.1 e.2) u).registry.find? name =
      (u.registry.find? name).map (Record.reported l (NameMap.lookup name pairs)) := by
  induction pairs generalizing u with
  | nil => simp [NameMap.lookup]
  | cons head rest ih =>
    rcases head with ⟨key, value⟩
    obtain ⟨below, ascending⟩ := List.pairwise_cons.mp ascending
    rw [List.foldl_cons, ih ascending, find?_next]
    by_cases same : name = key
    · subst same
      have absent : NameMap.lookup name rest = none :=
        NameMap.lookup_eq_none fun e he eq => String.lt_irrefl _ (eq ▸ below e he)
      simp [absent, NameMap.lookup]
    · simp [same, NameMap.lookup]

theorem find?_restoration_next (x : Restoration) (entry : SavedRecord) (name : String) :
    (x.next entry).registry.find? name =
      if name = entry.name then Record.restored (x.registry.find? name) entry
      else x.registry.find? name := by
  unfold Restoration.next
  cases found : x.registry.find? entry.name with
  | none =>
    simp only [find?_put]
    by_cases same : name = entry.name
    · simp [same, found, Record.restored, Record.withFlagsOf]
    · simp [same]
  | some record =>
    simp only [find?_put]
    by_cases same : name = entry.name
    · simp [same, found, Record.restored, Record.withFlagsOf]
    · simp [same]

/-- Only the entries of a name count for it. -/
theorem find?_restoration (name : String) (entries : List SavedRecord) (x : Restoration) :
    (entries.foldl Restoration.next x).registry.find? name =
      (entries.filter fun entry => entry.name = name).foldl Record.restored
        (x.registry.find? name) := by
  induction entries generalizing x with
  | nil => rfl
  | cons entry rest ih =>
    rw [List.foldl_cons, ih, find?_restoration_next]
    by_cases same : name = entry.name
    · simp [same]
    · simp [same, Ne.symm same]

/-- A change treats every name by itself. -/
theorem find?_changed (r : Registry) (c : Change) (name : String) :
    (r.changed c).find? name = c.effect name (r.find? name) := by
  cases c with
  | setEnabled other value => exact find?_edit ..
  | setSupported other value => exact find?_edit ..
  | adopt features l => exact find?_uptake l name features.ascending { registry := r }
  | clearEnabled => exact find?_updateAll ..
  | enableCore l => exact find?_updateAll ..
  | restore s => exact find?_restoration name s.entries { registry := r }

theorem value_adopt (r : Registry) (features : TargetFeatures) (l : Language) :
    (r.adopt features l).value = r.changed (.adopt features l) := rfl

@[simp] theorem after_nil (r : Registry) : r.after [] = r := rfl

@[simp] theorem after_cons (r : Registry) (c : Change) (rest : List Change) :
    r.after (c :: rest) = (r.changed c).after rest := rfl

theorem find?_after (r : Registry) (changes : List Change) (name : String) :
    (r.after changes).find? name = changes.foldl (Change.effect name) (r.find? name) := by
  induction changes generalizing r with
  | nil => rfl
  | cons c rest ih => rw [after_cons, ih, find?_changed, List.foldl_cons]

end Registry

end OpenCLRegistry
