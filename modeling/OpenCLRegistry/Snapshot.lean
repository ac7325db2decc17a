import OpenCLRegistry.Registry.Update

/-!
# Snapshots

A registry as it is kept between processes: a list of records with their names.
Taking a snapshot lists every record in ascending order of the names. Restoring
works through a snapshot from its first entry to its last, so a later entry of a
name overrides the flags of an earlier one. A name that the registry knows keeps
its metadata, whatever the snapshot says; one that it lacks is added.
-/
namespace OpenCLRegistry

structure SavedRecord extends Record where
  name : String
deriving DecidableEq

structure Snapshot where
  entries : List SavedRecord := []
deriving DecidableEq

namespace Registry

def snapshot (r : Registry) : Snapshot :=
  ⟨r.records.entries.map fun (name, record) => { record with name }⟩

/-- How far a restoration has come. -/
structure Restoration where
  registry : Registry
  warnings : List Event := []

/-- Takes the flags of one entry, and its metadata too if the name is new. -/
def Restoration.next (x : Restoration) (entry : SavedRecord) : Restoration :=
  match x.registry.find? entry.name with
  | some record =>
    { x with
      registry := x.registry.put entry.name
        { record with supported := entry.supported, enabled := entry.enabled } }
  | none =>
    { registry := x.registry.put entry.name entry.toRecord
      warnings := x.warnings ++ [.missingFromCatalog entry.name] }

/-- Sets the flags that a snapshot lists. Records it does not name stay as they are. -/
def restore (r : Registry) (s : Snapshot) : Logged Registry :=
  let x := s.entries.foldl Restoration.next { registry := r }
  ⟨x.registry, x.warnings ++ [.restored s.entries.length]⟩

end Registry

end OpenCLRegistry
