import OpenCLRegistry.Json.Reader
import OpenCLRegistry.Snapshot
import OpenCLRegistry.VersionSet.Text

/-!
# Snapshots as text

A snapshot is written as an object with the key "entries" and reads from any text
of that shape: every field is required, keys may come in any order, and keys that
are not fields are skipped.
-/
namespace OpenCLRegistry

open Json

namespace SavedRecord

def tree (e : SavedRecord) : Json :=
  .obj [("name", .str e.name), ("supported", .bool e.supported), ("enabled", .bool e.enabled),
    ("avail", .ofWord e.since), ("core", e.core.tree), ("opt", e.optionalCore.tree)]

/-- The entry before any of its fields has been read. -/
def blank : SavedRecord := { name := "" }

def format : RecordFormat SavedRecord where
  name := "SnapshotEntry"
  fields := [
    ⟨"name", true, Reader.text.map fun name e => { e with name }⟩,
    ⟨"supported", true, Reader.flag.map fun supported e => { e with supported }⟩,
    ⟨"enabled", true, Reader.flag.map fun enabled e => { e with enabled }⟩,
    ⟨"avail", true, Reader.word.map fun since e => { e with since }⟩,
    ⟨"core", true, Reader.word.map fun bits e => { e with core := ⟨bits⟩ }⟩,
    ⟨"opt", true, Reader.word.map fun bits e => { e with optionalCore := ⟨bits⟩ }⟩]
  start := blank

end SavedRecord

namespace Snapshot

def tree (s : Snapshot) : Json := .obj [("entries", .arr (s.entries.map SavedRecord.tree))]

def toText (s : Snapshot) : String := s.tree.pretty

def format : RecordFormat Snapshot where
  name := "OptionsSnapshot"
  fields := [⟨"entries", true, SavedRecord.format.reader.list.map fun entries _ => { entries }⟩]
  start := {}

def ofText (text : String) : Except Error Snapshot :=
  (readDocument format.reader .ok text).mapError .invalidSnapshot

end Snapshot

end OpenCLRegistry
