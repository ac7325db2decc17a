import OpenCLRegistry.Proofs.Snapshot.RoundTrip
import Mathlib.Tactic.TFAE

/-!
# Snapshots are canonical

A snapshot lists the names of its registry in the order of their code points,
each of them once and with its record. So it does not show how the registry came
about: registries that answer every look-up alike have the same snapshot and the
same text, and two different registries never share a text.
-/
namespace OpenCLRegistry

open Json

/-- The code points of a name; names are in the dictionary order of these. -/
def codePoints (name : String) : List Nat := name.toList.map Char.toNat

theorem codePoints_lt {a b : String} (h : a < b) : codePoints a < codePoints b :=
  List.map_lt (fun _ _ => id) (String.lt_iff.mp h)

/-- Different snapshots have different texts, because each is read back from its own. -/
theorem Snapshot.toText_injective : Function.Injective Snapshot.toText := by
  intro s t same
  have read (s : Snapshot) : ofText s.toText = .ok s :=
    (ofText_eq_ok_iff (spellsDocument_pretty s.tree)).mpr s.writtenAs_tree
  have both := (read s).symm.trans (same ▸ read t)
  exact Except.ok.inj both

namespace Registry

theorem names_snapshot (r : Registry) :
    (r.snapshot.entries.map fun entry => entry.name) = r.names := by
  rw [snapshot, List.map_map]
  rfl

theorem length_snapshot (r : Registry) : r.snapshot.entries.length = r.size :=
  List.length_map _

theorem ascending_snapshot (r : Registry) :
    (r.snapshot.entries.map fun entry => codePoints entry.name).Pairwise (· < ·) := by
  rw [snapshot, List.map_map, List.pairwise_map]
  exact r.records.ascending.imp codePoints_lt

/-- The entries of a snapshot are the records of the registry under their names. -/
theorem mem_snapshot_iff {r : Registry} {entry : SavedRecord} :
    entry ∈ r.snapshot.entries ↔ r.find? entry.name = some entry.toRecord := by
  rw [find?, NameMap.get?_eq_some_iff, snapshot, List.mem_map]
  constructor
  · rintro ⟨e, mem, rfl⟩
    exact mem
  · intro mem
    exact ⟨_, mem, rfl⟩

theorem length_entriesOf_snapshot (r : Registry) (name : String) :
    (r.snapshot.entriesOf name).length = if r.isKnown name then 1 else 0 := by
  rw [entriesOf_snapshot, isKnown_eq_isSome]
  cases found : r.find? name <;> simp [metadata?, found]

theorem snapshot_injective : Function.Injective snapshot := by
  intro r s same
  ext name record
  have listed : { record with name : SavedRecord } ∈ r.snapshot.entries ↔
      { record with name : SavedRecord } ∈ s.snapshot.entries := by rw [same]
  rwa [mem_snapshot_iff, mem_snapshot_iff] at listed

/-- A snapshot lists every name of its registry once, in the order of the code points, with the
record of the name, and nothing else. Two registries are equal if and only if all look-ups
agree, if and only if their snapshots are equal, and if and only if the texts of these are. -/
theorem snapshot_canonical (r s : Registry) :
    ((r.snapshot.entries.map fun entry => codePoints entry.name).Pairwise (· < ·) ∧
      (∀ name, (r.snapshot.entriesOf name).length = if r.isKnown name then 1 else 0) ∧
      (∀ entry, entry ∈ r.snapshot.entries ↔ r.find? entry.name = some entry.toRecord) ∧
      (r.snapshot.entries.map fun entry => entry.name) = r.names ∧
      r.snapshot.entries.length = r.size) ∧
    [r = s,
      ∀ name, r.isKnown name = s.isKnown name ∧ r.find? name = s.find? name,
      r.snapshot = s.snapshot,
      r.snapshot.toText = s.snapshot.toText].TFAE := by
  refine ⟨⟨r.ascending_snapshot, r.length_entriesOf_snapshot, fun _ => mem_snapshot_iff,
    r.names_snapshot, r.length_snapshot⟩, ?_⟩
  tfae_have 1 → 2
  | same => fun name => by rw [same]; exact ⟨rfl, rfl⟩
  tfae_have 2 → 1
  | agree => ext fun name => (agree name).2
  tfae_have 1 → 3
  | same => congrArg snapshot same
  tfae_have 3 → 1
  | same => snapshot_injective same
  tfae_have 3 → 4
  | same => congrArg Snapshot.toText same
  tfae_have 4 → 3
  | same => Snapshot.toText_injective same
  tfae_finish

end Registry

end OpenCLRegistry
