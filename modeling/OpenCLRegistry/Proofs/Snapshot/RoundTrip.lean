import OpenCLRegistry.Proofs.Registry.Metadata
import OpenCLRegistry.Proofs.Snapshot.Schema

/-!
# Snapshots between registries

A snapshot is read back from its text as it was written. It lists every record of
its registry once, so restoring it elsewhere gives that registry again, unless
the other one knows a name that this one lacks or has other metadata for.
-/
namespace OpenCLRegistry

open Json

namespace Snapshot

theorem writtenAs_tree (s : Snapshot) : s.WrittenAs s.tree := by
  refine ⟨s.entries.map SavedRecord.tree, .object (.cons (by simp [valuesAt]) .nil), ?_⟩
  rw [List.forall₂_map_right_iff, List.forall₂_same]
  exact fun e _ => e.writtenAs_tree

/-- Every snapshot is read back from its text, whatever its names and words are. -/
theorem ofText_toText (s : Snapshot) : ofText s.toText = .ok s :=
  (ofText_eq_ok_iff (spellsDocument_pretty s.tree)).mpr s.writtenAs_tree

end Snapshot

theorem Record.withFlagsOf_of_toMetadata_eq {record saved : Record}
    (same : record.toMetadata = saved.toMetadata) (name : String) :
    record.withFlagsOf { saved with name } = saved := by
  cases record
  cases saved
  cases same
  rfl

namespace Registry

/-- A snapshot has one entry for a name that is known, and none for another. -/
theorem entriesOf_snapshot (r : Registry) (name : String) :
    r.snapshot.entriesOf name =
      ((r.find? name).map fun record => { record with name : SavedRecord }).toList := by
  have listed := NameMap.filter_eq_lookup r.records.ascending name
  have saved : r.snapshot.entriesOf name = (r.records.entries.filter fun e => e.1 = name).map
      fun e => { e.2 with name := e.1 } := List.filter_map
  rw [saved, listed]
  change ((Option.map _ (r.find? name)).toList).map _ = _
  cases r.find? name <;> rfl

theorem find?_restore_snapshot (r₁ r₂ : Registry) (name : String) :
    (r₁.restore r₂.snapshot).value.find? name =
      match r₂.find? name with
      | some record => some (((r₁.find? name).getD record).withFlagsOf { record with name })
      | none => r₁.find? name := by
  have changed := find?_changed r₁ (.restore r₂.snapshot) name
  rw [Change.effect, entriesOf_snapshot] at changed
  refine changed.trans ?_
  cases r₂.find? name <;> rfl

/-- A snapshot taken of one registry makes another one equal to it if and only if what
the other one knows has the same metadata there. -/
theorem restore_snapshot_eq_iff (r₁ r₂ : Registry) :
    (r₁.restore r₂.snapshot).value = r₂ ↔
      ∀ name m, r₁.metadata? name = some m → r₂.metadata? name = some m := by
  constructor
  · intro same name m known
    have kept := metadata?_changed r₁ (.restore r₂.snapshot) name
    rw [known, Option.some_or] at kept
    have whole : r₁.changed (.restore r₂.snapshot) = r₂ := same
    rwa [whole] at kept
  · intro agree
    ext name : 1
    rw [find?_restore_snapshot]
    cases found₁ : r₁.find? name with
    | none => cases r₂.find? name <;> rfl
    | some record₁ =>
      have known := agree name record₁.toMetadata (metadata?_eq_some_iff.mpr ⟨record₁, found₁, rfl⟩)
      obtain ⟨record₂, found₂, same⟩ := metadata?_eq_some_iff.mp known
      rw [found₂]
      exact congrArg some (Record.withFlagsOf_of_toMetadata_eq same.symm name)

/-- The text of a registry's snapshot reads back, and restoring it reproduces the registry in
exactly those others that know nothing else and nothing different of a name. The initial
registry is one of them. -/
theorem restore_ofText_snapshot (r₁ : Registry) {r₂ : Registry} (h : r₂.Reachable) :
    ∃ s, Snapshot.ofText r₂.snapshot.toText = .ok s ∧
      ((r₁.restore s).value = r₂ ↔
        ∀ name m, r₁.metadata? name = some m → r₂.metadata? name = some m) ∧
      (initial.restore s).value = r₂ := by
  refine ⟨r₂.snapshot, ?_, restore_snapshot_eq_iff r₁ r₂, ?_⟩
  · exact (Snapshot.ofText_eq_ok_iff (spellsDocument_pretty _)).mpr r₂.snapshot.writtenAs_tree
  · obtain ⟨changes, rfl⟩ := h
    refine (restore_snapshot_eq_iff _ _).mpr fun name m known => ?_
    exact metadata?_after known changes

/-- A snapshot with other metadata for a name of the forged one. -/
def rival : Snapshot := ⟨[{ name := "vendor", since := 8 }]⟩

theorem restore_ofText_snapshot_rival :
    ∃ s, Snapshot.ofText (initial.changed (.restore forged)).snapshot.toText = .ok s ∧
      ((initial.changed (.restore rival)).restore s).value ≠ initial.changed (.restore forged) ∧
      (initial.restore s).value = initial.changed (.restore forged) := by
  have absent : initial.metadata? "vendor" = none :=
    metadata?_initial_eq_none (by decide +kernel)
  have reachable : (initial.changed (.restore forged)).Reachable :=
    ⟨[.restore forged], by rw [after_cons, after_nil]⟩
  obtain ⟨s, read, whole, fresh⟩ :=
    restore_ofText_snapshot (initial.changed (.restore rival)) reachable
  refine ⟨s, read, fun same => ?_, fresh⟩
  have known := whole.mp same "vendor" { since := 8 } (by
    rw [metadata?_changed, absent]
    decide)
  rw [metadata?_changed, absent] at known
  exact absurd known (by decide)

end Registry

end OpenCLRegistry
