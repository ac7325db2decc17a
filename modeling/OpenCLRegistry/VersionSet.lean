import OpenCLRegistry.Version

/-!
# Sets of versions

A set of versions is a word with one bit for each version. Words read from a
saved registry are kept as they are, so a set may carry bits that belong to no
version; membership looks only at the five bits that do.
-/
namespace OpenCLRegistry

structure VersionSet where
  bits : UInt32
deriving DecidableEq

namespace VersionSet

def empty : VersionSet := ⟨0⟩

/-- The set that holds one version: one bit, a different one for each version. -/
def only : Version → VersionSet
  | .v10 => ⟨0x1⟩
  | .v11 => ⟨0x2⟩
  | .v12 => ⟨0x4⟩
  | .v20 => ⟨0x8⟩
  | .v30 => ⟨0x10⟩

instance : Union VersionSet := ⟨fun s t => ⟨s.bits ||| t.bits⟩⟩

instance : Inter VersionSet := ⟨fun s t => ⟨s.bits &&& t.bits⟩⟩

/-- The bits that are in one of the two sets only. -/
def exclusive (s t : VersionSet) : VersionSet := ⟨s.bits ^^^ t.bits⟩

/-- The bits of all five versions. -/
def every : VersionSet := ⟨0x1f⟩

/-- Version 1.1 and later. -/
def since11 : VersionSet := every.exclusive (only .v10)

/-- Version 1.2 and later. -/
def since12 : VersionSet := every.exclusive (only .v10 ∪ only .v11)

def isEmpty (s : VersionSet) : Bool := s.bits == 0

/-- Every bit of the second set is a bit of the first. -/
def includes (s t : VersionSet) : Bool := s.bits &&& t.bits == t.bits

/-- Some bit belongs to both sets. -/
def meets (s t : VersionSet) : Bool := s.bits &&& t.bits != 0

def has (s : VersionSet) (v : Version) : Bool := s.meets (only v)

theorem has_iff {s : VersionSet} {v : Version} : s.has v = true ↔ s.bits &&& (only v).bits ≠ 0 :=
  bne_iff_ne

theorem has_eq_false_iff {s : VersionSet} {v : Version} :
    s.has v = false ↔ s.bits &&& (only v).bits = 0 := by
  rw [← Bool.not_eq_true, has_iff, Decidable.not_not]

theorem only_injective {v w : Version} (h : only v = only w) : v = w := by
  revert h; cases v <;> cases w <;> decide

/-- A version belongs to the set of another only if they are the same. -/
theorem has_only (v w : Version) : (only v).has w = decide (v = w) := by
  cases v <;> cases w <;> decide

theorem has_every (v : Version) : every.has v = true := by cases v <;> decide

end VersionSet

end OpenCLRegistry
