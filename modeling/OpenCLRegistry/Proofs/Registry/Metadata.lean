import OpenCLRegistry.Proofs.Lookup
import OpenCLRegistry.Proofs.Registry.Effect
import Mathlib.Tactic.SplitIfs

/-!
# Metadata over runs

A name gets its metadata once, when it enters the registry, and keeps it however
the run goes on. The names of the catalog enter at the start, so no snapshot can
touch what the catalog says of them.
-/
namespace OpenCLRegistry

namespace Record

@[simp] theorem toMetadata_reported (l : Language) (value? : Option Bool) (record : Record) :
    (record.reported l value?).toMetadata = record.toMetadata := by
  cases value? with
  | none => rfl
  | some value =>
    simp only [reported]
    split_ifs <;> rfl

@[simp] theorem toMetadata_withCoreEnabled (l : Language) (record : Record) :
    (Registry.withCoreEnabled l record).toMetadata = record.toMetadata := by
  unfold Registry.withCoreEnabled
  split_ifs <;> rfl

/-- A name that is new takes its metadata from its first entry. -/
theorem toMetadata_foldl_restored (entries : List SavedRecord) (record? : Option Record) :
    (entries.foldl restored record?).map toMetadata =
      (record?.map toMetadata).or (entries.head?.map fun entry => entry.toMetadata) := by
  induction entries generalizing record? with
  | nil => simp
  | cons entry rest ih =>
    rw [List.foldl_cons, ih]
    cases record? <;> rfl

end Record

/-- The metadata that a change brings along for a name that is new. -/
def Change.brought (name : String) : Change → Option Metadata
  | .restore s => (s.entriesOf name).head?.map fun entry => entry.toMetadata
  | _ => none

theorem Change.mem_of_brought {name : String} {m : Metadata} {c : Change}
    (h : c.brought name = some m) :
    ∃ s, c = .restore s ∧ ∃ entry ∈ s.entries, entry.name = name := by
  cases c with
  | restore s =>
    obtain ⟨entry, first, -⟩ := Option.map_eq_some_iff.mp h
    have mem : entry ∈ s.entries.filter fun entry => entry.name = name := List.mem_of_head? first
    obtain ⟨mem, named⟩ := List.mem_filter.mp mem
    exact ⟨s, rfl, entry, mem, by simpa using named⟩
  | _ => cases h

namespace Registry

def metadata? (r : Registry) (name : String) : Option Metadata :=
  (r.find? name).map Record.toMetadata

theorem metadata?_changed (r : Registry) (c : Change) (name : String) :
    (r.changed c).metadata? name = (r.metadata? name).or (c.brought name) := by
  unfold metadata?
  rw [find?_changed]
  cases c with
  | setEnabled other value =>
    simp only [Change.effect, Change.brought]
    split_ifs
    · cases r.find? name <;> rfl
    · simp
  | setSupported other value =>
    simp only [Change.effect, Change.brought]
    split_ifs
    · cases r.find? name <;> rfl
    · simp
  | adopt features l => cases found : r.find? name <;> simp [Change.effect, Change.brought]
  | clearEnabled => cases r.find? name <;> rfl
  | enableCore l => cases found : r.find? name <;> simp [Change.effect, Change.brought]
  | restore s => exact Record.toMetadata_foldl_restored _ _

theorem metadata?_after {r : Registry} {name : String} {m : Metadata}
    (known : r.metadata? name = some m) (changes : List Change) :
    (r.after changes).metadata? name = some m := by
  induction changes generalizing r with
  | nil => exact known
  | cons c rest ih => exact ih (by rw [metadata?_changed, known]; rfl)

theorem metadata?_eq_some_iff {r : Registry} {name : String} {m : Metadata} :
    r.metadata? name = some m ↔ ∃ record, r.find? name = some record ∧ record.toMetadata = m :=
  Option.map_eq_some_iff

theorem isKnown_eq_isSome (r : Registry) (name : String) :
    r.isKnown name = (r.metadata? name).isSome := by
  simp [isKnown, NameMap.contains, metadata?, find?]

theorem isKnown_changed {r : Registry} {name : String} (known : r.isKnown name = true)
    (c : Change) : (r.changed c).isKnown name = true := by
  rw [isKnown_eq_isSome] at known
  rw [isKnown_eq_isSome, metadata?_changed, Option.isSome_or, known, Bool.true_or]

/-- Only a change that brings a name along can make it known. -/
theorem isKnown_changed_of_brought {c : Change} {name : String} (none : c.brought name = none)
    (r : Registry) : (r.changed c).isKnown name = r.isKnown name := by
  rw [isKnown_eq_isSome, metadata?_changed, none, Option.or_none, isKnown_eq_isSome]

theorem catalog_distinct : (catalog.map fun row => row.name).Nodup := by decide +kernel

theorem catalog_named : ∀ row ∈ catalog, row.name ≠ "" := by decide +kernel

theorem find?_initial {row : CatalogRow} (mem : row ∈ catalog) :
    initial.find? row.name = some (.ofMetadata row.toMetadata) := by
  have distinct : ((catalog.map fun row =>
      (row.name, Record.ofMetadata row.toMetadata)).map Prod.fst).Nodup := by
    rw [List.map_map]
    exact catalog_distinct
  exact NameMap.get?_ofPairs_of_mem distinct (List.mem_map.mpr ⟨row, mem, rfl⟩)

theorem find?_initial_eq_none {name : String} (absent : ∀ row ∈ catalog, name ≠ row.name) :
    initial.find? name = none := by
  have missing : NameMap.lookup name (catalog.map fun row =>
      (row.name, Record.ofMetadata row.toMetadata)).reverse = none := by
    refine NameMap.lookup_eq_none fun e listed => ?_
    obtain ⟨row, mem, rfl⟩ := List.mem_map.mp (List.mem_reverse.mp listed)
    exact absent row mem
  rw [find?, initial, ofCatalog, NameMap.ofPairs, NameMap.get?_insertAll, missing]
  rfl

/-- The initial registry holds the catalog with clear flags and nothing else. -/
theorem find?_initial_eq_some_iff {name : String} {record : Record} :
    initial.find? name = some record ↔
      ∃ row ∈ catalog, row.name = name ∧ Record.ofMetadata row.toMetadata = record := by
  constructor
  · intro found
    by_cases listed : ∃ row ∈ catalog, row.name = name
    · obtain ⟨row, mem, rfl⟩ := listed
      rw [find?_initial mem] at found
      exact ⟨row, mem, rfl, Option.some.inj found⟩
    · rw [find?_initial_eq_none fun row mem same => listed ⟨row, mem, same.symm⟩] at found
      cases found
  · rintro ⟨row, mem, rfl, rfl⟩
    exact find?_initial mem

theorem metadata?_initial {row : CatalogRow} (mem : row ∈ catalog) :
    initial.metadata? row.name = some row.toMetadata := by
  rw [metadata?, find?_initial mem]
  rfl

theorem metadata?_initial_eq_none {name : String} (absent : ∀ row ∈ catalog, name ≠ row.name) :
    initial.metadata? name = none := by
  rw [metadata?, find?_initial_eq_none absent]
  rfl

theorem metadata?_initial_eq_some_iff {name : String} {m : Metadata} :
    initial.metadata? name = some m ↔
      ∃ row ∈ catalog, row.name = name ∧ row.toMetadata = m := by
  simp only [metadata?_eq_some_iff, find?_initial_eq_some_iff]
  constructor
  · rintro ⟨_, ⟨row, mem, named, rfl⟩, same⟩
    exact ⟨row, mem, named, same⟩
  · rintro ⟨row, mem, named, same⟩
    exact ⟨_, ⟨row, mem, named, rfl⟩, same⟩

theorem isKnown_initial_iff {name : String} :
    initial.isKnown name = true ↔ ∃ row ∈ catalog, row.name = name := by
  rw [isKnown_eq_isSome, Option.isSome_iff_exists]
  simp only [metadata?_initial_eq_some_iff]
  exact ⟨fun ⟨_, row, mem, named, _⟩ => ⟨row, mem, named⟩,
    fun ⟨row, mem, named⟩ => ⟨_, row, mem, named, rfl⟩⟩

/-- A compilation's starting registry is what a run of two changes makes of the initial one. -/
theorem startFor_eq_after (l : Language) (features : TargetFeatures) :
    (startFor l features).value = initial.after [.adopt features l, .enableCore l] := rfl

/-- A registry that a compilation may begin with. -/
def IsStart (start : Registry) : Prop :=
  start = initial ∨ ∃ l features, start = (startFor l features).value

theorem IsStart.metadata? {start : Registry} (h : start.IsStart) {row : CatalogRow}
    (mem : row ∈ catalog) : start.metadata? row.name = some row.toMetadata := by
  rcases h with rfl | ⟨l, features, rfl⟩
  · exact metadata?_initial mem
  · rw [startFor_eq_after]
    exact metadata?_after (metadata?_initial mem) _

/-- A change makes a name known only if it is a restoration that lists the name. -/
theorem restore_of_isKnown_changed {r : Registry} {name : String} {c : Change}
    (unknown : r.isKnown name = false) (known : (r.changed c).isKnown name = true) :
    ∃ s, c = .restore s ∧ ∃ entry ∈ s.entries, entry.name = name := by
  rw [isKnown_eq_isSome, Option.isSome_eq_false_iff, Option.isNone_iff_eq_none] at unknown
  rw [isKnown_eq_isSome, metadata?_changed, unknown] at known
  obtain ⟨m, brought⟩ := Option.isSome_iff_exists.mp known
  exact Change.mem_of_brought brought

/-- Every run keeps the catalog's names with the catalog's metadata, keeps whatever
metadata any name has got, and admits new names from snapshots alone. So no snapshot
changes in which languages an option of the catalog is available, core or optional core. -/
theorem metadata_permanent {start : Registry} (h : start.IsStart) (changes : List Change) :
    (∀ row ∈ catalog, (start.after changes).metadata? row.name = some row.toMetadata) ∧
      (∀ name m, (start.after changes).metadata? name = some m →
        ∀ later, ((start.after changes).after later).metadata? name = some m) ∧
      (∀ name c, (start.after changes).isKnown name = false →
        ((start.after changes).changed c).isKnown name = true →
          ∃ s, c = .restore s ∧ ∃ entry ∈ s.entries, entry.name = name) ∧
      ∀ s : Snapshot, ∀ row ∈ catalog, ∀ l : Language, ∃ record,
        ((start.after changes).restore s).value.find? row.name = some record ∧
          record.availableIn l = row.availableIn l ∧ record.coreIn l = row.coreIn l ∧
          record.optionalCoreIn l = row.optionalCoreIn l := by
  have kept : ∀ row ∈ catalog, ∀ changes,
      (start.after changes).metadata? row.name = some row.toMetadata :=
    fun row mem changes => metadata?_after (h.metadata? mem) changes
  refine ⟨fun row mem => kept row mem changes, ?_, ?_, ?_⟩
  · intro name m known later
    exact metadata?_after known later
  · intro name c unknown known
    exact restore_of_isKnown_changed unknown known
  · intro s row mem l
    have restored := kept row mem (changes ++ [.restore s])
    rw [after_append] at restored
    obtain ⟨record, found, same⟩ := metadata?_eq_some_iff.mp restored
    refine ⟨record, found, ?_⟩
    rw [same]
    exact ⟨rfl, rfl, rfl⟩

/-- A snapshot that calls an extension of the catalog core everywhere, and then brings in
a name that the catalog lacks. -/
def forged : Snapshot :=
  ⟨[{ name := "cl_khr_fp16", since := 300, core := .every, enabled := true },
    { name := "vendor", since := 7, optionalCore := .every }]⟩

/-- The row of the catalog that the snapshot contradicts. -/
def halfFloats : CatalogRow := .extension "cl_khr_fp16" 100

theorem metadata_permanent_forged :
    (initial.after [.restore forged]).metadata? halfFloats.name = some halfFloats.toMetadata ∧
      ((initial.after [.restore forged]).after
        [.restore ⟨[{ name := "vendor", since := 8 }]⟩, .clearEnabled]).metadata? "vendor" =
          some { since := 7, optionalCore := .every } ∧
      (∃ s, Change.restore forged = .restore s ∧ ∃ entry ∈ s.entries, entry.name = "vendor") ∧
      ∃ record, ((initial.after []).restore forged).value.find? halfFloats.name = some record ∧
        record.availableIn (.c .v30) = halfFloats.availableIn (.c .v30) ∧
        record.coreIn (.c .v30) = halfFloats.coreIn (.c .v30) ∧
        record.optionalCoreIn (.c .v30) = halfFloats.optionalCoreIn (.c .v30) := by
  have mem : halfFloats ∈ catalog := by decide +kernel
  have absent : initial.metadata? "vendor" = none :=
    metadata?_initial_eq_none (by decide +kernel)
  have brought : (initial.changed (.restore forged)).metadata? "vendor" =
      some { since := 7, optionalCore := .every } := by
    rw [metadata?_changed, absent]
    decide
  have late := metadata_permanent (.inl rfl) [.restore forged]
  have early := metadata_permanent (.inl rfl) []
  refine ⟨late.1 halfFloats mem, late.2.1 "vendor" _ ?_ _, ?_, ?_⟩
  · rw [after_cons, after_nil, brought]
  · refine early.2.2.1 "vendor" (.restore forged) ?_ ?_
    · rw [after_nil, isKnown_eq_isSome, absent]
      rfl
    · rw [after_nil, isKnown_eq_isSome, brought]
      rfl
  · exact early.2.2.2 forged halfFloats mem (.c .v30)

end Registry

end OpenCLRegistry
