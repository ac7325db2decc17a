import OpenCLRegistry.Proofs.Registry.Flags
import Mathlib.Data.List.Basic

/-!
# What a restoration does

A snapshot may list a name more than once, in any order and with any metadata. The last
entry of a name sets its flags. A name that was known keeps its metadata, and one that
is new takes them from its first entry. Each new name is warned of once, in the order in
which the snapshot first lists them. A second restoration finds nothing left to do.
-/
namespace OpenCLRegistry

namespace Snapshot

/-- The names of the entries, in their order and as often as they occur. -/
def listed (s : Snapshot) : List String := s.entries.map fun entry => entry.name

theorem entriesOf_eq_nil_iff {s : Snapshot} {name : String} :
    s.entriesOf name = [] ↔ name ∉ s.listed := by
  simp [entriesOf, listed, List.filter_eq_nil_iff]

theorem exists_ends_of_mem_listed {s : Snapshot} {name : String} (mem : name ∈ s.listed) :
    ∃ first last, (s.entriesOf name).head? = some first ∧
      (s.entriesOf name).getLast? = some last := by
  have nonempty : s.entriesOf name ≠ [] := fun none => entriesOf_eq_nil_iff.mp none mem
  exact ⟨_, _, List.head?_eq_some_head nonempty, List.getLast?_eq_some_getLast nonempty⟩

end Snapshot

/-- The last entry counts for the flags, and the first one for the metadata of a new name. -/
theorem Record.foldl_restored_of_ends {entries : List SavedRecord} {first last : SavedRecord}
    (head : entries.head? = some first) (tail : entries.getLast? = some last)
    (record? : Option Record) :
    entries.foldl restored record? =
      some ⟨(record?.map toMetadata).getD first.toMetadata, last.supported, last.enabled⟩ := by
  have metadata := toMetadata_foldl_restored entries record?
  have supported := @Registry.map_foldl_restored (·.supported) (fun _ _ => rfl) entries record?
  have enabled := @Registry.map_foldl_restored (·.enabled) (fun _ _ => rfl) entries record?
  rw [head, Option.map_some, Option.or_some] at metadata
  rw [tail, Option.map_some, Option.some_or] at supported enabled
  obtain ⟨record, whole, metadata⟩ := Option.map_eq_some_iff.mp metadata
  rw [whole] at supported enabled ⊢
  cases record
  cases metadata
  cases supported
  cases enabled
  rfl

namespace Registry

theorem value_restore (r : Registry) (s : Snapshot) :
    (r.restore s).value = r.changed (.restore s) := rfl

theorem isKnown_restore {r : Registry} {s : Snapshot} {name : String} :
    (r.restore s).value.isKnown name = true ↔ r.isKnown name = true ∨ name ∈ s.listed := by
  have brought : ((Change.restore s).brought name).isSome = true ↔ name ∈ s.listed := by
    rw [Change.brought, Option.isSome_map, ← not_iff_not, ← Snapshot.entriesOf_eq_nil_iff]
    simp
  rw [value_restore, isKnown_eq_isSome, metadata?_changed, Option.isSome_or, Bool.or_eq_true,
    brought, isKnown_eq_isSome]

theorem find?_restore_of_mem_listed (r : Registry) {s : Snapshot} {name : String}
    (mem : name ∈ s.listed) :
    ∃ first last, (s.entriesOf name).head? = some first ∧
      (s.entriesOf name).getLast? = some last ∧
      (r.restore s).value.find? name =
        some ⟨(r.metadata? name).getD first.toMetadata, last.supported, last.enabled⟩ := by
  obtain ⟨first, last, head, tail⟩ := Snapshot.exists_ends_of_mem_listed mem
  refine ⟨first, last, head, tail, ?_⟩
  rw [value_restore, find?_changed]
  exact Record.foldl_restored_of_ends head tail (r.find? name)

theorem find?_restore_of_not_mem_listed (r : Registry) {s : Snapshot} {name : String}
    (absent : name ∉ s.listed) : (r.restore s).value.find? name = r.find? name := by
  rw [value_restore, find?_changed, Change.effect, Snapshot.entriesOf_eq_nil_iff.mpr absent]
  rfl

/-! ## Warnings -/

/-- The listed names that the registry lacks, each once, in the order in which they first
appear. -/
structure Newcomers (r : Registry) (listed fresh : List String) : Prop where
  mem_iff : ∀ name, name ∈ fresh ↔ r.isKnown name = false ∧ name ∈ listed
  ordered : fresh.Pairwise fun a b => listed.idxOf a < listed.idxOf b

namespace Newcomers

variable {r : Registry} {listed fresh : List String} {name : String}

/-- Where names first appear does not depend on what follows. -/
theorem ordered_append (h : r.Newcomers listed fresh) (more : List String) :
    fresh.Pairwise fun a b => (listed ++ more).idxOf a < (listed ++ more).idxOf b := by
  refine h.ordered.imp_of_mem fun {a b} memA memB before => ?_
  rwa [List.idxOf_append_of_mem ((h.mem_iff a).mp memA).2,
    List.idxOf_append_of_mem ((h.mem_iff b).mp memB).2]

theorem concat_old (h : r.Newcomers listed fresh) (old : r.isKnown name = true ∨ name ∈ listed) :
    r.Newcomers (listed ++ [name]) fresh where
  mem_iff other := by
    rw [h.mem_iff, List.mem_append, List.mem_singleton]
    constructor
    · rintro ⟨unknown, mem⟩
      exact ⟨unknown, .inl mem⟩
    · rintro ⟨unknown, mem | rfl⟩
      · exact ⟨unknown, mem⟩
      · exact ⟨unknown, old.resolve_left (by simp [unknown])⟩
  ordered := h.ordered_append [name]

theorem concat_new (h : r.Newcomers listed fresh) (unknown : r.isKnown name = false)
    (unlisted : name ∉ listed) : r.Newcomers (listed ++ [name]) (fresh ++ [name]) where
  mem_iff other := by
    rw [List.mem_append, List.mem_append, List.mem_singleton, h.mem_iff]
    constructor
    · rintro (⟨unknown', mem⟩ | rfl)
      · exact ⟨unknown', .inl mem⟩
      · exact ⟨unknown, .inr rfl⟩
    · rintro ⟨unknown', mem | same⟩
      · exact .inl ⟨unknown', mem⟩
      · exact .inr same
  ordered := by
    refine List.pairwise_append.mpr ⟨h.ordered_append [name], List.pairwise_singleton .., ?_⟩
    intro a mem b last
    have listedA := ((h.mem_iff a).mp mem).2
    rw [List.mem_singleton.mp last, List.idxOf_append_of_mem listedA,
      List.idxOf_append_of_notMem unlisted, List.idxOf_cons_self]
    exact List.idxOf_lt_length_of_mem listedA

theorem nodup (h : r.Newcomers listed fresh) : fresh.Nodup :=
  h.ordered.imp fun {_ _} before => ne_of_apply_ne listed.idxOf (Nat.ne_of_lt before)

/-- There is one such list only, and the records behind the names do not matter to it. -/
theorem unique {s : Registry} {others : List String} (h : r.Newcomers listed fresh)
    (h' : s.Newcomers listed others) (same : ∀ name, r.isKnown name = s.isKnown name) :
    fresh = others := by
  have perm : fresh.Perm others := (List.perm_ext_iff_of_nodup h.nodup h'.nodup).mpr fun name => by
    rw [h.mem_iff, h'.mem_iff, same]
  exact perm.eq_of_pairwise (fun _ _ _ _ before after => absurd before (Nat.lt_asymm after))
    h.ordered h'.ordered

/-- Where every listed name is known, there are none. -/
theorem eq_nil (h : r.Newcomers listed fresh) (known : ∀ name ∈ listed, r.isKnown name = true) :
    fresh = [] := by
  refine List.eq_nil_iff_forall_not_mem.mpr fun name mem => ?_
  obtain ⟨unknown, mem⟩ := (h.mem_iff name).mp mem
  rw [known name mem] at unknown
  cases unknown

end Newcomers

/-- The induction is from the end of the list: what stands before an entry decides whether its
name is still new. -/
theorem warnings_newcomers (r : Registry) (entries : List SavedRecord) :
    ∃ fresh, r.Newcomers (Snapshot.listed ⟨entries⟩) fresh ∧
      (entries.foldl Restoration.next { registry := r }).warnings =
        fresh.map .missingFromCatalog := by
  induction entries using List.reverseRecOn with
  | nil => exact ⟨[], ⟨by simp [Snapshot.listed], .nil⟩, rfl⟩
  | append_singleton entries entry ih =>
    obtain ⟨fresh, newcomers, warned⟩ := ih
    have reached : (entries.foldl Restoration.next { registry := r }).registry.isKnown entry.name =
        true ↔ r.isKnown entry.name = true ∨ entry.name ∈ Snapshot.listed ⟨entries⟩ :=
      isKnown_restore
    have listed : Snapshot.listed ⟨entries ++ [entry]⟩ =
        Snapshot.listed ⟨entries⟩ ++ [entry.name] := by simp [Snapshot.listed]
    rw [List.foldl_append, List.foldl_cons, List.foldl_nil, Restoration.next, listed]
    rw [isKnown_eq_isSome_find?] at reached
    cases found : (entries.foldl Restoration.next { registry := r }).registry.find? entry.name with
    | some record =>
      rw [found] at reached
      exact ⟨fresh, newcomers.concat_old (reached.mp rfl), warned⟩
    | none =>
      rw [found] at reached
      have new : ¬ (r.isKnown entry.name = true ∨ entry.name ∈ Snapshot.listed ⟨entries⟩) :=
        fun old => Bool.false_ne_true (reached.mpr old)
      rw [not_or, Bool.not_eq_true] at new
      exact ⟨fresh ++ [entry.name], newcomers.concat_new new.1 new.2, by simp [warned]⟩

theorem events_restore (r : Registry) (s : Snapshot) :
    ∃ fresh, r.Newcomers s.listed fresh ∧
      (r.restore s).events = fresh.map .missingFromCatalog ++ [.restored s.entries.length] := by
  obtain ⟨fresh, newcomers, warned⟩ := r.warnings_newcomers s.entries
  refine ⟨fresh, newcomers, ?_⟩
  rw [restore, warned]

/-- Every warning is one for the log as well, and the last event is a detail. -/
theorem levels_restore {r : Registry} {s : Snapshot} {fresh : List String}
    (reported : (r.restore s).events =
      fresh.map .missingFromCatalog ++ [.restored s.entries.length]) :
    (r.restore s).events.map Event.level = List.replicate fresh.length .warn ++ [.debug] := by
  rw [reported, List.map_append, @Event.map_level_map _ .missingFromCatalog .warn fun _ => rfl]
  rfl

/-! ## The whole -/

/-- What a snapshot says does not depend on the registry, so saying it again changes nothing. -/
theorem changed_restore_restore (r : Registry) (s : Snapshot) :
    (r.changed (.restore s)).changed (.restore s) = r.changed (.restore s) := by
  ext1 name
  refine find?_eq_of_parts ?_ ?_ ?_
  · rw [metadata?_changed, metadata?_changed, Option.or_assoc, Option.or_self]
  · rw [supported?_changed, supported?_changed, supportedWrite, supportedWrite, ← Option.or_assoc,
      Option.or_self]
  · rw [enabled?_changed, enabled?_changed, enabledWrite, enabledWrite, ← Option.or_assoc,
      Option.or_self]

theorem restore_restore (r : Registry) (s : Snapshot) :
    (r.restore s).value.restore s = ⟨(r.restore s).value, [.restored s.entries.length]⟩ := by
  obtain ⟨fresh, newcomers, reported⟩ := (r.restore s).value.events_restore s
  have none : fresh = [] := newcomers.eq_nil fun name mem => isKnown_restore.mpr (.inr mem)
  subst none
  have value : ((r.restore s).value.restore s).value = (r.restore s).value :=
    changed_restore_restore r s
  calc (r.restore s).value.restore s
      = ⟨((r.restore s).value.restore s).value, ((r.restore s).value.restore s).events⟩ := rfl
    _ = ⟨(r.restore s).value, [.restored s.entries.length]⟩ := by
      rw [value, reported, List.map_nil, List.nil_append]

/-- A restoration makes the listed names known besides those that were. It gives a listed name
the flags of its last entry, and the metadata that it had or else those of its first entry. The
other records stay as they are. The new names are warned of, each once and in the order of their
first entries, and then the number of all entries is reported as a detail. To restore the same
snapshot again changes nothing and warns of nothing. -/
theorem restore_last_flags_first_metadata (r : Registry) (s : Snapshot) :
    (∀ name, name ∈ (r.restore s).value.names ↔ name ∈ r.names ∨ name ∈ s.listed) ∧
    (∀ name ∈ s.listed, ∃ first last, (s.entriesOf name).head? = some first ∧
      (s.entriesOf name).getLast? = some last ∧
      (r.restore s).value.find? name =
        some ⟨(r.metadata? name).getD first.toMetadata, last.supported, last.enabled⟩) ∧
    (∀ name, name ∉ s.listed → (r.restore s).value.find? name = r.find? name) ∧
    (∃ fresh, r.Newcomers s.listed fresh ∧
      (r.restore s).events = fresh.map .missingFromCatalog ++ [.restored s.entries.length] ∧
      (r.restore s).events.map Event.level = List.replicate fresh.length .warn ++ [.debug]) ∧
    (r.restore s).value.restore s = ⟨(r.restore s).value, [.restored s.entries.length]⟩ ∧
    ∀ event ∈ ((r.restore s).value.restore s).events, event.level = .debug := by
  refine ⟨fun name => ?_, fun name => r.find?_restore_of_mem_listed,
    fun name => r.find?_restore_of_not_mem_listed, ?_, r.restore_restore s, ?_⟩
  · rw [names, names, NameMap.mem_names_iff, NameMap.mem_names_iff]
    exact isKnown_restore
  · obtain ⟨fresh, newcomers, reported⟩ := r.events_restore s
    exact ⟨fresh, newcomers, reported, levels_restore reported⟩
  · intro event mem
    rw [restore_restore] at mem
    rw [List.mem_singleton.mp mem]
    rfl

/-- An option of the catalog with other metadata, between two entries of a new name that
contradict each other, and another new name that comes first by code point but not here. -/
def contradictory : Snapshot :=
  ⟨[{ name := "vendor", since := 7, optionalCore := .every, enabled := true },
    { name := "cl_khr_fp16", since := 300, core := .every, enabled := true },
    { name := "acme", since := 120 },
    { name := "vendor", since := 8, supported := true }]⟩

theorem restore_last_flags_first_metadata_contradictory :
    "vendor" ∈ contradictory.listed ∧
      (initial.restore contradictory).value.find? "vendor" =
        some ⟨{ since := 7, optionalCore := .every }, true, false⟩ ∧
      halfFloats.name ∈ contradictory.listed ∧
      (initial.restore contradictory).value.find? halfFloats.name =
        some ⟨halfFloats.toMetadata, false, true⟩ ∧
      "cl_khr_fp64" ∉ contradictory.listed ∧
      (initial.restore contradictory).value.find? "cl_khr_fp64" = initial.find? "cl_khr_fp64" ∧
      ∀ event ∈ ((initial.restore contradictory).value.restore contradictory).events,
        event.level = .debug := by
  obtain ⟨-, listed, unlisted, -, -, quiet⟩ := restore_last_flags_first_metadata initial contradictory
  have vendor : "vendor" ∈ contradictory.listed := by decide
  have half : halfFloats.name ∈ contradictory.listed := by decide
  have absent : "cl_khr_fp64" ∉ contradictory.listed := by decide
  have new : initial.metadata? "vendor" = none := metadata?_initial_eq_none (by decide +kernel)
  have known : initial.metadata? halfFloats.name = some halfFloats.toMetadata :=
    metadata?_initial (by decide +kernel)
  refine ⟨vendor, ?_, half, ?_, absent, unlisted _ absent, quiet⟩
  · obtain ⟨first, last, head, tail, found⟩ := listed _ vendor
    rw [found, new]
    cases head
    cases tail
    rfl
  · obtain ⟨first, last, head, tail, found⟩ := listed _ half
    rw [found, known]
    cases tail
    rfl

end Registry

end OpenCLRegistry
