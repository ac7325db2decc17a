import OpenCLRegistry.Proofs.Json.KeyOrder
import OpenCLRegistry.Snapshot.Text

/-!
# The schema of a snapshot

Which values are snapshots, said without the reader: the entries under one key,
and six fields for each entry, in any order among any other keys or in the order
of the fields in a list. A text is read as a snapshot if and only if the value it
spells is written for that snapshot, and every other value is refused as an
invalid snapshot. Nesting is not bounded; what lies under a key that is no field
may be of any depth.
-/
namespace OpenCLRegistry

open Json Json.RecordFormat

namespace SavedRecord

/-- The values of the fields in their order. -/
def values (e : SavedRecord) : List Json :=
  [.str e.name, .bool e.supported, .bool e.enabled, .ofWord e.since, .ofWord e.core.bits,
    .ofWord e.optionalCore.bits]

/-- A value gives exactly the fields of an entry. -/
def WrittenAs (e : SavedRecord) (j : Json) : Prop :=
  Presents ["name", "supported", "enabled", "avail", "core", "opt"] e.values j

/-- What the value of a field changes in an entry. -/
def change : Changes SavedRecord := fun key j =>
  match key with
  | "name" => (text? j).map fun name e => { e with name }
  | "supported" => (flag? j).map fun supported e => { e with supported }
  | "enabled" => (flag? j).map fun enabled e => { e with enabled }
  | "avail" => (word? j).map fun since e => { e with since }
  | "core" => (word? j).map fun bits e => { e with core := ⟨bits⟩ }
  | "opt" => (word? j).map fun bits e => { e with optionalCore := ⟨bits⟩ }
  | _ => none

theorem decodes_fields : ∀ field ∈ format.fields, field.change.Decodes (change field.key) := by
  intro field mem
  simp only [format, List.mem_cons, List.not_mem_nil, or_false] at mem
  rcases mem with rfl | rfl | rfl | rfl | rfl | rfl
  · exact Reader.decodes_text.map _
  · exact Reader.decodes_flag.map _
  · exact Reader.decodes_flag.map _
  · exact Reader.decodes_word.map _
  · exact Reader.decodes_word.map _
  · exact Reader.decodes_word.map _

theorem commute_change : change.Commute := by
  intro key other ne j i f g hf hg record
  unfold change at hf hg
  split at hf <;> split at hg <;> try contradiction
  all_goals
    obtain ⟨a, -, rfl⟩ := Option.map_eq_some_iff.mp hf
    obtain ⟨b, -, rfl⟩ := Option.map_eq_some_iff.mp hg
    rfl

theorem ofItems_blank {js : List Json} {e : SavedRecord} :
    ofItems change format.fields blank js = some e ↔ js = e.values := by
  constructor
  · intro h
    obtain ⟨name, _, _, rfl, rfl, h₁⟩ :=
      (ofItems_part_eq_some_iff rfl text?_eq_some_iff rfl).mp h
    obtain ⟨supported, _, _, rfl, rfl, h₂⟩ :=
      (ofItems_part_eq_some_iff rfl flag?_eq_some_iff rfl).mp h₁
    obtain ⟨enabled, _, _, rfl, rfl, h₃⟩ :=
      (ofItems_part_eq_some_iff rfl flag?_eq_some_iff rfl).mp h₂
    obtain ⟨since, _, _, rfl, rfl, h₄⟩ :=
      (ofItems_part_eq_some_iff rfl word?_eq_some_iff rfl).mp h₃
    obtain ⟨core, _, _, rfl, rfl, h₅⟩ :=
      (ofItems_part_eq_some_iff rfl word?_eq_some_iff rfl).mp h₄
    obtain ⟨opt, _, _, rfl, rfl, h₆⟩ :=
      (ofItems_part_eq_some_iff rfl word?_eq_some_iff rfl).mp h₅
    obtain ⟨rfl, rfl⟩ := ofItems_nil_eq_some_iff.mp h₆
    rfl
  · intro same
    subst same
    have word (n : UInt32) : word? (.ofWord n) = some n := word?_eq_some_iff.mpr rfl
    simp only [values, format, ofItems, change, text?, flag?, word, Option.map_some,
      Option.bind_some]

theorem decode_eq_some_iff {j : Json} {e : SavedRecord} :
    format.decode change j = some e ↔ e.WrittenAs j := by
  rw [RecordFormat.decode_eq_some_iff commute_change (by decide) (by decide)]
  constructor
  · intro given
    obtain ⟨js, presents, read⟩ := given
    rwa [ofItems_blank.mp read] at presents
  · intro written
    exact ⟨e.values, written, ofItems_blank.mpr rfl⟩

theorem decodes : format.reader.Decodes (format.decode change) :=
  decodes_reader decodes_fields

theorem writtenAs_tree (e : SavedRecord) : e.WrittenAs e.tree := by
  refine .object ?_
  repeat refine .cons (by simp [valuesAt, VersionSet.tree]) ?_
  exact .nil

end SavedRecord

namespace Snapshot

/-- A value gives exactly the entries of a snapshot, in their order. -/
def WrittenAs (s : Snapshot) (j : Json) : Prop :=
  ∃ items, Presents ["entries"] [.arr items] j ∧ List.Forall₂ SavedRecord.WrittenAs s.entries items

def change : Changes Snapshot := fun key j =>
  match key with
  | "entries" =>
    (list? (SavedRecord.format.decode SavedRecord.change) j).map fun entries _ => { entries }
  | _ => none

theorem decodes_fields : ∀ field ∈ format.fields, field.change.Decodes (change field.key) := by
  intro field mem
  obtain rfl := List.mem_singleton.mp mem
  exact SavedRecord.decodes.list.map _

theorem commute_change : change.Commute := by
  intro key other ne j i f g hf hg record
  unfold change at hf hg
  split at hf <;> split at hg <;> contradiction

/-- The value of the only field. -/
theorem entries?_eq_some_iff {j : Json} {entries : List SavedRecord} :
    list? (SavedRecord.format.decode SavedRecord.change) j = some entries ↔
      ∃ items, j = .arr items ∧ List.Forall₂ SavedRecord.WrittenAs entries items := by
  simp only [list?_eq_some_iff, SavedRecord.decode_eq_some_iff]

theorem ofItems_start {js : List Json} {s : Snapshot} :
    ofItems change format.fields format.start js = some s ↔
      ∃ items, js = [.arr items] ∧ List.Forall₂ SavedRecord.WrittenAs s.entries items := by
  constructor
  · intro h
    obtain ⟨entries, _, _, rfl, ⟨items, rfl, written⟩, h₁⟩ :=
      (ofItems_part_eq_some_iff rfl entries?_eq_some_iff rfl).mp h
    obtain ⟨rfl, rfl⟩ := ofItems_nil_eq_some_iff.mp h₁
    exact ⟨items, rfl, written⟩
  · intro given
    obtain ⟨items, rfl, written⟩ := given
    have entries := entries?_eq_some_iff.mpr ⟨items, rfl, written⟩
    simp only [format, ofItems, change, entries, Option.map_some, Option.bind_some]

theorem decode_eq_some_iff {j : Json} {s : Snapshot} :
    format.decode change j = some s ↔ s.WrittenAs j := by
  rw [RecordFormat.decode_eq_some_iff commute_change (by decide) (by decide)]
  constructor
  · intro given
    obtain ⟨js, presents, read⟩ := given
    obtain ⟨items, rfl, entries⟩ := ofItems_start.mp read
    exact ⟨items, presents, entries⟩
  · intro given
    obtain ⟨items, presents, entries⟩ := given
    exact ⟨_, presents, ofItems_start.mpr ⟨items, rfl, entries⟩⟩

theorem decodes : format.reader.Decodes (format.decode change) :=
  decodes_reader decodes_fields

theorem ofText_eq_ok_iff {j : Json} {text : String} (h : SpellsDocument j text.toList)
    {s : Snapshot} : ofText text = .ok s ↔ s.WrittenAs j := by
  rw [ofText, mapError_eq_ok_iff, readDocument_eq_ok_iff decodes h, ← decode_eq_some_iff]
  simp

/-- Whatever stops the reading of a text is reported as an invalid snapshot. -/
theorem eq_invalidSnapshot {text : String} {e : Error} (h : ofText text = .error e) :
    ∃ reason, e = .invalidSnapshot reason := by
  obtain ⟨reason, -, rfl⟩ := mapError_eq_error_iff.mp h
  exact ⟨reason, rfl⟩

/-- A text is read as the snapshot that its value is written for. If the value is written
for no snapshot, the text is refused. -/
theorem ofText_schema {j : Json} {text : String} (h : SpellsDocument j text.toList) :
    (∀ s, ofText text = .ok s ↔ s.WrittenAs j) ∧
      ((∀ s : Snapshot, ¬ s.WrittenAs j) →
        ∃ reason, ofText text = .error (.invalidSnapshot reason)) := by
  refine ⟨fun s => ofText_eq_ok_iff h, fun unwritten => ?_⟩
  cases read : ofText text with
  | ok s => exact absurd ((ofText_eq_ok_iff h).mp read) (unwritten s)
  | error e =>
    obtain ⟨reason, rfl⟩ := eq_invalidSnapshot read
    exact ⟨reason, rfl⟩

/-- An entry as a list, after a key that is no field. -/
def positional : Json :=
  .obj [("note", .arr [.null, .int (-1)]),
    ("entries", .arr [.arr [.str "cl_x", .bool true, .bool false, .ofWord 100, .ofWord 0,
      .ofWord 4294967295]])]

/-- A layout with blanks at all places. -/
def wide : Layout := ⟨fun _ => ['\n', '\t'], [' ']⟩

theorem ofText_schema_positional :
    SpellsDocument positional (String.ofList (' ' :: positional.render wide 0 ++ ['\n'])).toList ∧
      ofText (String.ofList (' ' :: positional.render wide 0 ++ ['\n'])) =
        .ok ⟨[⟨⟨⟨100, ⟨0⟩, ⟨4294967295⟩⟩, true, false⟩, "cl_x"⟩]⟩ := by
  have blank : wide.IsBlank := by
    constructor
    · intro depth
      simp [Blank, wide, isSpace]
    · simp [Blank, wide, isSpace]
  have spelt : SpellsDocument positional
      (String.ofList (' ' :: positional.render wide 0 ++ ['\n'])).toList := by
    rw [String.toList_ofList]
    exact .ends (b := [' ']) (by simp [Blank, isSpace]) (spells_render blank 0 positional)
      (by simp [Blank, isSpace])
  exact ⟨spelt, ((ofText_schema spelt).1 _).mpr ⟨_, .object (.cons rfl .nil), .cons .list .nil⟩⟩

end Snapshot

end OpenCLRegistry
