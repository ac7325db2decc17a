import OpenCLRegistry.Proofs.Language.Schema

/-!
# Configurations as text

A text configures a language by its two numbers if it is an object that writes
each of them once. What else the object holds does not count: neither other keys,
which may have any values, nor the order of the keys, nor blanks. Such a text is
read as the language of its numbers, or refused for the reason for which there is
no such language.
-/
namespace OpenCLRegistry.Language

open Json Json.RecordFormat

/-- What an object writes under a key. -/
def textsAt (key : String) (written : List (String × List Char)) : List (List Char) :=
  (written.filter (·.1 == key)).map (·.2)

/-- An object that writes a version number and a flag for C++ mode. -/
inductive Configures (n : UInt32) (cplusplus : Bool) : List Char → Prop
  | object {written : List (String × List Char)} {b t d : List Char} :
      Blank b → ObjectText written t → Blank d →
      textsAt "opencl_version" written = [(toString n.toNat).toList] →
      textsAt "opencl_cplusplus" written = [(toString cplusplus).toList] →
      Configures n cplusplus (b ++ t ++ d)

theorem spells_ofWord (n : UInt32) : Spells (.value (.ofWord n)) (toString n.toNat).toList := by
  have spelt := Spells.int n.toNat
  rw [intText_of_nonneg (Int.natCast_nonneg _), Int.natAbs_natCast] at spelt
  rwa [Nat.toString_eq_ofList_toDigits, String.toList_ofList]

theorem spells_bool (value : Bool) : Spells (.value (.bool value)) (toString value).toList := by
  cases value with
  | true => exact .yes
  | false => exact .no

/-- The value of a field, given the numbers; other keys are not asked for theirs. -/
def Numbers.value (n : Numbers) (key : String) : Json :=
  if key = "opencl_version" then .ofWord n.version else .bool n.cplusplus

theorem valuesAt_map_value (value : String → Json) (key : String)
    (written : List (String × List Char)) :
    valuesAt key (written.map fun w => (w.1, value w.1)) =
      (textsAt key written).map fun _ => value key := by
  rw [valuesAt, textsAt, List.filter_map, List.map_map, List.map_map]
  refine List.map_congr_left fun w mem => congrArg value ?_
  exact beq_iff_eq.mp (List.mem_filter.mp mem).2

theorem mem_textsAt {w : String × List Char} {written : List (String × List Char)}
    (mem : w ∈ written) : w.2 ∈ textsAt w.1 written :=
  List.mem_map.mpr ⟨w, List.mem_filter.mpr ⟨mem, beq_self_eq_true w.1⟩, rfl⟩

/-- Where an object writes each number once, its fields are spelt. -/
theorem takes_value {n : Numbers} {written : List (String × List Char)}
    (version : textsAt "opencl_version" written = [(toString n.version.toNat).toList])
    (cplusplus : textsAt "opencl_cplusplus" written = [(toString n.cplusplus).toList]) :
    List.Forall₂ Numbers.format.Takes written (written.map fun w => (w.1, n.value w.1)) := by
  rw [List.forall₂_map_right_iff, List.forall₂_same]
  rintro ⟨key, text⟩ mem
  have held := mem_textsAt mem
  refine ⟨rfl, fun isField => ?_⟩
  have field : "opencl_version" = key ∨ "opencl_cplusplus" = key := by
    simpa [Numbers.format] using isField
  rcases field with rfl | rfl
  · rw [version] at held
    rw [List.mem_singleton.mp held]
    exact spells_ofWord n.version
  · rw [cplusplus] at held
    rw [List.mem_singleton.mp held]
    exact spells_bool n.cplusplus

/-- A text that configures a language is read as the language. -/
theorem ofText_of_configures {n : UInt32} {cplusplus : Bool} {text : String}
    (h : Configures n cplusplus text.toList) :
    ofText text = (ofNumbers n cplusplus).mapError fun e => .invalidConfiguration e.message := by
  generalize given : text.toList = s at h
  cases h with
  | @object written b t d hb ht hd version flag =>
    have decoded : Numbers.format.decode Numbers.change
        (.obj (written.map fun w => (w.1, Numbers.value ⟨n, cplusplus⟩ w.1))) =
          some ⟨n, cplusplus⟩ := by
      refine Numbers.decode_obj_eq_some_iff.mpr ⟨some n, some cplusplus, .object ?_ ?_, rfl⟩
      · rw [valuesAt_map_value, version]
        rfl
      · rw [valuesAt_map_value, flag]
        rfl
    have taken : List.Forall₂ Numbers.format.Takes written _ :=
      takes_value (n := ⟨n, cplusplus⟩) version flag
    have outcome := read_objectText Numbers.decodes_fields taken hb ht d
    rw [decoded, ← List.append_assoc, ← given] at outcome
    rcases Reader.outcome_of_toOption outcome with ⟨f, -, missing⟩ | ⟨a, read, same⟩
    · cases missing
    · cases same
      have document : readDocument Numbers.format.reader _ text = _ :=
        readDocument_of_read read hd fun n => n.language.mapError Error.message
      rw [ofText, document]
      change ((ofNumbers n cplusplus).mapError Error.message).mapError Error.invalidConfiguration = _
      cases ofNumbers n cplusplus <;> rfl

end OpenCLRegistry.Language
