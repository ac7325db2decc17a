import OpenCLRegistry.Language.Text
import OpenCLRegistry.Proofs.Json.KeyOrder

/-!
# The schema of a configuration

Which values configure which language, said without the reader. A value gives a version
number, a flag for C++ mode, both or neither, by name in an object or in order in a list;
what is not given has its default. A text is read as a language if and only if its value
configures that language, so nothing that is read escapes the check of the version.
-/
namespace OpenCLRegistry.Language

open Json Json.RecordFormat

namespace Numbers

/-- What the value of a field changes in the numbers. -/
def change : Changes Numbers := fun key j =>
  match key with
  | "opencl_version" => (word? j).map fun version n => { n with version }
  | "opencl_cplusplus" => (flag? j).map fun cplusplus n => { n with cplusplus }
  | _ => none

theorem decodes_fields : ∀ field ∈ format.fields, field.change.Decodes (change field.key) := by
  intro field mem
  simp only [format, List.mem_cons, List.not_mem_nil, or_false] at mem
  rcases mem with rfl | rfl
  · exact Reader.decodes_word.map _
  · exact Reader.decodes_flag.map _

theorem commute_change : change.Commute := by
  intro key other ne j i f g hf hg record
  unfold change at hf hg
  split at hf <;> split at hg <;> try contradiction
  all_goals
    obtain ⟨a, -, rfl⟩ := Option.map_eq_some_iff.mp hf
    obtain ⟨b, -, rfl⟩ := Option.map_eq_some_iff.mp hg
    rfl

/-- A value gives these numbers and no others: each at most once in an object, whatever else
it holds, or both in a list that may end early. -/
inductive Given (version : Option UInt32) (cplusplus : Option Bool) : Json → Prop
  | object {members : List (String × Json)} :
      valuesAt "opencl_version" members = (version.map .ofWord).toList →
      valuesAt "opencl_cplusplus" members = (cplusplus.map .bool).toList →
      Given version cplusplus (.obj members)
  | list : (version = none → cplusplus = none) →
      Given version cplusplus (.arr ((version.map .ofWord).toList ++ (cplusplus.map .bool).toList))

/-- The numbers that are meant where some of them are not given. -/
def meant (version : Option UInt32) (cplusplus : Option Bool) : Numbers :=
  ⟨version.getD unstatedVersion, cplusplus.getD false⟩

theorem decode_obj_eq_some_iff {members : List (String × Json)} {n : Numbers} :
    format.decode change (.obj members) = some n ↔
      ∃ version cplusplus, Given version cplusplus (.obj members) ∧
        meant version cplusplus = n := by
  rw [decode_obj commute_change (by decide)]
  simp only [format, List.foldlM_cons, List.foldlM_nil, Option.bind_eq_bind,
    Option.bind_eq_some_iff, Option.pure_def, Option.some.injEq, exists_eq_right]
  constructor
  · intro given
    obtain ⟨first, version?, cplusplus?⟩ := given
    obtain ⟨version, atVersion, rfl⟩ :=
      (take_optional_eq_some_iff rfl word?_eq_some_iff rfl).mp version?
    obtain ⟨cplusplus, atCplusplus, rfl⟩ :=
      (take_optional_eq_some_iff rfl flag?_eq_some_iff rfl).mp cplusplus?
    refine ⟨version, cplusplus, .object atVersion atCplusplus, ?_⟩
    cases version <;> cases cplusplus <;> rfl
  · intro given
    obtain ⟨version, cplusplus, ⟨atVersion, atCplusplus⟩, rfl⟩ := given
    refine ⟨_, (take_optional_eq_some_iff rfl word?_eq_some_iff rfl).mpr ⟨version, atVersion, rfl⟩,
      (take_optional_eq_some_iff rfl flag?_eq_some_iff rfl).mpr ⟨cplusplus, atCplusplus, ?_⟩⟩
    cases version <;> cases cplusplus <;> rfl

/-- The list ends before the version, or begins with one. -/
theorem ofItems_version {n m : Numbers} {values : List Json} :
    ofItems change format.fields n values = some m ↔
      values = [] ∧ n = m ∨
        ∃ version rest, values = .ofWord version :: rest ∧
          ofItems change format.fields.tail { n with version } rest = some m := by
  have changes : change "opencl_version" =
      fun j => (word? j).map fun version n => { n with version } := rfl
  have optional : ∀ field ∈ format.fields.tail, field.required = false := by decide
  exact ofItems_optional_eq_some_iff changes word?_eq_some_iff optional

/-- After a version the list ends, or the flag comes as its last item. -/
theorem ofItems_cplusplus {n m : Numbers} {values : List Json} :
    ofItems change format.fields.tail n values = some m ↔
      ∃ cplusplus : Option Bool, values = (cplusplus.map .bool).toList ∧
        { n with cplusplus := cplusplus.getD n.cplusplus } = m := by
  have changes : change "opencl_cplusplus" =
      fun j => (flag? j).map fun cplusplus n => { n with cplusplus } := rfl
  have step : ofItems change format.fields.tail n values = some m ↔
      values = [] ∧ n = m ∨
        ∃ cplusplus rest, values = .bool cplusplus :: rest ∧
          ofItems change [] { n with cplusplus } rest = some m :=
    ofItems_optional_eq_some_iff changes flag?_eq_some_iff nofun
  simp [step, Option.exists, ofItems_nil_eq_some_iff]

theorem decode_arr_eq_some_iff {items : List Json} {n : Numbers} :
    format.decode change (.arr items) = some n ↔
      ∃ version cplusplus, Given version cplusplus (.arr items) ∧
        meant version cplusplus = n := by
  constructor
  · intro read
    rcases ofItems_version.mp read with ⟨rfl, rfl⟩ | ⟨version, rest, rfl, later⟩
    · exact ⟨none, none, .list fun _ => rfl, rfl⟩
    · obtain ⟨cplusplus, rfl, rfl⟩ := ofItems_cplusplus.mp later
      exact ⟨some version, cplusplus, .list nofun, rfl⟩
  · intro given
    obtain ⟨version, cplusplus, given, rfl⟩ := given
    generalize value : Json.arr items = j at given
    cases given with
    | object => cases value
    | list early =>
      cases value
      cases version with
      | none =>
        rw [early rfl]
        rfl
      | some version =>
        exact ofItems_version.mpr
          (.inr ⟨version, _, rfl, ofItems_cplusplus.mpr ⟨cplusplus, rfl, rfl⟩⟩)

theorem decode_eq_some_iff {j : Json} {n : Numbers} :
    format.decode change j = some n ↔
      ∃ version cplusplus, Given version cplusplus j ∧ meant version cplusplus = n := by
  cases j with
  | obj members => exact decode_obj_eq_some_iff
  | arr items => exact decode_arr_eq_some_iff
  | _ =>
    constructor
    · intro read
      cases read
    · intro given
      obtain ⟨_, _, ⟨⟩, _⟩ := given

end Numbers

/-- A value configures a language: the numbers that are meant by it are allowed, and the
language has them. -/
def WrittenAs (l : Language) (j : Json) : Prop :=
  ∃ version cplusplus, Numbers.Given version cplusplus j ∧
    ofNumbers (version.getD unstatedVersion) (cplusplus.getD false) = .ok l

theorem ofText_eq_ok_iff {j : Json} {text : String} (h : SpellsDocument j text.toList)
    {l : Language} : ofText text = .ok l ↔ l.WrittenAs j := by
  rw [ofText, mapError_eq_ok_iff, readDocument_eq_ok_iff (decodes_reader Numbers.decodes_fields) h]
  simp only [Numbers.decode_eq_some_iff, mapError_eq_ok_iff]
  constructor
  · intro read
    obtain ⟨n, ⟨version, cplusplus, given, rfl⟩, allowed⟩ := read
    exact ⟨version, cplusplus, given, allowed⟩
  · intro written
    obtain ⟨version, cplusplus, given, allowed⟩ := written
    exact ⟨_, ⟨version, cplusplus, given, rfl⟩, allowed⟩

/-- Whatever stops the reading of a text is reported as an invalid configuration. -/
theorem eq_invalidConfiguration {text : String} {e : Error} (h : ofText text = .error e) :
    ∃ reason, e = .invalidConfiguration reason := by
  obtain ⟨reason, -, rfl⟩ := mapError_eq_error_iff.mp h
  exact ⟨reason, rfl⟩

theorem writtenAs_tree (l : Language) : l.WrittenAs l.tree := by
  refine ⟨some l.nominal, some l.isCplusplus, .object ?_ ?_, l.ofNumbers_nominal⟩ <;>
    simp [valuesAt]

theorem ofText_ownText (l : Language) : ofText l.toText = .ok l := by
  have spelt := SpellsDocument.ends blank_nil
    (spells_render Layout.isBlank_compact 0 l.tree) blank_nil
  rw [List.nil_append, List.append_nil] at spelt
  have document : SpellsDocument l.tree l.toText.toList := by
    rwa [toText, compact, String.toList_ofList]
  exact (ofText_eq_ok_iff document).mpr l.writtenAs_tree

/-! ## Validity -/

/-- The numbers of the five versions. -/
def known : List UInt32 := [100, 110, 120, 200, 300]

theorem number_mem_known (v : Version) : v.number ∈ known := by cases v <;> decide

theorem mem_known_iff {n : UInt32} : n ∈ known ↔ ∃ v, Version.ofNumber? n = some v := by
  constructor
  · intro mem
    have listed : known = Version.all.map Version.number := rfl
    rw [listed] at mem
    obtain ⟨v, -, rfl⟩ := List.mem_map.mp mem
    exact ⟨v, Version.ofNumber?_number v⟩
  · intro found
    obtain ⟨v, found⟩ := found
    exact Version.number_of_ofNumber? found ▸ number_mem_known v

theorem effective_number (l : Language) :
    l.effective.number = if l.isCplusplus then 200 else l.nominal := by
  cases l <;> rfl

theorem cplusplus_or_known (l : Language) : l.isCplusplus = true ∨ l.nominal ∈ known := by
  cases l with
  | c version => exact .inr (number_mem_known version)
  | cplusplus nominal => exact .inl rfl

theorem exists_ofNumbers_iff {n : UInt32} {cplusplus : Bool} :
    (∃ l, ofNumbers n cplusplus = .ok l) ↔ cplusplus = true ∨ n ∈ known := by
  constructor
  · intro allowed
    obtain ⟨l, made⟩ := allowed
    obtain ⟨rfl, rfl⟩ := nominal_of_ofNumbers made
    exact l.cplusplus_or_known
  · intro valid
    rcases valid with rfl | mem
    · exact ⟨.cplusplus n, rfl⟩
    · obtain ⟨v, found⟩ := mem_known_iff.mp mem
      cases cplusplus with
      | true => exact ⟨.cplusplus n, rfl⟩
      | false => exact ⟨.c v, by simp [ofNumbers, found]⟩

/-- Every language is valid, however it was made: it is in C++ mode or names a known version,
its effective version is one of the known ones, and its written form is read as the same
language. There is a language for two numbers exactly if they are valid. A text is read as a
language exactly if its value gives numbers for which there is that language, and is refused
as an invalid configuration otherwise. -/
theorem configuration_exact :
    (∀ l : Language,
      (l.isCplusplus = true ∨ l.nominal ∈ known) ∧
      l.effective.number = (if l.isCplusplus then 200 else l.nominal) ∧
      l.effective.number ∈ known ∧ Version.ofNumber? l.effective.number = some l.effective ∧
      ofText l.toText = .ok l) ∧
    (∀ (n : UInt32) (cplusplus : Bool),
      ((∃ l, ofNumbers n cplusplus = .ok l) ↔ cplusplus = true ∨ n ∈ known) ∧
      ∀ l, ofNumbers n cplusplus = .ok l → l.nominal = n ∧ l.isCplusplus = cplusplus) ∧
    ∀ (j : Json) (text : String), SpellsDocument j text.toList →
      (∀ l, ofText text = .ok l ↔ l.WrittenAs j) ∧
        ((∀ l : Language, ¬ l.WrittenAs j) →
          ∃ reason, ofText text = .error (.invalidConfiguration reason)) := by
  refine ⟨fun l => ?_, fun n cplusplus => ?_, fun j text spelt => ?_⟩
  · exact ⟨l.cplusplus_or_known, l.effective_number, number_mem_known _,
      Version.ofNumber?_number _, l.ofText_ownText⟩
  · exact ⟨exists_ofNumbers_iff, fun l made => nominal_of_ofNumbers made⟩
  · refine ⟨fun l => ofText_eq_ok_iff spelt, fun unwritten => ?_⟩
    cases read : ofText text with
    | ok l => exact absurd ((ofText_eq_ok_iff spelt).mp read) (unwritten l)
    | error e =>
      obtain ⟨reason, rfl⟩ := eq_invalidConfiguration read
      exact ⟨reason, rfl⟩

/-- An object with a key that does not count, and with the flag alone. -/
def flagAlone : Json := .obj [("note", .arr [.null, .int (-1)]), ("opencl_cplusplus", .bool true)]

/-- A list whose version C mode does not know. -/
def unknownListed : Json := .arr [.ofWord 130]

theorem configuration_exact_defaults :
    SpellsDocument flagAlone flagAlone.pretty.toList ∧
      SpellsDocument unknownListed unknownListed.pretty.toList ∧
      ofText flagAlone.pretty = .ok (.cplusplus 100) ∧
      ∃ reason, ofText unknownListed.pretty = .error (.invalidConfiguration reason) := by
  have written : (cplusplus 100).WrittenAs flagAlone := ⟨none, some true, .object rfl rfl, rfl⟩
  have unwritten (l : Language) : ¬ l.WrittenAs unknownListed := by
    intro written
    obtain ⟨version, cplusplus, given, made⟩ := written
    obtain ⟨rfl, rfl⟩ : version = some 130 ∧ cplusplus = none := by
      generalize value : unknownListed = j at given
      cases given with
      | object => cases value
      | list =>
        cases version <;> cases cplusplus <;>
          simp [unknownListed, ofWord, ← UInt32.toNat_inj] at value ⊢
        omega
    cases made
  exact ⟨spellsDocument_pretty _, spellsDocument_pretty _,
    ((configuration_exact.2.2 _ _ (spellsDocument_pretty _)).1 _).mpr written,
    (configuration_exact.2.2 _ _ (spellsDocument_pretty _)).2 unwritten⟩

end OpenCLRegistry.Language
