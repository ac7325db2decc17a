import OpenCLRegistry.Proofs.Json.Records
import Mathlib.Data.List.Forall2

/-!
# The order of keys

An object gives the same record in every order of its keys, provided that fields
with different keys change different things. A field takes the one value that
the object holds under its key; more than one value is refused, and none is
refused as well if the field is required. What a format makes of an object is
therefore said field by field, without the order of the members.
-/
namespace OpenCLRegistry.Json

/-- The values that an object holds under a key, in their order. -/
def valuesAt (key : String) (members : List (String × Json)) : List Json :=
  (members.filter (·.1 == key)).map (·.2)

theorem valuesAt_cons_self (key : String) (j : Json) (rest : List (String × Json)) :
    valuesAt key ((key, j) :: rest) = j :: valuesAt key rest := by
  simp [valuesAt]

theorem valuesAt_cons_of_ne {key other : String} (ne : key ≠ other) (j : Json)
    (rest : List (String × Json)) :
    valuesAt key ((other, j) :: rest) = valuesAt key rest := by
  rw [valuesAt, List.filter_cons_of_neg (by simpa using ne.symm)]
  rfl

namespace RecordFormat

variable {σ : Type}

/-- Changes by different fields can be exchanged. -/
def Changes.Commute (change : Changes σ) : Prop :=
  ∀ ⦃key other : String⦄, key ≠ other → ∀ ⦃j i : Json⦄ ⦃f g : σ → σ⦄,
    change key j = some f → change other i = some g → ∀ record, f (g record) = g (f record)

variable (change : Changes σ)

/-- What a field takes from the members of an object. -/
def take (members : List (String × Json)) (record : σ) (field : Field σ) : Option σ :=
  match valuesAt field.key members with
  | [] => if field.required then none else some record
  | [j] => (change field.key j).map (· record)
  | _ :: _ :: _ => none

/-- What a field takes from the members that are left, if some keys have come before. -/
def takeUnseen (seen : List String) (members : List (String × Json)) (record : σ)
    (field : Field σ) : Option σ :=
  if seen.contains field.key then
    if valuesAt field.key members = [] then some record else none
  else take change members record field

variable {change} {seen : List String} {key : String} {j : Json} {rest : List (String × Json)}
variable {record : σ} {field : Field σ}

theorem takeUnseen_other (ne : field.key ≠ key) :
    takeUnseen change seen ((key, j) :: rest) record field =
      takeUnseen change seen rest record field := by
  rw [takeUnseen, takeUnseen, take, take, valuesAt_cons_of_ne ne]

theorem takeUnseen_cons_seen (ne : field.key ≠ key) :
    takeUnseen change (key :: seen) rest record field =
      takeUnseen change seen rest record field := by
  have same : (key :: seen).contains field.key = seen.contains field.key := by
    rw [List.contains_cons, beq_eq_false_iff_ne.mpr ne, Bool.false_or]
  rw [takeUnseen, takeUnseen, same]

theorem takeUnseen_again (again : seen.contains field.key = true) :
    takeUnseen change seen ((field.key, j) :: rest) record field = none := by
  rw [takeUnseen, if_pos again, valuesAt_cons_self]
  rfl

theorem takeUnseen_first (new : ¬ seen.contains field.key = true) :
    takeUnseen change seen ((field.key, j) :: rest) record field =
      (change field.key j).bind fun f =>
        takeUnseen change (field.key :: seen) rest (f record) field := by
  have known : (field.key :: seen).contains field.key = true := by simp
  rw [takeUnseen, if_neg new, take, valuesAt_cons_self]
  simp only [takeUnseen, known, if_true]
  cases valuesAt field.key rest with
  | nil =>
    dsimp only
    rw [Option.map_eq_bind]
    rfl
  | cons i more => cases change field.key j <;> rfl

theorem takeUnseen_nil :
    takeUnseen change seen [] record field =
      if field.required && !seen.contains field.key then none else some record := by
  have empty : valuesAt field.key [] = [] := rfl
  rw [takeUnseen, take, empty]
  cases seen.contains field.key <;> cases field.required <;> rfl

/-- A change by one field does not alter what another field takes. -/
theorem takeUnseen_change (commute : change.Commute) (ne : field.key ≠ key) {f : σ → σ}
    (value : change key j = some f) :
    takeUnseen change seen rest (f record) field =
      (takeUnseen change seen rest record field).map f := by
  unfold takeUnseen take
  split
  · split <;> rfl
  · split
    · split <;> rfl
    · rename_i i _
      cases other : change field.key i with
      | none => rfl
      | some g => exact congrArg some (commute ne other value record)
    · rfl

section
variable {fields : List (Field σ)}

theorem foldlM_nil :
    fields.foldlM (takeUnseen change seen []) record =
      if fields.any fun field => field.required && !seen.contains field.key then none
      else some record := by
  induction fields generalizing record with
  | nil => rfl
  | cons field fields ih =>
    rw [List.foldlM_cons, takeUnseen_nil, List.any_cons]
    cases field.required && !seen.contains field.key with
    | true => rfl
    | false => exact ih

theorem foldlM_unknown (unknown : key ∉ fields.map (·.key)) :
    fields.foldlM (takeUnseen change seen ((key, j) :: rest)) record =
      fields.foldlM (takeUnseen change seen rest) record := by
  induction fields generalizing record with
  | nil => rfl
  | cons field fields ih =>
    rw [List.map_cons, List.mem_cons, not_or] at unknown
    rw [List.foldlM_cons, List.foldlM_cons, takeUnseen_other (Ne.symm unknown.1)]
    exact bind_congr fun record => ih unknown.2

theorem foldlM_cons_seen (unknown : key ∉ fields.map (·.key)) :
    fields.foldlM (takeUnseen change (key :: seen) rest) record =
      fields.foldlM (takeUnseen change seen rest) record := by
  induction fields generalizing record with
  | nil => rfl
  | cons field fields ih =>
    rw [List.map_cons, List.mem_cons, not_or] at unknown
    rw [List.foldlM_cons, List.foldlM_cons, takeUnseen_cons_seen (Ne.symm unknown.1)]
    exact bind_congr fun record => ih unknown.2

theorem foldlM_again (known : key ∈ fields.map (·.key)) (again : seen.contains key = true) :
    fields.foldlM (takeUnseen change seen ((key, j) :: rest)) record = none := by
  induction fields generalizing record with
  | nil => cases known
  | cons field fields ih =>
    rw [List.foldlM_cons]
    by_cases same : field.key = key
    · subst same
      rw [takeUnseen_again again]
      rfl
    · rw [List.map_cons, List.mem_cons] at known
      have later := known.resolve_left (Ne.symm same)
      cases takeUnseen change seen ((key, j) :: rest) record field with
      | none => rfl
      | some record => exact ih later

/-- A member of a field acts as if its field came first. -/
theorem foldlM_first (commute : change.Commute) (distinct : (fields.map (·.key)).Nodup)
    (known : key ∈ fields.map (·.key)) (new : ¬ seen.contains key = true) :
    fields.foldlM (takeUnseen change seen ((key, j) :: rest)) record =
      (change key j).bind fun f =>
        fields.foldlM (takeUnseen change (key :: seen) rest) (f record) := by
  induction fields generalizing record with
  | nil => cases known
  | cons field fields ih =>
    rw [List.map_cons, List.nodup_cons] at distinct
    rw [List.foldlM_cons]
    by_cases same : field.key = key
    · subst same
      rw [takeUnseen_first new]
      cases change field.key j with
      | none => rfl
      | some f =>
        rw [Option.bind_some, Option.bind_some, List.foldlM_cons]
        refine bind_congr fun record => ?_
        rw [foldlM_unknown distinct.1, foldlM_cons_seen distinct.1]
    · -- Another field comes first: it takes nothing from this member, and what it does
      -- take can be exchanged with the member's change.
      rw [List.map_cons, List.mem_cons] at known
      have later := known.resolve_left (Ne.symm same)
      rw [takeUnseen_other same]
      cases value : change key j with
      | none =>
        cases takeUnseen change seen rest record field with
        | none => rfl
        | some record => exact (ih distinct.2 later).trans (by rw [value]; rfl)
      | some f =>
        rw [Option.bind_some, List.foldlM_cons, takeUnseen_cons_seen same,
          takeUnseen_change commute same value]
        cases takeUnseen change seen rest record field with
        | none => rfl
        | some record => exact (ih distinct.2 later).trans (by rw [value]; rfl)

end

variable {format : RecordFormat σ}

theorem ofMembers_eq_foldlM (commute : change.Commute)
    (distinct : (format.fields.map (·.key)).Nodup) (members : List (String × Json))
    (seen : List String) (record : σ) :
    format.ofMembers change seen record members =
      format.fields.foldlM (takeUnseen change seen members) record := by
  induction members generalizing seen record with
  | nil => exact foldlM_nil.symm
  | cons member rest ih =>
    obtain ⟨key, j⟩ := member
    have isField : format.fields.any (·.key == key) = true ↔ key ∈ format.fields.map (·.key) := by
      simp
    rw [ofMembers]
    by_cases known : format.fields.any (·.key == key) = true
    · rw [if_pos known]
      by_cases again : seen.contains key = true
      · rw [if_pos again, foldlM_again (isField.mp known) again]
      · rw [if_neg again, foldlM_first commute distinct (isField.mp known) again]
        simp only [ih]
    · rw [if_neg known, ih, foldlM_unknown (fun mem => known (isField.mpr mem))]

/-- What a format makes of an object, field by field. -/
theorem decode_obj (commute : change.Commute) (distinct : (format.fields.map (·.key)).Nodup)
    (members : List (String × Json)) :
    format.decode change (.obj members) = format.fields.foldlM (take change members) format.start :=
  ofMembers_eq_foldlM commute distinct members [] format.start

/-! ## Required fields -/

section
variable {fields : List (Field σ)} {result : σ} {members : List (String × Json)}

theorem ofItems_nil_eq_some_iff {values : List Json} :
    ofItems change [] record values = some result ↔ values = [] ∧ record = result := by
  cases values <;> simp [ofItems]

theorem ofItems_cons_eq_some_iff {values : List Json} (required : field.required = true) :
    ofItems change (field :: fields) record values = some result ↔
      ∃ j rest f, values = j :: rest ∧ change field.key j = some f ∧
        ofItems change fields (f record) rest = some result := by
  cases values with
  | nil => simp [ofItems, required]
  | cons j rest => simp [ofItems, Option.bind_eq_some_iff]

/-- A required field whose value stands for one part of the record. -/
theorem ofItems_part_eq_some_iff {α : Type} {part? : Json → Option α} {Written : α → Json → Prop}
    {set : α → σ → σ} {values : List Json} (changes : change field.key = fun j => (part? j).map set)
    (exact : ∀ {j a}, part? j = some a ↔ Written a j) (required : field.required = true) :
    ofItems change (field :: fields) record values = some result ↔
      ∃ a j rest, values = j :: rest ∧ Written a j ∧
        ofItems change fields (set a record) rest = some result := by
  rw [ofItems_cons_eq_some_iff required]
  constructor
  · intro given
    obtain ⟨j, rest, f, rfl, value, read⟩ := given
    rw [changes] at value
    obtain ⟨a, part, rfl⟩ := Option.map_eq_some_iff.mp value
    exact ⟨a, j, rest, rfl, exact.mp part, read⟩
  · intro given
    obtain ⟨a, j, rest, rfl, written, read⟩ := given
    refine ⟨j, rest, set a, rfl, ?_, read⟩
    rw [changes]
    exact Option.map_eq_some_iff.mpr ⟨a, exact.mpr written, rfl⟩

theorem take_eq_some_iff (required : field.required = true) :
    take change members record field = some result ↔
      ∃ j f, valuesAt field.key members = [j] ∧ change field.key j = some f ∧
        f record = result := by
  rw [take]
  split
  · rename_i absent
    simp [absent, required]
  · rename_i j one
    simp [one, Option.map_eq_some_iff]
  · rename_i i j more many
    simp [many]

theorem foldlM_take_eq_some_iff (required : ∀ field ∈ fields, field.required = true) :
    fields.foldlM (take change members) record = some result ↔
      ∃ values, List.Forall₂ (fun key value => valuesAt key members = [value])
        (fields.map (·.key)) values ∧ ofItems change fields record values = some result := by
  induction fields generalizing record with
  | nil => simp [ofItems_nil_eq_some_iff]
  | cons field fields ih =>
    have first := required field List.mem_cons_self
    have others := fun field mem => required field (List.mem_cons_of_mem _ mem)
    rw [List.foldlM_cons, Option.bind_eq_bind, Option.bind_eq_some_iff]
    constructor
    · intro given
      obtain ⟨next, taken, later⟩ := given
      obtain ⟨j, f, one, value, rfl⟩ := (take_eq_some_iff first).mp taken
      obtain ⟨values, present, read⟩ := (ih others).mp later
      exact ⟨j :: values, .cons one present,
        (ofItems_cons_eq_some_iff first).mpr ⟨j, values, f, rfl, value, read⟩⟩
    · intro given
      obtain ⟨values, present, read⟩ := given
      obtain ⟨j, rest, f, rfl, value, read⟩ := (ofItems_cons_eq_some_iff first).mp read
      obtain ⟨one, present⟩ := List.forall₂_cons.mp present
      exact ⟨f record, (take_eq_some_iff first).mpr ⟨j, f, one, value, rfl⟩,
        (ih others).mpr ⟨rest, present, read⟩⟩

end

/-! ## Optional fields -/

section
variable {fields : List (Field σ)} {result : σ} {members : List (String × Json)}
variable {α : Type} {part? : Json → Option α} {write : α → Json} {set : α → σ → σ}

/-- An optional field takes one part of the record, or leaves the record as it is. -/
theorem take_optional_eq_some_iff (changes : change field.key = fun j => (part? j).map set)
    (exact : ∀ {j a}, part? j = some a ↔ j = write a) (optional : field.required = false) :
    take change members record field = some result ↔
      ∃ a? : Option α, valuesAt field.key members = (a?.map write).toList ∧
        a?.elim record (set · record) = result := by
  rw [take]
  split
  · rename_i absent
    rw [absent]
    simp [optional]
  · rename_i j one
    rw [one]
    simp [Option.exists, changes, Option.map_eq_some_iff, exact]
  · rename_i i j more many
    rw [many]
    simp [Option.exists]

/-- A list may end before an optional field. -/
theorem ofItems_optional_eq_some_iff {reader : Reader (σ → σ)} {values : List Json}
    (changes : change key = fun j => (part? j).map set)
    (exact : ∀ {j a}, part? j = some a ↔ j = write a)
    (optional : ∀ other ∈ fields, other.required = false) :
    ofItems change (⟨key, false, reader⟩ :: fields) record values = some result ↔
      values = [] ∧ record = result ∨
        ∃ a rest, values = write a :: rest ∧
          ofItems change fields (set a record) rest = some result := by
  cases values with
  | nil =>
    have missing : fields.any (·.required) = false := by simpa using optional
    simp [ofItems, missing]
  | cons j rest => simp [ofItems, changes, Option.bind_eq_some_iff, Option.map_eq_some_iff, exact]

end

end RecordFormat

/-- A value that gives each key exactly one value: a list of the values, or an object that
holds each of the keys once, whatever else it holds. -/
inductive Presents (keys : List String) (values : List Json) : Json → Prop
  | list : Presents keys values (.arr values)
  | object {members : List (String × Json)} :
      List.Forall₂ (fun key value => valuesAt key members = [value]) keys values →
      Presents keys values (.obj members)

/-- A format all of whose fields are required reads the values that are presented. -/
theorem RecordFormat.decode_eq_some_iff {σ : Type} {format : RecordFormat σ} {change : Changes σ}
    (commute : change.Commute) (distinct : (format.fields.map (·.key)).Nodup)
    (required : ∀ field ∈ format.fields, field.required = true) {j : Json} {record : σ} :
    format.decode change j = some record ↔
      ∃ values, Presents (format.fields.map (·.key)) values j ∧
        ofItems change format.fields format.start values = some record := by
  cases j with
  | arr items =>
    constructor
    · intro read
      exact ⟨items, .list, read⟩
    · intro given
      obtain ⟨_, ⟨⟩, read⟩ := given
      exact read
  | obj members =>
    rw [decode_obj commute distinct, foldlM_take_eq_some_iff required]
    constructor
    · intro given
      obtain ⟨values, present, read⟩ := given
      exact ⟨values, .object present, read⟩
    · intro given
      obtain ⟨values, presents, read⟩ := given
      cases presents with
      | object present => exact ⟨values, present, read⟩
  | _ =>
    constructor
    · intro read
      cases read
    · intro given
      obtain ⟨_, ⟨⟩, _⟩ := given

end OpenCLRegistry.Json
