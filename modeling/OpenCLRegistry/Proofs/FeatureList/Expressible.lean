import OpenCLRegistry.Proofs.FeatureList.Reading
import OpenCLRegistry.Proofs.Registry.Metadata

/-!
# Features that a list can express

A list can give any name that is not empty, has no comma, does not end with a blank and
is not "all". It may begin with a blank or a sign. The names of the catalog are like
that, so features can be written as a list if and only if all their names are, and the
list that writes them name by name reads back against any registry.
-/
namespace OpenCLRegistry

theorem NameMap.insertAll_entries {α : Type} (m : NameMap α) : empty.insertAll m.entries = m := by
  ext1 name
  rw [← overriddenBy, get?_overriddenBy, get?_empty, Option.or_none]

/-- A list can give the name. -/
structure Expressible (name : String) : Prop where
  nonempty : name ≠ ""
  noComma : ',' ∉ name.toList
  last : ∀ c ∈ name.toList.getLast?, Text.isBlank c = false
  notAll : name ≠ "all"

instance (name : String) : Decidable (Expressible name) :=
  haveI : Decidable (∀ c ∈ name.toList.getLast?, Text.isBlank c = false) :=
    Option.decidableForallMem _
  decidable_of_iff
    (name ≠ "" ∧ ',' ∉ name.toList ∧ (∀ c ∈ name.toList.getLast?, Text.isBlank c = false) ∧
      name ≠ "all")
    ⟨fun ⟨nonempty, noComma, last, notAll⟩ => ⟨nonempty, noComma, last, notAll⟩,
      fun ⟨nonempty, noComma, last, notAll⟩ => ⟨nonempty, noComma, last, notAll⟩⟩

theorem expressible_catalog : ∀ row ∈ catalog, Expressible row.name := by decide +kernel

theorem expressible_of_mem_names_initial {name : String} (mem : name ∈ Registry.initial.names) :
    Expressible name := by
  obtain ⟨row, listed, rfl⟩ := Registry.isKnown_initial_iff.mp (NameMap.mem_names_iff.mp mem)
  exact expressible_catalog row listed

namespace TargetFeatures

open FeatureItem Text

/-- The list that gives the names in their order, each with the sign of its value. -/
def written (features : TargetFeatures) : String :=
  ",".intercalate (features.entries.map fun e => String.ofList (sign e.2 :: e.1.toList))

/-! ## Written lists are read back -/

theorem getLast?_sign_cons {name : String} (nonempty : name ≠ "") (value : Bool) :
    (sign value :: name.toList).getLast? = name.toList.getLast? :=
  List.getLast?_cons_of_ne_nil (by simpa using nonempty)

theorem isItem_sign_cons {name : String} (h : Expressible name) (value : Bool) :
    IsItem (sign value :: name.toList) where
  nonempty := List.cons_ne_nil _ _
  noComma := by
    refine List.not_mem_cons_of_ne_of_not_mem ?_ h.noComma
    cases value <;> decide
  trimmed :=
    { head := by
        intro c first
        cases first
        cases value <;> rfl
      last := by
        rw [getLast?_sign_cons h.nonempty]
        exact h.last }

theorem items_written {features : TargetFeatures}
    (h : ∀ name ∈ features.names, Expressible name) :
    items features.written = features.entries.map fun e => sign e.2 :: e.1.toList := by
  have whole : ∀ item ∈ features.entries.map fun e => sign e.2 :: e.1.toList, IsItem item := by
    refine List.forall_mem_map.mpr fun e mem => isItem_sign_cons (h e.1 ?_) e.2
    exact List.mem_map.mpr ⟨e, mem, rfl⟩
  rw [← items_intercalate_ofList whole, List.map_map]
  rfl

/-- Items that name one name each insert one pair each. -/
theorem applyItems_map_sign_cons (known : Registry) {pairs : List (String × Bool)}
    (h : ∀ e ∈ pairs, Expressible e.1) (features : TargetFeatures) :
    applyItems known (pairs.map fun e => sign e.2 :: e.1.toList) features =
      (features.insertAll pairs, none) := by
  induction pairs generalizing features with
  | nil => rfl
  | cons e rest ih =>
    obtain ⟨expressible, others⟩ := List.forall_mem_cons.mp h
    have read : ofText? (sign e.2 :: e.1.toList) = some (.named e.1 e.2) := by
      have nonempty : e.1.toList ≠ [] := by simpa using expressible.nonempty
      have notAll : e.1.toList ≠ "all".toList := fun same =>
        expressible.notAll (String.toList_inj.mp same)
      rw [ofText?_sign_cons, ofName?, if_neg nonempty, if_neg notAll, String.ofList_toList]
    rw [List.map_cons, applyItems, read]
    exact ih others _

theorem ofList_written {features : TargetFeatures}
    (h : ∀ name ∈ features.names, Expressible name) (known : Registry) :
    ofList known features.written = .ok features := by
  have each : ∀ e ∈ features.entries, Expressible e.1 := fun e mem =>
    h e.1 (List.mem_map.mpr ⟨e, mem, rfl⟩)
  have applied : applyList known features.written .empty = (features, none) := by
    rw [applyList, items_written h, applyItems_map_sign_cons known each,
      NameMap.insertAll_entries]
  exact ofList_of_applyList applied

/-! ## Nothing else is read -/

/-- A name gets into the features by an item that gives it or by being known. -/
theorem expressible_of_says {known : Registry} (h : ∀ name ∈ known.names, Expressible name)
    {name : String} {value : Bool} {item : List Char} (about : Says known name value item)
    (isItem : IsItem item) (wellFormed : ¬ Malformed item) : Expressible name := by
  rcases about with ⟨rfl, notAll⟩ | ⟨-, here⟩
  · have nonempty : name ≠ "" := by
      rintro rfl
      obtain ⟨_, text, nonempty, split⟩ := exists_sign_of_not_malformed wellFormed
      exact nonempty (List.cons_eq_cons.mp split).2.symm
    refine ⟨nonempty, fun comma => isItem.noComma (List.mem_cons_of_mem _ comma), ?_, notAll⟩
    rw [← getLast?_sign_cons nonempty value]
    exact isItem.trimmed.last
  · exact h name (NameMap.mem_names_iff.mpr here)

theorem expressible_of_ofList {known : Registry} (h : ∀ name ∈ known.names, Expressible name)
    {list : String} {features : TargetFeatures} (read : ofList known list = .ok features)
    {name : String} (mem : name ∈ features.names) : Expressible name := by
  have wellFormed := (exists_ofList_iff known).mp ⟨features, read⟩
  obtain ⟨value, here⟩ := Option.isSome_iff_exists.mp (NameMap.mem_names_iff.mp mem)
  rw [get?_ofList read] at here
  obtain ⟨item, listed, said⟩ := List.exists_of_findSome?_eq_some here
  have listed : item ∈ items list := List.mem_reverse.mp listed
  have about := (said?_eq_some_iff (wellFormed item listed)).mp said
  exact expressible_of_says h about (isItem_of_mem_items listed) (wellFormed item listed)

/-- A list says exactly these features, to the initial registry, for some list if and only if
every name is one that a list can give. The list that writes them name by name says so to every
registry. -/
theorem exists_list_iff_expressible (features : TargetFeatures) :
    ((∃ list, ofList .initial list = .ok features) ↔
      ∀ name ∈ features.names, Expressible name) ∧
    ((∀ name ∈ features.names, Expressible name) → ∀ known,
      ofList known features.written = .ok features) := by
  refine ⟨⟨fun ⟨list, read⟩ name mem => ?_, fun h => ?_⟩, ofList_written⟩
  · exact expressible_of_ofList (fun _ => expressible_of_mem_names_initial) read mem
  · exact ⟨features.written, ofList_written h .initial⟩

/-- Names with a blank in front, with a sign of their own and with "all" in them. -/
def oddNames : TargetFeatures := .ofPairs [("+y", false), (" x", true), ("all-in", true)]

theorem exists_list_iff_expressible_oddNames :
    (∀ name ∈ oddNames.names, Expressible name) ∧
      oddNames.written = "+ x,-+y,+all-in" ∧
      ofList .initial oddNames.written = .ok oddNames ∧
      ¬ ∃ list, ofList .initial list = .ok (.ofPairs [("x ", true)]) := by
  have odd : ∀ name ∈ oddNames.names, Expressible name := by decide +kernel
  refine ⟨odd, by decide +kernel, (exists_list_iff_expressible oddNames).2 odd .initial, ?_⟩
  rw [(exists_list_iff_expressible _).1]
  decide +kernel

end TargetFeatures

end OpenCLRegistry
