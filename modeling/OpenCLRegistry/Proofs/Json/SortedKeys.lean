import OpenCLRegistry.Proofs.Json.KeyOrder
import OpenCLRegistry.Proofs.Lookup

/-!
# Sorted keys

Sorting the keys of every object keeps the value under a key that occurs once, up
to the order of the keys within it, and of a key that occurs more than once it
keeps the last value. So a value that presents its fields still does so when its
keys have been sorted.
-/
namespace OpenCLRegistry

namespace Json

theorem ascendingKeysItems_eq_map (items : List Json) :
    ascendingKeysItems items = items.map ascendingKeys := by
  induction items with
  | nil => rfl
  | cons item rest ih => rw [ascendingKeysItems, ih, List.map_cons]

theorem ascendingKeysMembers_eq_map (members : List (String × Json)) :
    ascendingKeysMembers members = members.map fun e => (e.1, e.2.ascendingKeys) := by
  induction members with
  | nil => rfl
  | cons member rest ih => rw [ascendingKeysMembers, ih, List.map_cons]

theorem valuesAt_map (f : Json → Json) (key : String) (members : List (String × Json)) :
    valuesAt key (members.map fun e => (e.1, f e.2)) = (valuesAt key members).map f := by
  simp only [valuesAt, List.filter_map, List.map_map]
  rfl

theorem filter_beq_eq (key : String) (members : List (String × Json)) :
    members.filter (·.1 == key) = members.filter fun e => e.1 = key :=
  List.filter_congr fun e _ => beq_eq_decide e.1 key

/-- A map gives under a key what was inserted last. -/
theorem valuesAt_ofPairs (key : String) (members : List (String × Json)) :
    valuesAt key (NameMap.ofPairs members).entries = (valuesAt key members).getLast?.toList := by
  have found : NameMap.lookup key (NameMap.ofPairs members).entries =
      (valuesAt key members).getLast? := by
    rw [valuesAt, List.getLast?_map, filter_beq_eq]
    exact NameMap.get?_ofPairs members key
  have single := NameMap.filter_eq_lookup (NameMap.ofPairs members).ascending key
  rw [found] at single
  rw [valuesAt, filter_beq_eq, single]
  cases (valuesAt key members).getLast? <;> rfl

theorem Presents.sorted {keys : List String} {values : List Json} {j : Json}
    (h : Presents keys values j) : Presents keys (values.map ascendingKeys) j.ascendingKeys := by
  cases h with
  | list =>
    rw [ascendingKeys, ascendingKeysItems_eq_map]
    exact .list
  | object present =>
    rw [ascendingKeys, ascendingKeysMembers_eq_map]
    refine .object (List.forall₂_map_right_iff.mpr (present.imp fun key value once => ?_))
    rw [valuesAt_ofPairs, valuesAt_map, once]
    rfl

end Json

end OpenCLRegistry
