import OpenCLRegistry.Proofs.FeatureList.Joining
import Mathlib.Data.List.TakeWhile

/-!
# The items of a feature list

Trimming leaves a text that neither begins nor ends with a blank. An item is such a
text, it is not empty and has no comma, and any texts like that are the items of the
list that joins them by commas. Blanks around a whole list change none of its items.
-/
namespace OpenCLRegistry

namespace Text

/-- The text consists of blanks. -/
def AllBlank (s : List Char) : Prop := ∀ c ∈ s, isBlank c = true

instance (s : List Char) : Decidable (AllBlank s) := List.decidableBAll (isBlank · = true) s

/-- The text neither begins nor ends with a blank. -/
structure Trimmed (s : List Char) : Prop where
  head : ∀ c ∈ s.head?, isBlank c = false
  last : ∀ c ∈ s.getLast?, isBlank c = false

theorem head_dropWhile_isBlank {s : List Char} {c : Char}
    (first : c ∈ (s.dropWhile isBlank).head?) : isBlank c = false := by
  have := List.head?_dropWhile_not isBlank s
  rw [Option.mem_def.mp first] at this
  simpa using this

theorem dropWhile_isBlank_of_head {s : List Char}
    (head : ∀ c ∈ s.head?, isBlank c = false) : s.dropWhile isBlank = s := by
  cases s with
  | nil => rfl
  | cons c s => exact List.dropWhile_cons_of_neg (by simp [head c rfl])

theorem trimmed_trim (s : List Char) : Trimmed (trim s) where
  head c first := by
    obtain ⟨back, split⟩ : trim s <+: s.dropWhile isBlank := by
      rw [trim, dropBlanksEnd, ← List.reverse_suffix, List.reverse_reverse]
      exact List.dropWhile_suffix _
    have opens : (trim s ++ back).head? = some c := by
      rw [List.head?_append, Option.mem_def.mp first, Option.some_or]
    rw [split] at opens
    exact head_dropWhile_isBlank opens
  last c final := by
    rw [trim, dropBlanksEnd, List.getLast?_reverse] at final
    exact head_dropWhile_isBlank final

theorem Trimmed.trim_eq {s : List Char} (h : Trimmed s) : trim s = s := by
  have reversed : ∀ c ∈ s.reverse.head?, isBlank c = false := by
    simpa only [List.head?_reverse] using h.last
  rw [trim, dropWhile_isBlank_of_head h.head, dropBlanksEnd, dropWhile_isBlank_of_head reversed,
    List.reverse_reverse]

theorem trim_sublist (s : List Char) : (trim s).Sublist s := by
  have dropped : (dropBlanksEnd (s.dropWhile isBlank)).Sublist (s.dropWhile isBlank) := by
    rw [dropBlanksEnd, ← List.reverse_sublist, List.reverse_reverse]
    exact List.dropWhile_sublist _
  exact dropped.trans (List.dropWhile_sublist _)

theorem trim_blank_append {front : List Char} (blank : AllBlank front) (s : List Char) :
    trim (front ++ s) = trim s := by
  rw [trim, List.dropWhile_append_of_pos blank, trim]

theorem trim_append_blank {back : List Char} (blank : AllBlank back) (s : List Char) :
    trim (s ++ back) = trim s := by
  have reversed : ∀ c ∈ back.reverse, isBlank c = true :=
    fun c mem => blank c (List.mem_reverse.mp mem)
  rw [trim, trim, List.dropWhile_append]
  split_ifs with none
  · rw [List.dropWhile_eq_nil_iff.mpr blank, List.isEmpty_iff.mp none]
  · rw [dropBlanksEnd, List.reverse_append, List.dropWhile_append_of_pos reversed, dropBlanksEnd]

end Text

namespace TargetFeatures

open Text

/-- What an item of a list may be. -/
structure IsItem (item : List Char) : Prop where
  nonempty : item ≠ []
  noComma : ',' ∉ item
  trimmed : Trimmed item

theorem comma_not_mem_of_mem_splitOn {s piece : List Char} (mem : piece ∈ s.splitOn ',') :
    ',' ∉ piece := by
  induction s generalizing piece with
  | nil => simp_all
  | cons c s ih =>
    rw [List.splitOn_cons_eq_if_modifyHead] at mem
    obtain ⟨first, rest, split⟩ := List.exists_cons_of_ne_nil (List.splitOn_ne_nil ',' s)
    rw [split] at ih mem
    split_ifs at mem with comma
    · rcases List.mem_cons.mp mem with rfl | mem
      · exact List.not_mem_nil
      · exact ih mem
    · rw [List.modifyHead_cons] at mem
      rcases List.mem_cons.mp mem with rfl | mem
      · have apart : ',' ≠ c := fun same => comma (beq_iff_eq.mpr same.symm)
        exact List.not_mem_cons_of_ne_of_not_mem apart (ih List.mem_cons_self)
      · exact ih (List.mem_cons_of_mem _ mem)

theorem isItem_of_mem_items {list : String} {item : List Char} (mem : item ∈ items list) :
    IsItem item := by
  obtain ⟨mem, nonempty⟩ := List.mem_filter.mp mem
  obtain ⟨piece, cut, rfl⟩ := List.mem_map.mp mem
  refine ⟨by simpa using nonempty, fun comma => ?_, trimmed_trim piece⟩
  exact comma_not_mem_of_mem_splitOn cut ((trim_sublist piece).mem comma)

theorem items_of_noComma {list : String} (noComma : ',' ∉ list.toList) :
    items list = [trim list.toList].filter fun item => !item.isEmpty := by
  rw [items, List.splitOn_eq_singleton noComma, List.map_singleton]

theorem IsItem.items_eq {list : String} (h : IsItem list.toList) : items list = [list.toList] := by
  rw [items_of_noComma h.noComma, h.trimmed.trim_eq]
  exact List.filter_cons_of_pos (by simp [h.nonempty])

theorem items_intercalate_ofList {all : List (List Char)} (h : ∀ item ∈ all, IsItem item) :
    items (",".intercalate (all.map String.ofList)) = all := by
  induction all with
  | nil => simp
  | cons item rest ih =>
    obtain ⟨isItem, others⟩ := List.forall_mem_cons.mp h
    have first : items (String.ofList item) = [item] := by
      rw [← String.toList_ofList (l := item)] at isItem
      rw [isItem.items_eq, String.toList_ofList]
    rw [List.map_cons, items_intercalate_cons, first, ih others]
    rfl

theorem comma_not_mem_of_allBlank {s : List Char} (blank : AllBlank s) : ',' ∉ s :=
  fun mem => by cases blank ',' mem

/-- A list with a comma in it is two lists joined, the first of them without a comma. -/
theorem exists_first_comma {list : String} (comma : ',' ∈ list.toList) :
    ∃ first rest : String, ',' ∉ first.toList ∧ list = first ++ "," ++ rest := by
  obtain ⟨first, rest, split, noComma⟩ := List.eq_append_cons_of_mem comma
  refine ⟨.ofList first, .ofList rest, by simpa using noComma, String.toList_inj.mp ?_⟩
  simp [split]

theorem exists_last_comma {list : String} (comma : ',' ∈ list.toList) :
    ∃ rest last : String, ',' ∉ last.toList ∧ list = rest ++ "," ++ last := by
  obtain ⟨last, rest, split, noComma⟩ := List.eq_append_cons_of_mem (List.mem_reverse.mpr comma)
  refine ⟨.ofList rest.reverse, .ofList last.reverse, by simpa using noComma,
    String.toList_inj.mp ?_⟩
  simpa using congrArg List.reverse split

theorem items_congr_of_trim {list other : String} (noComma : ',' ∉ list.toList)
    (noComma' : ',' ∉ other.toList) (same : trim list.toList = trim other.toList) :
    items list = items other := by
  rw [items_of_noComma noComma, items_of_noComma noComma', same]

theorem items_blank_append {front : String} (blank : AllBlank front.toList) (list : String) :
    items (front ++ list) = items list := by
  have single : ∀ first : String, ',' ∉ first.toList → items (front ++ first) = items first := by
    intro first noComma
    refine items_congr_of_trim ?_ noComma ?_
    · simpa using ⟨comma_not_mem_of_allBlank blank, noComma⟩
    · rw [String.toList_append, trim_blank_append blank]
  by_cases comma : ',' ∈ list.toList
  · obtain ⟨first, rest, noComma, rfl⟩ := exists_first_comma comma
    rw [← String.append_assoc, ← String.append_assoc, items_append, items_append,
      single first noComma]
  · exact single list comma

theorem items_append_blank {back : String} (blank : AllBlank back.toList) (list : String) :
    items (list ++ back) = items list := by
  have single : ∀ last : String, ',' ∉ last.toList → items (last ++ back) = items last := by
    intro last noComma
    refine items_congr_of_trim ?_ noComma ?_
    · simpa using ⟨noComma, comma_not_mem_of_allBlank blank⟩
    · rw [String.toList_append, trim_append_blank blank]
  by_cases comma : ',' ∈ list.toList
  · obtain ⟨rest, last, noComma, rfl⟩ := exists_last_comma comma
    rw [String.append_assoc, items_append, items_append, single last noComma]
  · exact single list comma

end TargetFeatures

end OpenCLRegistry
