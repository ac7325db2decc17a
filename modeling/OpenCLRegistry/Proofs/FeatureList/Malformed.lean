import OpenCLRegistry.FeatureList
import Mathlib.Tactic.SplitIfs

/-!
# Malformed items

An item of a feature list is a sign with a name after it, and anything else is
malformed. A list is refused if it has a malformed item, and then for the first
one. Which names are known does not matter to this.
-/
namespace OpenCLRegistry

/-- An element with a property, before which the list has no such element. -/
def IsFirst {α : Type} (p : α → Prop) (xs : List α) (x : α) : Prop :=
  p x ∧ ∃ before after, xs = before ++ x :: after ∧ ∀ y ∈ before, ¬ p y

section First

variable {α : Type} {p : α → Prop}

theorem not_isFirst_nil (x : α) : ¬ IsFirst p [] x := by
  rintro ⟨-, before, after, split, -⟩
  cases before <;> cases split

theorem isFirst_cons_iff {x y : α} {xs : List α} :
    IsFirst p (y :: xs) x ↔ p y ∧ y = x ∨ ¬ p y ∧ IsFirst p xs x := by
  constructor
  · rintro ⟨here, before, after, split, none⟩
    cases before with
    | nil =>
      cases split
      exact .inl ⟨here, rfl⟩
    | cons z before =>
      cases split
      exact .inr ⟨none _ List.mem_cons_self, here, before, after, rfl,
        fun z mem => none z (List.mem_cons_of_mem _ mem)⟩
  · rintro (⟨here, rfl⟩ | ⟨other, here, before, after, rfl, none⟩)
    · exact ⟨here, [], xs, rfl, fun _ mem => nomatch mem⟩
    · exact ⟨here, y :: before, after, rfl, List.forall_mem_cons.mpr ⟨other, none⟩⟩

/-- If a list has such an element, it has a first one. -/
theorem exists_isFirst_iff {xs : List α} : (∃ x, IsFirst p xs x) ↔ ∃ x ∈ xs, p x := by
  induction xs with
  | nil => simp [not_isFirst_nil]
  | cons y xs ih =>
    by_cases here : p y <;> simp [isFirst_cons_iff, here, ih]

end First

namespace FeatureItem

/-- The text is no sign with a name after it. -/
def Malformed (item : List Char) : Prop :=
  ¬ ∃ sign name, (sign = '+' ∨ sign = '-') ∧ name ≠ [] ∧ item = sign :: name

theorem ofName?_eq_none_iff (value : Bool) (name : List Char) :
    ofName? value name = none ↔ name = [] := by
  unfold ofName?
  split_ifs with blank all <;> simp [blank]

theorem ofText?_eq_none_iff (item : List Char) : ofText? item = none ↔ Malformed item := by
  unfold ofText?
  split
  · rename_i name
    simp [ofName?_eq_none_iff, Malformed]
  · rename_i name
    simp [ofName?_eq_none_iff, Malformed]
  · rename_i noPlus noMinus
    refine iff_of_true rfl ?_
    rintro ⟨sign, name, rfl | rfl, -, rfl⟩
    · exact noPlus name rfl
    · exact noMinus name rfl

end FeatureItem

namespace TargetFeatures

theorem applyItems_eq_some_iff {known : Registry} {items : List (List Char)}
    {features : TargetFeatures} {e : Error} :
    (applyItems known items features).2 = some e ↔
      ∃ item, IsFirst FeatureItem.Malformed items item ∧
        e = .invalidFeature (String.ofList item) := by
  induction items generalizing features with
  | nil => simp [applyItems, not_isFirst_nil]
  | cons item rest ih =>
    rw [applyItems]
    cases read : FeatureItem.ofText? item with
    | none =>
      have malformed := (FeatureItem.ofText?_eq_none_iff item).mp read
      simp [isFirst_cons_iff, malformed, eq_comm]
    | some i =>
      have wellFormed : ¬ FeatureItem.Malformed item := by
        rw [← FeatureItem.ofText?_eq_none_iff, read]
        simp
      simp [isFirst_cons_iff, wellFormed, ih]

/-- A list is refused for its first malformed item. -/
theorem ofList_eq_error_iff {known : Registry} {list : String} {e : Error} :
    ofList known list = .error e ↔
      ∃ item, IsFirst FeatureItem.Malformed (items list) item ∧
        e = .invalidFeature (String.ofList item) := by
  rw [← @applyItems_eq_some_iff known _ .empty, ofList, applyList]
  split
  · rename_i features applied
    simp [applied]
  · rename_i features e' applied
    simp [applied]

theorem exists_ofList_iff (known : Registry) {list : String} :
    (∃ features, ofList known list = .ok features) ↔
      ∀ item ∈ items list, ¬ FeatureItem.Malformed item := by
  have refused : (∃ e, ofList known list = .error e) ↔
      ∃ item ∈ items list, FeatureItem.Malformed item := by
    rw [← exists_isFirst_iff]
    simp only [ofList_eq_error_iff]
    exact ⟨fun ⟨_, item, first, _⟩ => ⟨item, first⟩, fun ⟨item, first⟩ => ⟨_, item, first, rfl⟩⟩
  have accepted : (∃ features, ofList known list = .ok features) ↔
      ¬ ∃ e, ofList known list = .error e := by
    cases ofList known list <;> simp
  rw [accepted, refused]
  simp

end TargetFeatures

end OpenCLRegistry
