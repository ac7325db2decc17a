import OpenCLRegistry.FeatureList
import OpenCLRegistry.Proofs.Lookup

/-!
# Feature lists joined by commas

A joined list has the items of its parts, one part after the other. Reading it is
therefore reading the parts, each of which overrides what the ones before it have
said, and it fails where the first of them fails. Of the registry only the known
names enter into this, so the parts may be read against different registries as
long as these know the same names.
-/
namespace OpenCLRegistry

theorem FeatureItem.apply_overriddenBy (known : Registry) (base top : TargetFeatures)
    (item : FeatureItem) :
    item.apply known (base.overriddenBy top) = base.overriddenBy (item.apply known top) :=
  (NameMap.overriddenBy_insertAll base top _).symm

namespace TargetFeatures

/-! ## Items -/

@[simp] theorem items_empty : items "" = [] := by decide +kernel

theorem items_append (first second : String) :
    items (first ++ "," ++ second) = items first ++ items second := by
  have text : (first ++ "," ++ second).toList = first.toList ++ ',' :: second.toList := by simp
  rw [items, text, List.splitOn_append_cons_self, List.map_append, List.filter_append]
  rfl

theorem items_intercalate_cons (first : String) (rest : List String) :
    items (",".intercalate (first :: rest)) = items first ++ items (",".intercalate rest) := by
  cases rest with
  | nil => simp
  | cons second rest => rw [String.intercalate_cons_cons, items_append]

theorem mem_items_intercalate_iff {lists : List String} {item : List Char} :
    item ∈ items (",".intercalate lists) ↔ ∃ list ∈ lists, item ∈ items list := by
  induction lists with
  | nil => simp
  | cons first rest ih => simp [items_intercalate_cons, ih]

/-! ## Reading one part after the other -/

theorem applyItems_append (known : Registry) (front back : List (List Char))
    (features : TargetFeatures) :
    applyItems known (front ++ back) features =
      match applyItems known front features with
      | (features, none) => applyItems known back features
      | (features, some e) => (features, some e) := by
  induction front generalizing features with
  | nil => rfl
  | cons item rest ih =>
    rw [List.cons_append, applyItems, applyItems]
    cases FeatureItem.ofText? item with
    | none => rfl
    | some i => exact ih (i.apply known features)

/-- What items do to features is to override them with what the items say by themselves. -/
theorem applyItems_overriddenBy (known : Registry) (items : List (List Char))
    (base top : TargetFeatures) :
    applyItems known items (base.overriddenBy top) =
      (base.overriddenBy (applyItems known items top).1, (applyItems known items top).2) := by
  induction items generalizing top with
  | nil => rfl
  | cons item rest ih =>
    rw [applyItems, applyItems]
    cases FeatureItem.ofText? item with
    | none => rfl
    | some i =>
      dsimp only
      rw [i.apply_overriddenBy, ih]

theorem applyItems_congr {known known' : Registry} (same : known.names = known'.names)
    (items : List (List Char)) (features : TargetFeatures) :
    applyItems known items features = applyItems known' items features := by
  induction items generalizing features with
  | nil => rfl
  | cons item rest ih =>
    rw [applyItems, applyItems]
    cases FeatureItem.ofText? item with
    | none => rfl
    | some i =>
      dsimp only
      rw [ih, FeatureItem.apply, FeatureItem.apply, same]

theorem ofList_congr_known {known known' : Registry} (same : known.names = known'.names)
    (list : String) : ofList known list = ofList known' list := by
  simp only [ofList, applyList, applyItems_congr same]

/-- Of a list only the items count. -/
theorem ofList_congr_items {list list' : String} (same : items list = items list')
    (known : Registry) : ofList known list = ofList known list' := by
  simp only [ofList, applyList, same]

/-- Two lists joined say what the second one says and else what the first one does. -/
theorem ofList_append (known : Registry) (first second : String) :
    ofList known (first ++ "," ++ second) = do
      let base ← ofList known first
      let top ← ofList known second
      return base.overriddenBy top := by
  simp only [ofList, applyList, items_append, applyItems_append]
  cases applyItems known (items first) .empty with
  | mk base failed =>
    cases failed with
    | some e => rfl
    | none =>
      have joined := applyItems_overriddenBy known (items second) base .empty
      rw [NameMap.overriddenBy_empty] at joined
      dsimp only
      rw [joined]
      cases applyItems known (items second) .empty with
      | mk top failed => cases failed <;> rfl

end TargetFeatures

end OpenCLRegistry
