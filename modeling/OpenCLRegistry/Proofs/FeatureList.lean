import OpenCLRegistry.FeatureList
import OpenCLRegistry.Proofs.Lookup
import Mathlib.Data.String.Basic

/-!
# What a feature list says of a name

Items override what was said before, so a list that can be read leaves at each
name what its last item about that name says, and what was there before if it has
no such item. An item is about a name if it gives the name itself, or if it is
about all names and the name is known.
-/
namespace OpenCLRegistry

namespace FeatureItem

/-- What an item says of a name. -/
def value? (known : Registry) (name : String) : FeatureItem → Option Bool
  | .named other value => if name = other then some value else none
  | .all value => if known.isKnown name then some value else none

theorem get?_apply (known : Registry) (features : TargetFeatures) (item : FeatureItem)
    (name : String) :
    (item.apply known features).get? name =
      (item.value? known name).or (features.get? name) := by
  rw [apply, NameMap.get?_insertAll]
  cases item with
  | named other value => rfl
  | all value =>
    have member : name ∈ known.names ↔ known.isKnown name = true := NameMap.mem_names_iff
    rw [settings, ← List.map_reverse, NameMap.lookup_map_const]
    simp only [List.mem_reverse, member, value?]

end FeatureItem

namespace TargetFeatures

/-- What the text of an item says of a name. -/
def said? (known : Registry) (name : String) (item : List Char) : Option Bool :=
  (FeatureItem.ofText? item).bind fun i => i.value? known name

/-- The last item about a name counts. -/
theorem get?_applyItems {known : Registry} {items : List (List Char)}
    {features result : TargetFeatures} (applied : applyItems known items features = (result, none))
    (name : String) :
    result.get? name =
      (items.reverse.findSome? (said? known name)).or (features.get? name) := by
  induction items generalizing features with
  | nil =>
    cases applied
    rfl
  | cons item rest ih =>
    rw [applyItems] at applied
    cases read : FeatureItem.ofText? item with
    | none =>
      rw [read] at applied
      cases applied
    | some i =>
      have said : said? known name item = i.value? known name := by rw [said?, read]; rfl
      rw [read] at applied
      rw [ih applied, FeatureItem.get?_apply, List.reverse_cons, List.findSome?_append,
        Option.or_assoc, List.findSome?_singleton, said]

theorem get?_ofList {known : Registry} {list : String} {features : TargetFeatures}
    (parsed : ofList known list = .ok features) (name : String) :
    features.get? name = (items list).reverse.findSome? (said? known name) := by
  unfold ofList at parsed
  split at parsed
  · rename_i result applied
    cases parsed
    rw [get?_applyItems applied, NameMap.get?_empty, Option.or_none]
  · cases parsed

/-- The sign of an item that is a sign and the name, or a sign and "all". -/
def sign? (name : String) (item : List Char) : Option Bool :=
  if item = '+' :: name.toList ∨ item = "+all".toList then some true
  else if item = '-' :: name.toList ∨ item = "-all".toList then some false
  else none

/-- The sign of the last such item of a list. -/
def lastSign (name : String) (list : String) : Option Bool :=
  (items list).reverse.findSome? (sign? name)

theorem value?_of_ofName? {known : Registry} {name : String} (here : known.isKnown name = true)
    (nonempty : name ≠ "") (value : Bool) (text : List Char) :
    ((FeatureItem.ofName? value text).bind fun i => i.value? known name) =
      if text = name.toList ∨ text = "all".toList then some value else none := by
  by_cases blank : text = []
  · subst blank
    have apart : ([] : List Char) ≠ name.toList := fun same =>
      nonempty (String.toList_eq_nil_iff.mp same.symm)
    simp [FeatureItem.ofName?, apart]
  · by_cases all : text = "all".toList
    · simp [FeatureItem.ofName?, all, FeatureItem.value?, here]
    · have same : name = String.ofList text ↔ text = name.toList :=
        eq_comm.trans String.ofList_eq
      simp only [FeatureItem.ofName?, blank, all, if_false, Option.bind_some, FeatureItem.value?,
        same, or_false]

theorem sign?_cons (name : String) (c : Char) (text : List Char) :
    sign? name (c :: text) =
      if text = name.toList ∨ text = "all".toList then
        if c = '+' then some true else if c = '-' then some false else none
      else none := by
  have plus : "+all".toList = '+' :: "all".toList := by decide
  have minus : "-all".toList = '-' :: "all".toList := by decide
  simp only [sign?, plus, minus, List.cons_eq_cons, ← and_or_left]
  by_cases about : text = name.toList ∨ text = "all".toList
  · simp only [about, and_true, if_true]
  · simp only [about, and_false, if_false]

theorem said?_eq_sign? {known : Registry} {name : String} (here : known.isKnown name = true)
    (nonempty : name ≠ "") (item : List Char) : said? known name item = sign? name item := by
  cases item with
  | nil => rfl
  | cons c text =>
    rw [sign?_cons, said?]
    by_cases plus : c = '+'
    · subst plus
      exact value?_of_ofName? here nonempty true text
    · by_cases minus : c = '-'
      · subst minus
        exact value?_of_ofName? here nonempty false text
      · have unsigned : FeatureItem.ofText? (c :: text) = none := by
          unfold FeatureItem.ofText?
          split <;> simp_all
        simp [unsigned, plus, minus]

/-- A list that can be read gives a known name the sign of the last item about it. -/
theorem get?_ofList_of_isKnown {known : Registry} {list : String} {features : TargetFeatures}
    (parsed : ofList known list = .ok features) {name : String}
    (here : known.isKnown name = true) (nonempty : name ≠ "") :
    features.get? name = lastSign name list := by
  rw [get?_ofList parsed, lastSign, funext (said?_eq_sign? here nonempty)]

example : lastSign "cl_khr_fp64" "+cl_khr_fp64, -all ,+cl_khr_fp16" = some false := by
  decide +kernel

end TargetFeatures

end OpenCLRegistry
