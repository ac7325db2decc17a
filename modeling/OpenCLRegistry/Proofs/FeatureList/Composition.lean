import OpenCLRegistry.Proofs.FeatureList.Items

/-!
# Feature lists one after the other

A joined list does what its parts do in their order, and goes no further than the first
part that fails. Blanks around a list do nothing. What a list does to features is to
override them with what it says by itself, so doing it twice is doing it once.
-/
namespace OpenCLRegistry

/-- What has been overridden once stays as it is. -/
theorem NameMap.overriddenBy_overriddenBy_self {α : Type} (m n : NameMap α) :
    (m.overriddenBy n).overriddenBy n = m.overriddenBy n := by
  ext1 name
  rw [get?_overriddenBy, get?_overriddenBy, ← Option.or_assoc, Option.or_self]

namespace TargetFeatures

open Text

theorem applyList_append (known : Registry) (first second : String) (features : TargetFeatures) :
    applyList known (first ++ "," ++ second) features =
      match applyList known first features with
      | (reached, none) => applyList known second reached
      | (reached, some e) => (reached, some e) := by
  rw [applyList, items_append, applyItems_append]
  rfl

theorem applyList_surrounded {front back : String} (blankFront : AllBlank front.toList)
    (blankBack : AllBlank back.toList) (known : Registry) (list : String)
    (features : TargetFeatures) :
    applyList known (front ++ list ++ back) features = applyList known list features := by
  rw [applyList, items_append_blank blankBack, items_blank_append blankFront, applyList]

theorem applyList_of_ofList {known : Registry} {list : String} {parsed : TargetFeatures}
    (read : ofList known list = .ok parsed) (features : TargetFeatures) :
    applyList known list features = (features.overriddenBy parsed, none) := by
  have apart := applyItems_overriddenBy known (items list) features .empty
  rw [NameMap.overriddenBy_empty] at apart
  rw [applyList, apart]
  unfold ofList applyList at read
  split at read
  · rename_i result applied
    cases read
    rw [applied]
  · cases read

/-- Two lists joined by a comma are applied one after the other, the second one only if the first
one is read to its end. Blanks around a list change nothing. A list that can be read overrides
features by what it says alone, and to apply it again changes nothing. -/
theorem applyList_composes (known : Registry) (first second : String) (features : TargetFeatures) :
    (∀ reached, applyList known first features = (reached, none) →
      applyList known (first ++ "," ++ second) features = applyList known second reached) ∧
    (∀ reached e, applyList known first features = (reached, some e) →
      applyList known (first ++ "," ++ second) features = (reached, some e)) ∧
    (∀ front back : String, AllBlank front.toList → AllBlank back.toList →
      applyList known (front ++ first ++ back) features = applyList known first features) ∧
    (∀ parsed, ofList known first = .ok parsed →
      applyList known first features = (features.overriddenBy parsed, none) ∧
      applyList known first (features.overriddenBy parsed) =
        (features.overriddenBy parsed, none)) := by
  have joined := applyList_append known first second features
  refine ⟨fun reached read => ?_, fun reached e failed => ?_,
    fun front back blankFront blankBack => ?_, fun parsed read => ⟨?_, ?_⟩⟩
  · rw [joined, read]
  · rw [joined, failed]
  · exact applyList_surrounded blankFront blankBack known first features
  · exact applyList_of_ofList read features
  · rw [applyList_of_ofList read, NameMap.overriddenBy_overriddenBy_self]

/-- A registry that knows two names. -/
def twoNames : Registry := ⟨.ofPairs [("x", .ofMetadata {}), ("y", .ofMetadata {})]⟩

theorem applyList_composes_twoNames :
    applyList twoNames "+all,-y" (.ofPairs [("y", true), ("z", true)]) =
        (.ofPairs [("x", true), ("y", false), ("z", true)], none) ∧
      applyList twoNames "+all,-y,x,-x" (.ofPairs [("y", true), ("z", true)]) =
        applyList twoNames "x,-x" (.ofPairs [("x", true), ("y", false), ("z", true)]) ∧
      applyList twoNames "-x, y ,-all" .empty =
        (.ofPairs [("x", false)], some (.invalidFeature "y")) ∧
      applyList twoNames "-x, y ,-all,+y" .empty =
        (.ofPairs [("x", false)], some (.invalidFeature "y")) ∧
      AllBlank "\u2003\n".toList ∧
      applyList twoNames "\u2003\n-x, y ,-all" .empty = applyList twoNames "-x, y ,-all" .empty ∧
      ofList twoNames "+all,-y" = .ok (.ofPairs [("x", true), ("y", false)]) ∧
      applyList twoNames "+all,-y" (.ofPairs [("z", true)]) =
        (NameMap.overriddenBy (.ofPairs [("z", true)]) (.ofPairs [("x", true), ("y", false)]),
          none) := by
  have read : applyList twoNames "+all,-y" (.ofPairs [("y", true), ("z", true)]) =
      (.ofPairs [("x", true), ("y", false), ("z", true)], none) := by decide +kernel
  have failed : applyList twoNames "-x, y ,-all" .empty =
      (.ofPairs [("x", false)], some (.invalidFeature "y")) := by decide +kernel
  have blank : AllBlank "\u2003\n".toList := by decide
  have parsed : ofList twoNames "+all,-y" = .ok (.ofPairs [("x", true), ("y", false)]) := by rfl
  have reading := applyList_composes twoNames "+all,-y" "x,-x" (.ofPairs [("y", true), ("z", true)])
  have failing := applyList_composes twoNames "-x, y ,-all" "+y" .empty
  have alone := applyList_composes twoNames "+all,-y" "" (.ofPairs [("z", true)])
  exact ⟨read, reading.1 _ read, failed, failing.2.1 _ _ failed, blank,
    failing.2.2.1 "\u2003\n" "" blank (by decide), parsed, (alone.2.2.2 _ parsed).1⟩

end TargetFeatures

end OpenCLRegistry
