import OpenCLRegistry.Proofs.FeatureList.Joining
import OpenCLRegistry.Proofs.FeatureList.Malformed
import OpenCLRegistry.Proofs.Registry.Report

/-!
# Adopting feature lists in parts

A target may report its features all at once or bit by bit, each list read against
the registry that the ones before it have left. Adopting features makes no name
known and leaves availability alone, so each list is read as at the start, and a
later report overrides an earlier one as a later item of one list overrides an
earlier one. Both ways lead to the same registry.
-/
namespace OpenCLRegistry

namespace Record

/-- Of two reports on an option the later one counts, and the earlier one if it says nothing. -/
theorem reported_reported (l : Language) (first second : Option Bool) (record : Record) :
    (record.reported l first).reported l second = record.reported l (second.or first) := by
  cases second with
  | none => rfl
  | some value =>
    cases first with
    | none => rfl
    | some old => by_cases here : record.availableIn l = true <;> simp [reported, here]

end Record

namespace Registry

theorem names_adopt (r : Registry) (features : TargetFeatures) (l : Language) :
    (r.adopt features l).value.names = r.names :=
  names_congr fun _ => isKnown_changed_of_brought (c := .adopt features l) rfl r

theorem adopt_overriddenBy (r : Registry) (first second : TargetFeatures) (l : Language) :
    (r.adopt (first.overriddenBy second) l).value =
      ((r.adopt first l).value.adopt second l).value := by
  simp only [value_adopt]
  ext1 name
  simp only [find?_changed, Change.effect, NameMap.get?_overriddenBy, Option.map_map]
  exact congrArg (fun f => (r.find? name).map f)
    (funext fun record => (record.reported_reported l _ _).symm)

/-- Reads a feature list against the registry and adopts what it says. -/
def adoptList (l : Language) (r : Registry) (list : String) : Except Error Registry := do
  let features ← TargetFeatures.ofList r list
  return (r.adopt features l).value

theorem adoptList_congr_items {list list' : String}
    (same : TargetFeatures.items list = TargetFeatures.items list') (l : Language) (r : Registry) :
    adoptList l r list = adoptList l r list' := by
  rw [adoptList, adoptList, TargetFeatures.ofList_congr_items same]

theorem adoptList_empty (l : Language) (r : Registry) : adoptList l r "" = .ok r := by
  have unsaid : TargetFeatures.ofList r "" = .ok .empty := by
    simp only [TargetFeatures.ofList, TargetFeatures.applyList, TargetFeatures.items_empty]
    rfl
  rw [adoptList, unsaid]
  refine congrArg Except.ok (Registry.ext fun name => ?_)
  simp [value_adopt, find?_changed, Change.effect]

theorem adoptList_append (l : Language) (r : Registry) (first second : String) :
    adoptList l r (first ++ "," ++ second) =
      adoptList l r first >>= fun middle => adoptList l middle second := by
  simp only [adoptList, TargetFeatures.ofList_append]
  cases TargetFeatures.ofList r first with
  | error e => rfl
  | ok base =>
    have read : TargetFeatures.ofList (r.adopt base l).value second = TargetFeatures.ofList r second :=
      TargetFeatures.ofList_congr_known (r.names_adopt base l) second
    simp only [bind, Except.bind, pure, Except.pure, read]
    cases TargetFeatures.ofList r second with
    | error e => rfl
    | ok top => exact congrArg Except.ok (r.adopt_overriddenBy base top l)

theorem foldlM_adoptList (l : Language) (r : Registry) (lists : List String) :
    lists.foldlM (adoptList l) r = adoptList l r (",".intercalate lists) := by
  induction lists generalizing r with
  | nil => rw [String.intercalate_nil, adoptList_empty, List.foldlM_nil]; rfl
  | cons first rest ih =>
    have split : TargetFeatures.items (",".intercalate (first :: rest)) =
        TargetFeatures.items (first ++ "," ++ ",".intercalate rest) := by
      rw [TargetFeatures.items_intercalate_cons, TargetFeatures.items_append]
    rw [List.foldlM_cons, adoptList_congr_items split, adoptList_append]
    exact congrArg (adoptList l r first >>= ·) (funext ih)

/-- Adopting lists one after the other, each read against the registry that the ones before it
have left, is adopting the joined list at once, and fails with the same error if it fails. If
every list can be read at the start, both succeed. -/
theorem adopt_incrementally (l : Language) (r : Registry) (lists : List String) :
    lists.foldlM (adoptList l) r = adoptList l r (",".intercalate lists) ∧
      ((∀ list ∈ lists, ∃ features, TargetFeatures.ofList r list = .ok features) →
        ∃ features, TargetFeatures.ofList r (",".intercalate lists) = .ok features ∧
          lists.foldlM (adoptList l) r = .ok (r.adopt features l).value) := by
  have same := foldlM_adoptList l r lists
  refine ⟨same, fun accepted => ?_⟩
  have wellFormed : ∀ item ∈ TargetFeatures.items (",".intercalate lists),
      ¬ FeatureItem.Malformed item := by
    intro item mem
    obtain ⟨list, given, mem⟩ := TargetFeatures.mem_items_intercalate_iff.mp mem
    exact (TargetFeatures.exists_ofList_iff r).mp (accepted list given) item mem
  obtain ⟨features, read⟩ := (TargetFeatures.exists_ofList_iff r).mpr wellFormed
  refine ⟨features, read, ?_⟩
  rw [same, adoptList, read]
  rfl

/-- An option is switched on with all others and off by name, and the last list brings it back
together with a name that is unknown and a feature that version 1.0 lacks. -/
def reportedInParts : List String :=
  ["+all", " -cl_khr_fp16 ,,", "-all,+cl_khr_fp16,+cl_vendor,+__opencl_c_pipes"]

theorem adopt_incrementally_reportedInParts :
    (∀ list ∈ reportedInParts, ∃ features, TargetFeatures.ofList initial list = .ok features) ∧
      ∃ features,
        TargetFeatures.ofList initial (",".intercalate reportedInParts) = .ok features ∧
        reportedInParts.foldlM (adoptList (.c .v10)) initial =
          .ok (initial.adopt features (.c .v10)).value := by
  have wellFormed : ∀ list ∈ reportedInParts, ∀ item ∈ TargetFeatures.items list,
      ¬ FeatureItem.Malformed item := by
    simp only [← FeatureItem.ofText?_eq_none_iff]
    decide +kernel
  have accepted : ∀ list ∈ reportedInParts,
      ∃ features, TargetFeatures.ofList initial list = .ok features :=
    fun list given => (TargetFeatures.exists_ofList_iff initial).mpr (wellFormed list given)
  exact ⟨accepted, (adopt_incrementally (.c .v10) initial reportedInParts).2 accepted⟩

end Registry

end OpenCLRegistry
