import OpenCLRegistry.Proofs.Registry.Adoption
import OpenCLRegistry.Proofs.Registry.Flags
import Mathlib.Data.List.Basic

/-!
# The account of reported features

Whether a reported feature is taken over depends on its name and on the language alone.
So the names fall into those that are taken over, which are only counted, and those that
are skipped, which are reported one by one in ascending order with the reason. The two
numbers add up to the number of names that the target has reported.
-/
namespace OpenCLRegistry

/-- What a target says of an available option becomes its supported flag. -/
theorem Record.reported_eq (l : Language) (value? : Option Bool) (record : Record) :
    record.reported l value? =
      { record with
        supported := if record.since ≤ l.effective.number then value?.getD record.supported
          else record.supported } := by
  cases value? with
  | none => simp
  | some value =>
    by_cases available : record.since ≤ l.effective.number <;>
      simp [reported, Metadata.availableIn, available]

namespace Registry

/-- The name is known and its option available in the language. -/
def offers (r : Registry) (l : Language) (name : String) : Bool :=
  (r.metadata? name).any (·.availableIn l)

/-- The event for a feature that is skipped. -/
def skipEvent (r : Registry) (name : String) : Event :=
  if r.isKnown name then .notAvailable name else .unknownFeature name

variable (r : Registry) (l : Language) (features : TargetFeatures)

theorem offers_iff {name : String} :
    r.offers l name = true ↔
      ∃ record, r.find? name = some record ∧ record.since ≤ l.effective.number := by
  rw [offers, metadata?, Option.any_map, Option.any_eq_true]
  simp [Metadata.availableIn]

theorem refusal?_eq (name : String) :
    r.refusal? l name = if r.offers l name then none else some (r.skipEvent name) := by
  rw [refusal?, offers, skipEvent, isKnown_eq_isSome]
  cases r.metadata? name with
  | none => rfl
  | some m => cases available : m.availableIn l <;> simp [available]

theorem level_skipEvent (name : String) : (r.skipEvent name).level = .trace := by
  unfold skipEvent
  split_ifs <;> rfl

/-- The reported features that are taken over. -/
def taken : List String := features.names.filter (r.offers l)

/-- The reported features that are skipped. -/
def skipped : List String := features.names.filter fun name => !r.offers l name

theorem pairwise_names : features.names.Pairwise (· < ·) :=
  List.pairwise_map.mpr features.ascending

theorem length_taken_add_length_skipped :
    (r.taken l features).length + (r.skipped l features).length = features.size := by
  have names : features.names.length = features.size := List.length_map _
  rw [← names, taken, skipped, ← List.length_eq_length_filter_add]

theorem filterMap_refusal? :
    features.entries.filterMap (fun e => r.refusal? l e.1) =
      (r.skipped l features).map r.skipEvent := by
  have refused : r.refusal? l = fun name =>
      if !r.offers l name then some (r.skipEvent name) else none := by
    funext name
    rw [refusal?_eq]
    cases r.offers l name <;> rfl
  calc features.entries.filterMap (fun e => r.refusal? l e.1)
      = features.names.filterMap (r.refusal? l) := by rw [NameMap.names, List.filterMap_map]; rfl
    _ = (r.skipped l features).map r.skipEvent := by
      rw [refused, skipped, ← List.filterMap_eq_map, List.filterMap_filter]
      rfl

theorem countP_refusal? :
    (features.entries.countP fun e => (r.refusal? l e.1).isNone) =
      (r.taken l features).length := by
  have free (name : String) : (r.refusal? l name).isNone = r.offers l name := by
    rw [refusal?_eq]
    cases r.offers l name <;> rfl
  simp only [free]
  rw [taken, ← List.countP_eq_length_filter, NameMap.names, List.countP_map]
  rfl

theorem events_adopt_eq :
    (r.adopt features l).events =
      (r.skipped l features).map r.skipEvent ++
        [.supportAdded (r.taken l features).length features.size] := by
  rw [events_adopt, filterMap_refusal?, countP_refusal?]

theorem levels_adopt :
    (r.adopt features l).events.map Event.level =
      List.replicate (r.skipped l features).length .trace ++ [.debug] := by
  rw [events_adopt_eq, List.map_append, Event.map_level_map r.level_skipEvent]
  rfl

theorem countP_trace_adopt :
    ((r.adopt features l).events.countP fun event => event.level = .trace) =
      (r.skipped l features).length := by
  have counted := congrArg (List.countP fun level => level = .trace) (r.levels_adopt l features)
  rw [List.countP_map] at counted
  refine counted.trans ?_
  rw [List.countP_append, List.countP_replicate, if_pos (decide_eq_true rfl)]
  rfl

/-- To adopt features sets the supported flags of the reported names that are known and available,
and changes nothing else. The other reported names are traced in ascending order, each once and
with the reason. At the end stands, as a detail and no trace, the number of the names taken over,
which together with the number of traces makes up the number of all names that were reported. -/
theorem adopt_accounts (r : Registry) (features : TargetFeatures) (l : Language) :
    let adopted := r.adopt features l
    adopted.value.names = r.names ∧
    (∀ name, adopted.value.find? name = (r.find? name).map fun record =>
      { record with
        supported := if record.since ≤ l.effective.number
          then (features.get? name).getD record.supported else record.supported }) ∧
    ∃ taken skipped : List String,
      (∀ name, name ∈ taken ↔ name ∈ features.names ∧
        ∃ record, r.find? name = some record ∧ record.since ≤ l.effective.number) ∧
      (∀ name, name ∈ skipped ↔ name ∈ features.names ∧
        ¬ ∃ record, r.find? name = some record ∧ record.since ≤ l.effective.number) ∧
      taken.Pairwise (· < ·) ∧ skipped.Pairwise (· < ·) ∧
      adopted.events = (skipped.map fun name =>
        if r.isKnown name then .notAvailable name else .unknownFeature name) ++
          [.supportAdded taken.length features.size] ∧
      adopted.events.map Event.level = List.replicate skipped.length .trace ++ [.debug] ∧
      taken.length + adopted.events.countP (fun event => event.level = .trace) =
        features.size := by
  refine ⟨r.names_adopt features l, fun name => ?_, r.taken l features, r.skipped l features,
    fun name => ?_, fun name => ?_, (pairwise_names features).filter _,
    (pairwise_names features).filter _, r.events_adopt_eq l features, r.levels_adopt l features, ?_⟩
  · rw [value_adopt, find?_changed]
    exact congrArg (fun f => (r.find? name).map f) (funext (Record.reported_eq l _))
  · rw [taken, List.mem_filter, offers_iff]
  · rw [skipped, List.mem_filter, ← offers_iff, Bool.not_eq_true, Bool.not_eq_true']
  · rw [countP_trace_adopt, length_taken_add_length_skipped]

example :
    let r : Registry :=
      ⟨.ofPairs [("cl_late", .ofMetadata { since := 200 }), ("cl_old", .ofMetadata {})]⟩
    let features : TargetFeatures :=
      .ofPairs [("cl_vendor", true), ("cl_old", false), ("cl_late", true)]
    (r.adopt features (.c .v10)).events =
      [.notAvailable "cl_late", .unknownFeature "cl_vendor", .supportAdded 1 3] := by
  decide +kernel

end Registry

end OpenCLRegistry
