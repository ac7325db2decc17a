import OpenCLRegistry.Proofs.FeatureList.Reading
import OpenCLRegistry.Proofs.Snapshot.Canonical
import OpenCLRegistry.Session
import Mathlib.Data.List.Dedup

/-!
# How features come about

Features are put together by insertions, from pairs, and by lists that replace or extend
them. Whatever the order of all this, it comes to inserting into an empty map what has been
written since the last replacement. So the names are listed by code point, each of them once
and with the value written last, and features that give the same values are the same. What a
session does to its features is no more than that.
-/
namespace OpenCLRegistry

/-- Something done to features. Each list is read against a registry of its own. -/
inductive FeatureEdit
  | insert (name : String) (value : Bool)
  | collect (pairs : List (String × Bool))
  | replace (known : Registry) (list : String)
  | extend (known : Registry) (list : String)

/-- The items before the first malformed one. -/
def FeatureItem.leading (texts : List (List Char)) : List FeatureItem :=
  ((texts.map ofText?).takeWhile Option.isSome).filterMap id

namespace TargetFeatures

open FeatureItem

/-- A list that is refused replaces nothing, but it extends by what it says before that. -/
def edited (features : TargetFeatures) : FeatureEdit → TargetFeatures
  | .insert name value => features.insert name value
  | .collect pairs => .ofPairs pairs
  | .replace known list =>
    match ofList known list with
    | .ok read => read
    | .error _ => features
  | .extend known list => (applyList known list features).1

/-- What edits make of no features. -/
def built (edits : List FeatureEdit) : TargetFeatures := edits.foldl edited .empty

/-- The pairs that the leading items of a list write, in their order. -/
def pairsOf (known : Registry) (list : String) : List (String × Bool) :=
  (leading (items list)).flatMap (settings known.names)

/-- What has been written after an edit, given what had been before. -/
def extendWritten (written : List (String × Bool)) : FeatureEdit → List (String × Bool)
  | .insert name value => written ++ [(name, value)]
  | .collect pairs => pairs
  | .replace known list =>
    if (items list).all fun item => (ofText? item).isSome then pairsOf known list else written
  | .extend known list => written ++ pairsOf known list

/-- The pairs written since features were last replaced, in their order. -/
def writtenBy (edits : List FeatureEdit) : List (String × Bool) := edits.foldl extendWritten []

/-! ## What has been written is what is there -/

theorem leading_cons_of_some {text : List Char} {item : FeatureItem}
    (read : ofText? text = some item) (rest : List (List Char)) :
    leading (text :: rest) = item :: leading rest := by
  simp [leading, read]

theorem leading_cons_of_none {text : List Char} (read : ofText? text = none)
    (rest : List (List Char)) : leading (text :: rest) = [] := by
  simp [leading, read]

/-- The first malformed item ends what is applied, and it alone is a reason to fail. -/
theorem applyItems_leading (known : Registry) (texts : List (List Char))
    (features : TargetFeatures) :
    (applyItems known texts features).1 =
        features.insertAll ((leading texts).flatMap (settings known.names)) ∧
      ((applyItems known texts features).2 = none ↔
        texts.all fun text => (ofText? text).isSome) := by
  induction texts generalizing features with
  | nil => exact ⟨rfl, iff_of_true rfl rfl⟩
  | cons text rest ih =>
    rw [applyItems]
    cases read : ofText? text with
    | none =>
      rw [leading_cons_of_none read]
      exact ⟨rfl, by simp [read]⟩
    | some item =>
      obtain ⟨applied, failed⟩ := ih (item.apply known features)
      rw [leading_cons_of_some read, List.flatMap_cons, NameMap.insertAll_append]
      exact ⟨applied, by simpa [read] using failed⟩

theorem fst_applyList (known : Registry) (list : String) (features : TargetFeatures) :
    (applyList known list features).1 = features.insertAll (pairsOf known list) :=
  (applyItems_leading known (items list) features).1

theorem ofList_eq (known : Registry) (list : String) :
    ofList known list =
      (applyList known list .empty).2.elim (.ok (.ofPairs (pairsOf known list))) .error :=
  ofList_of_applyList (Prod.ext (fst_applyList known list .empty) rfl)

theorem edited_ofPairs (written : List (String × Bool)) (edit : FeatureEdit) :
    edited (.ofPairs written) edit = .ofPairs (extendWritten written edit) := by
  cases edit with
  | insert name value => exact (NameMap.insertAll_append .empty written [(name, value)]).symm
  | collect pairs => rfl
  | replace known list =>
    have refused := (applyItems_leading known (items list) .empty).2
    rw [edited, ofList_eq, extendWritten, applyList]
    cases failed : (applyItems known (items list) .empty).2 with
    | none => rw [if_pos (refused.mp failed), Option.elim_none]
    | some e => rw [if_neg (by simp [← refused, failed]), Option.elim_some]
  | extend known list =>
    rw [edited, fst_applyList]
    exact (NameMap.insertAll_append .empty written (pairsOf known list)).symm

theorem foldl_edited_ofPairs (written : List (String × Bool)) (edits : List FeatureEdit) :
    edits.foldl edited (.ofPairs written) = .ofPairs (edits.foldl extendWritten written) :=
  List.foldl_hom NameMap.ofPairs edited_ofPairs

theorem built_eq (edits : List FeatureEdit) : built edits = .ofPairs (writtenBy edits) :=
  foldl_edited_ofPairs [] edits

/-! ## What is there -/

theorem codePoints_entries (features : TargetFeatures) :
    (features.entries.map fun e => codePoints e.1).Pairwise (· < ·) :=
  List.pairwise_map.mpr (features.ascending.imp codePoints_lt)

theorem get?_built (edits : List FeatureEdit) (name : String) :
    (built edits).get? name =
      ((writtenBy edits).filter fun e => e.1 = name).getLast?.map Prod.snd := by
  rw [built_eq, NameMap.get?_ofPairs]

theorem size_built (edits : List FeatureEdit) :
    (built edits).size = ((writtenBy edits).map Prod.fst).dedup.length := by
  have names : (built edits).names.Perm ((writtenBy edits).map Prod.fst).dedup := by
    refine (List.perm_ext_iff_of_nodup ?_ (List.nodup_dedup _)).mpr fun name => ?_
    · exact NameMap.nodup_of_ascending (built edits).ascending
    · rw [built_eq, NameMap.mem_names_ofPairs, List.mem_dedup]
  rw [← names.length_eq, NameMap.names, List.length_map, NameMap.size]

/-- To collect pairs forgets what was there before, as to begin anew does. -/
theorem built_collect (edits : List FeatureEdit) (pairs : List (String × Bool)) :
    built (edits ++ [.collect pairs]) = built (pairs.map fun e => .insert e.1 e.2) := by
  rw [built, List.foldl_concat, built, List.foldl_map]
  rfl

end TargetFeatures

/-! ## The features of a session -/

open TargetFeatures

/-- What a step does to the features, if anything. -/
def Step.edit? (known : Registry) : Step → Option FeatureEdit
  | .resetFeatures => some (.collect [])
  | .insertFeature name value => some (.insert name value)
  | .collectFeatures pairs => some (.collect pairs)
  | .replaceFeatures list => some (.replace known list)
  | .extendFeatures list => some (.extend known list)
  | _ => none

namespace Session

/-- What steps taken one after the other do to the features. -/
def edits (s : Session) : List Step → List FeatureEdit
  | [] => []
  | step :: rest => (step.edit? s.registry).toList ++ (s.step step).session.edits rest

theorem features_orFail {α : Type} (s : Session) (x : Except Error α) {f : α → Outcome}
    (kept : ∀ a, (f a).session.features = s.features) :
    (s.orFail x f).session.features = s.features := by
  cases x with
  | ok a => exact kept a
  | error e => rfl

theorem features_change (s : Session) (c : Change) :
    (s.change c).session.features = s.features := rfl

theorem features_step (s : Session) (step : Step) :
    (s.step step).session.features = (step.edit? s.registry).toList.foldl edited s.features := by
  cases step with
  | setEnabled name value => exact s.features_change _
  | setSupported name value => exact s.features_change _
  | clearEnabled => exact s.features_change _
  | enableCore source => exact s.features_orFail _ fun _ => s.features_change _
  | adopt source => exact s.features_orFail _ fun _ => s.features_change _
  | startFor source => exact s.features_orFail _ fun _ => rfl
  | restore snapshot => exact s.features_change _
  | restoreText json => exact s.features_orFail _ fun _ => s.features_change _
  | replaceFeatures list =>
    simp only [Session.step, Step.edit?, Option.toList_some, List.foldl_cons, List.foldl_nil,
      edited]
    cases ofList s.registry list <;> rfl
  | _ => rfl

theorem features_after (s : Session) (steps : List Step) :
    (s.after steps).features = (s.edits steps).foldl edited s.features := by
  induction steps generalizing s with
  | nil => rfl
  | cons step rest ih =>
    rw [edits, List.foldl_append, ← features_step]
    exact ih _

end Session

namespace TargetFeatures

/-- Features ascend by the code points of their names, each with the value that is found under it.
Under a name stands the value written last since features were last replaced, and none if nothing
was written there. Their number is that of the different names written. To collect pairs is to
insert them one by one into an empty map. Features are the same if and only if they answer alike
for every name, however they came about, and those of a session come about in no other way. -/
theorem built_canonical (edits : List FeatureEdit) :
    ((built edits).entries.map fun e => codePoints e.1).Pairwise (· < ·) ∧
    (∀ name value, (name, value) ∈ (built edits).entries ↔
      (built edits).get? name = some value) ∧
    (∀ name, (built edits).get? name =
      ((writtenBy edits).filter fun e => e.1 = name).getLast?.map Prod.snd) ∧
    (built edits).size = ((writtenBy edits).map Prod.fst).dedup.length ∧
    (∀ pairs : List (String × Bool),
      built (edits ++ [.collect pairs]) = built (pairs.map fun e => .insert e.1 e.2)) ∧
    (∀ others : List FeatureEdit, built edits = built others ↔
      ∀ name, (built edits).get? name = (built others).get? name) ∧
    ∀ (known : Registry) (steps : List Step),
      (Session.after { registry := known } steps).features =
        built (Session.edits { registry := known } steps) :=
  ⟨codePoints_entries _, fun _ _ => NameMap.get?_eq_some_iff.symm, get?_built edits,
    size_built edits, built_collect edits,
    fun _ => ⟨fun same name => by rw [same], NameMap.ext⟩,
    fun known steps => Session.features_after { registry := known } steps⟩

/-- A list is refused and leaves everything as it was, and another one is applied in part. -/
example :
    let known : Registry := ⟨.ofPairs [("y", {}), ("x", {})]⟩
    let edits : List FeatureEdit :=
      [.insert "z" true, .collect [("x", true), ("é", true), ("x", false)],
        .replace known "+z,oops", .extend known "-é, +all ,oops,-x"]
    writtenBy edits =
        [("x", true), ("é", true), ("x", false), ("é", false), ("x", true), ("y", true)] ∧
      (built edits).entries = [("x", true), ("y", true), ("é", false)] := by
  decide +kernel

end TargetFeatures

end OpenCLRegistry
