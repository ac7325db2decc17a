import OpenCLRegistry.Proofs.FeatureList
import OpenCLRegistry.Proofs.FeatureList.Items
import OpenCLRegistry.Proofs.FeatureList.Malformed

/-!
# What reading a feature list comes to

Reading stops at the first malformed item, and the items before it have then been
applied. If there is none, each name ends up with the sign of the last item about it, and
keeps what it had if no item is about it. The registry enters only where an item says
something of all known names.
-/
namespace OpenCLRegistry

namespace FeatureItem

/-- The sign that stands for a value. -/
def sign (value : Bool) : Char := if value then '+' else '-'

theorem sign_inj {value other : Bool} : sign value = sign other ↔ value = other := by
  cases value <;> cases other <;> decide

/-- The item is the sign of the value with the name after it, or with "all" after it if the name
is known. -/
def Says (known : Registry) (name : String) (value : Bool) (item : List Char) : Prop :=
  item = sign value :: name.toList ∧ name ≠ "all" ∨
    item = sign value :: "all".toList ∧ known.isKnown name = true

theorem ofText?_sign_cons (value : Bool) (text : List Char) :
    ofText? (sign value :: text) = ofName? value text := by
  cases value <;> rfl

theorem exists_sign_of_not_malformed {item : List Char} (wellFormed : ¬ Malformed item) :
    ∃ value text, text ≠ [] ∧ item = sign value :: text := by
  obtain ⟨_, text, rfl | rfl, nonempty, rfl⟩ := not_not.mp wellFormed
  · exact ⟨true, text, nonempty, rfl⟩
  · exact ⟨false, text, nonempty, rfl⟩

theorem ofText?_eq_all {item : List Char} {value : Bool} (read : ofText? item = some (.all value)) :
    item = sign value :: "all".toList := by
  have wellFormed : ¬ Malformed item := by simp [← ofText?_eq_none_iff, read]
  obtain ⟨given, text, nonempty, rfl⟩ := exists_sign_of_not_malformed wellFormed
  rw [ofText?_sign_cons, ofName?, if_neg nonempty] at read
  split_ifs at read with all
  · cases read
    rw [all]
  · cases read

end FeatureItem

namespace TargetFeatures

open FeatureItem

theorem said?_eq_some_iff {known : Registry} {name : String} {value : Bool} {item : List Char}
    (wellFormed : ¬ Malformed item) :
    said? known name item = some value ↔ Says known name value item := by
  obtain ⟨given, text, nonempty, rfl⟩ := exists_sign_of_not_malformed wellFormed
  have named : name = String.ofList text ↔ text = name.toList := eq_comm.trans String.ofList_eq
  rw [said?, ofText?_sign_cons, ofName?, if_neg nonempty, Says, List.cons_eq_cons,
    List.cons_eq_cons, sign_inj]
  by_cases all : text = "all".toList
  · have apart : text = name.toList → name = "all" := fun same =>
      String.toList_inj.mp (same.symm.trans all)
    have notNamed : ¬ ((given = value ∧ text = name.toList) ∧ name ≠ "all") :=
      fun about => about.2 (apart about.1.2)
    rw [if_pos all, Option.bind_some, value?, Option.ite_none_right_eq_some, Option.some_inj,
      or_iff_right notNamed, and_iff_left all, and_comm]
  · have other : text = name.toList → name ≠ "all" := fun same eq => all (eq ▸ same)
    have notAll : ¬ ((given = value ∧ text = "all".toList) ∧ known.isKnown name = true) :=
      fun about => all about.1.2
    rw [if_neg all, Option.bind_some, value?, Option.ite_none_right_eq_some, Option.some_inj,
      or_iff_left notAll, and_assoc, and_iff_left_of_imp other, named, and_comm]

theorem said?_eq_none_iff {known : Registry} {name : String} {item : List Char}
    (wellFormed : ¬ Malformed item) :
    said? known name item = none ↔ ∀ value, ¬ Says known name value item := by
  simp only [Option.eq_none_iff_forall_ne_some, ne_eq, said?_eq_some_iff wellFormed]

/-- The result has at each name the value that the last item about the name says, and what there
was before if no item is about the name. -/
def Settled (known : Registry) (items : List (List Char)) (features result : TargetFeatures) :
    Prop :=
  ∀ name,
    (∃ before item after value, items = before ++ item :: after ∧ Says known name value item ∧
      (∀ later ∈ after, ∀ other, ¬ Says known name other later) ∧
      result.get? name = some value) ∨
    (∀ item ∈ items, ∀ value, ¬ Says known name value item) ∧
      result.get? name = features.get? name

theorem applyItems_settled (known : Registry) {items : List (List Char)}
    (features : TargetFeatures) (wellFormed : ∀ item ∈ items, ¬ Malformed item) :
    ∃ result, applyItems known items features = (result, none) ∧
      Settled known items features result := by
  have unstopped : (applyItems known items features).2 = none := by
    refine Option.eq_none_iff_forall_ne_some.mpr fun e stopped => ?_
    obtain ⟨item, ⟨malformed, before, after, rfl, -⟩, -⟩ := applyItems_eq_some_iff.mp stopped
    exact wellFormed item (by simp) malformed
  refine ⟨(applyItems known items features).1, Prod.ext rfl unstopped, fun name => ?_⟩
  have last := get?_applyItems (Prod.ext rfl unstopped) name
  cases said : items.reverse.findSome? (said? known name) with
  | some value =>
    left
    obtain ⟨after, item, before, reversed, about, silent⟩ := List.findSome?_eq_some_iff.mp said
    have split : items = before.reverse ++ item :: after.reverse := by
      rw [← List.reverse_reverse items, reversed]
      simp
    rw [said, Option.some_or] at last
    refine ⟨before.reverse, item, after.reverse, value, split, ?_, fun later mem => ?_, last⟩
    · exact (said?_eq_some_iff (wellFormed item (by simp [split]))).mp about
    · have listed : later ∈ items := by simp [split, List.mem_reverse.mp mem]
      have unsaid := silent later (List.mem_reverse.mp mem)
      exact (said?_eq_none_iff (wellFormed later listed)).mp unsaid
  | none =>
    right
    rw [said, Option.none_or] at last
    refine ⟨fun item mem => ?_, last⟩
    have silent := List.findSome?_eq_none_iff.mp said item (List.mem_reverse.mpr mem)
    exact (said?_eq_none_iff (wellFormed item mem)).mp silent

/-- Nothing behind a malformed item is read. -/
theorem applyItems_of_malformed {known : Registry} {before : List (List Char)}
    {item : List Char} {features reached : TargetFeatures}
    (read : applyItems known before features = (reached, none)) (malformed : Malformed item)
    (after : List (List Char)) :
    applyItems known (before ++ item :: after) features =
      (reached, some (.invalidFeature (String.ofList item))) := by
  rw [applyItems_append, read]
  simp only [applyItems, (ofText?_eq_none_iff item).mpr malformed]

/-- Only an item about all known names needs to know which these are. -/
theorem applyItems_congr_of_no_all {items : List (List Char)}
    (noAll : ∀ value, sign value :: "all".toList ∉ items) (known other : Registry)
    (features : TargetFeatures) :
    applyItems known items features = applyItems other items features := by
  induction items generalizing features with
  | nil => rfl
  | cons item rest ih =>
    have others := ih fun value mem => noAll value (List.mem_cons_of_mem _ mem)
    rw [applyItems, applyItems]
    cases read : ofText? item with
    | none => rfl
    | some i =>
      cases i with
      | named name value => exact others _
      | all value =>
        exact absurd List.mem_cons_self (ofText?_eq_all read ▸ noAll value)

/-- The parts before a malformed item make up a list of their own. -/
theorem applyList_intercalate_of_items (known : Registry) {list : String}
    {before after : List (List Char)} (split : items list = before ++ after)
    (features : TargetFeatures) :
    applyList known (",".intercalate (before.map String.ofList)) features =
      applyItems known before features := by
  have whole : ∀ item ∈ before, IsItem item := fun item mem =>
    isItem_of_mem_items (split ▸ List.mem_append_left after mem)
  rw [applyList, items_intercalate_ofList whole]

theorem ofList_of_applyList {known : Registry} {list : String} {features : TargetFeatures}
    {failed : Option Error} (applied : applyList known list .empty = (features, failed)) :
    ofList known list = failed.elim (.ok features) .error := by
  rw [ofList, applied]
  cases failed <;> rfl

/-- A list with a malformed item is refused for the first one, and has then been applied as far
as the list of the items before it. A list without any is read, and settles each name by its
last item about the name. Where no item is about all names, the registry does not matter. -/
theorem applyList_stops_or_settles (known : Registry) (list : String)
    (features : TargetFeatures) :
    ((∃ item ∈ items list, Malformed item) →
      ∃ before item after reached, items list = before ++ item :: after ∧
        (∀ earlier ∈ before, ¬ Malformed earlier) ∧ Malformed item ∧
        applyList known (",".intercalate (before.map String.ofList)) features = (reached, none) ∧
        applyList known list features = (reached, some (.invalidFeature (String.ofList item))) ∧
        ofList known list = .error (.invalidFeature (String.ofList item))) ∧
    ((∀ item ∈ items list, ¬ Malformed item) →
      ∃ result parsed, applyList known list features = (result, none) ∧
        Settled known (items list) features result ∧
        ofList known list = .ok parsed ∧ Settled known (items list) .empty parsed) ∧
    ((∀ value, sign value :: "all".toList ∉ items list) → ∀ other,
      applyList known list features = applyList other list features ∧
        ofList known list = ofList other list) := by
  refine ⟨fun stopped => ?_, fun wellFormed => ?_, fun noAll other => ?_⟩
  · obtain ⟨item, malformed, before, after, split, wellFormed⟩ := exists_isFirst_iff.mpr stopped
    obtain ⟨reached, read, -⟩ := applyItems_settled known features wellFormed
    obtain ⟨parsed, parsing, -⟩ := applyItems_settled known .empty wellFormed
    have stop := applyItems_of_malformed read malformed after
    have stopParsing := applyItems_of_malformed parsing malformed after
    rw [← split] at stop stopParsing
    refine ⟨before, item, after, reached, split, wellFormed, malformed, ?_, stop, ?_⟩
    · exact (applyList_intercalate_of_items known split features).trans read
    · exact ofList_of_applyList stopParsing
  · obtain ⟨result, read, settled⟩ := applyItems_settled known features wellFormed
    obtain ⟨parsed, parsing, settledAlone⟩ := applyItems_settled known .empty wellFormed
    exact ⟨result, parsed, read, settled, ofList_of_applyList parsing, settledAlone⟩
  · have same := applyItems_congr_of_no_all noAll known other
    exact ⟨same features, by simp only [ofList, applyList, same]⟩

/-- The third item is a sign without a name once its blanks are gone. -/
def unnamed : String := "-all,+cl_khr_fp16, + ,+late"

/-- All known names are switched off after one of them was switched on. A name may begin with a
blank. -/
def switchedOff : String := "+cl_khr_fp16,\u2003-all ,+ spaced"

theorem applyList_stops_or_settles_unnamed :
    (∃ item ∈ items unnamed, Malformed item) ∧
      (∃ before item after reached, items unnamed = before ++ item :: after ∧
        (∀ earlier ∈ before, ¬ Malformed earlier) ∧ Malformed item ∧
        applyList .initial (",".intercalate (before.map String.ofList)) .empty = (reached, none) ∧
        applyList .initial unnamed .empty =
          (reached, some (.invalidFeature (String.ofList item))) ∧
        ofList .initial unnamed = .error (.invalidFeature (String.ofList item))) ∧
      (∀ item ∈ items switchedOff, ¬ Malformed item) ∧
      (∃ result parsed,
        applyList .initial switchedOff (.ofPairs [("vendor", true)]) = (result, none) ∧
        Settled .initial (items switchedOff) (.ofPairs [("vendor", true)]) result ∧
        ofList .initial switchedOff = .ok parsed ∧
        Settled .initial (items switchedOff) .empty parsed) ∧
      (∀ value, sign value :: "all".toList ∉ items "++all,-x") ∧
      applyList .initial "++all,-x" .empty = applyList ⟨.empty⟩ "++all,-x" .empty ∧
      ofList .initial "++all,-x" = ofList ⟨.empty⟩ "++all,-x" := by
  have stopped : ∃ item ∈ items unnamed, Malformed item := by
    simp only [← ofText?_eq_none_iff]
    decide +kernel
  have wellFormed : ∀ item ∈ items switchedOff, ¬ Malformed item := by
    simp only [← ofText?_eq_none_iff]
    decide +kernel
  have noAll : ∀ value, sign value :: "all".toList ∉ items "++all,-x" := by
    intro value
    cases value <;> decide +kernel
  have stop := (applyList_stops_or_settles .initial unnamed .empty).1 stopped
  have settle := (applyList_stops_or_settles .initial switchedOff (.ofPairs [("vendor", true)])).2.1
    wellFormed
  have alike := (applyList_stops_or_settles .initial "++all,-x" .empty).2.2 noAll ⟨.empty⟩
  exact ⟨stopped, stop, wellFormed, settle, noAll, alike⟩

end TargetFeatures

end OpenCLRegistry
