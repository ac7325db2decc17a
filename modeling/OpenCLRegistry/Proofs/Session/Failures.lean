import OpenCLRegistry.Proofs.FeatureList.Malformed
import OpenCLRegistry.Proofs.Registry.Report
import OpenCLRegistry.Session

/-!
# Steps that fail

A step that fails does nothing but say why: it leaves the registry and the
features as they were and reports no event. So the failed steps of a session can
be left out without a trace. The one exception is extending the features by a list
in place, which keeps what the list says before its malformed item.
-/
namespace OpenCLRegistry

/-- The step goes on from what a malformed list has changed before it failed. -/
def Step.extendsInPlace : Step → Bool
  | .extendFeatures _ => true
  | _ => false

/-- If the outcome is a failure, it is a failure and nothing else. -/
def Outcome.Atomic (s : Session) (o : Outcome) : Prop :=
  ∀ e, o.error = some e → o = { session := s, error := some e }

namespace Session

theorem atomic_withRegistry (s : Session) {x : Attempt Registry}
    (kept : ∀ e, x.error = some e → x = { value := s.registry, error := some e }) :
    (s.withRegistry x).Atomic s := by
  intro e failed
  rw [kept e failed, withRegistry]

theorem atomic_withFeatures (s : Session) (features : TargetFeatures) :
    (s.withFeatures features).Atomic s := fun _ failed => nomatch failed

theorem atomic_orFail {α : Type} (s : Session) (x : Except Error α) {f : α → Outcome}
    (goesOn : ∀ a, (f a).Atomic s) : (s.orFail x f).Atomic s := by
  cases x with
  | ok a => exact goesOn a
  | error e =>
    intro e' failed
    cases failed
    rfl

theorem atomic_change (s : Session) (c : Change) : (s.change c).Atomic s :=
  s.atomic_withRegistry fun _ => Registry.apply_of_error

theorem atomic_step (s : Session) {step : Step} (whole : step.extendsInPlace = false) :
    (s.step step).Atomic s := by
  cases step with
  | reset => exact s.atomic_withRegistry nofun
  | setEnabled name value => exact s.atomic_change _
  | setSupported name value => exact s.atomic_change _
  | clearEnabled => exact s.atomic_change _
  | enableCore source => exact s.atomic_orFail _ fun l => s.atomic_change _
  | adopt source => exact s.atomic_orFail _ fun l => s.atomic_change _
  | startFor source => exact s.atomic_orFail _ fun l => s.atomic_withRegistry nofun
  | restore snapshot => exact s.atomic_change _
  | restoreText json => exact s.atomic_orFail _ fun snapshot => s.atomic_change _
  | resetFeatures => exact s.atomic_withFeatures _
  | insertFeature name value => exact s.atomic_withFeatures _
  | collectFeatures pairs => exact s.atomic_withFeatures _
  | replaceFeatures list => exact s.atomic_orFail _ s.atomic_withFeatures
  | extendFeatures list => cases whole

/-! ## When steps fail -/

theorem error_change (s : Session) (c : Change) :
    (s.change c).error = (s.registry.report c).error := rfl

/-- Setting a flag fails exactly on names that are not known. -/
theorem error_setEnabled (s : Session) (name : String) (value : Bool) :
    (s.step (.setEnabled name value)).error =
      if s.registry.isKnown name then none else some (.unknownExtension name) := by
  rw [step, error_change, Registry.report_setEnabled]
  cases s.registry.isKnown name <;> rfl

theorem error_setSupported (s : Session) (name : String) (value : Bool) :
    (s.step (.setSupported name value)).error =
      if s.registry.isKnown name then none else some (.unknownExtension name) := by
  rw [step, error_change, Registry.report_setSupported]
  cases s.registry.isKnown name <;> rfl

theorem step_restoreText_of_error (s : Session) {json : String} {e : Error}
    (refused : Snapshot.ofText json = .error e) :
    s.step (.restoreText json) = { session := s, error := some e } := by
  rw [step, refused, orFail]

/-- A list whose last item is the first malformed one changes nothing. -/
theorem step_replaceFeatures_of_malformed (s : Session) {list : String}
    {before : List (List Char)} {item : List Char}
    (listed : TargetFeatures.items list = before ++ [item])
    (wellFormed : ∀ other ∈ before, ¬ FeatureItem.Malformed other)
    (malformed : FeatureItem.Malformed item) :
    s.step (.replaceFeatures list) =
      { session := s, error := some (.invalidFeature (String.ofList item)) } := by
  have first : IsFirst FeatureItem.Malformed (TargetFeatures.items list) item :=
    ⟨malformed, before, [], listed, wellFormed⟩
  have refused : TargetFeatures.ofList s.registry list =
      .error (.invalidFeature (String.ofList item)) :=
    TargetFeatures.ofList_eq_error_iff.mpr ⟨item, first, rfl⟩
  rw [step, refused, orFail]

/-! ## Leaving failed steps out -/

/-- The steps of a run without those that fail. -/
def succeeding (s : Session) : List Step → List Step
  | [] => []
  | step :: rest =>
    let later := (s.step step).session.succeeding rest
    match (s.step step).error with
    | none => step :: later
    | some _ => later

theorem after_cons (s : Session) (step : Step) (rest : List Step) :
    s.after (step :: rest) = (s.step step).session.after rest := rfl

theorem run_succeeding (s : Session) {steps : List Step}
    (whole : ∀ step ∈ steps, step.extendsInPlace = false) :
    s.run (s.succeeding steps) = (s.run steps).filter (·.error.isNone) ∧
      s.after (s.succeeding steps) = s.after steps := by
  induction steps generalizing s with
  | nil => exact ⟨rfl, rfl⟩
  | cons first rest ih =>
    obtain ⟨here, others⟩ := List.forall_mem_cons.mp whole
    obtain ⟨run, after⟩ := ih (s.step first).session others
    cases failed : (s.step first).error with
    | none =>
      have kept : s.succeeding (first :: rest) =
          first :: (s.step first).session.succeeding rest := by
        rw [succeeding, failed]
      rw [kept, Session.run, Session.run, run, List.filter_cons_of_pos (by simp [failed])]
      exact ⟨rfl, after⟩
    | some e =>
      -- The rest goes on from where the failed step began.
      have same : (s.step first).session = s :=
        congrArg Outcome.session (s.atomic_step here e failed)
      have dropped : s.succeeding (first :: rest) = s.succeeding rest := by
        rw [succeeding, failed, same]
      rw [same] at run after
      rw [dropped, Session.run, List.filter_cons_of_neg (by simp [failed]), after_cons, same]
      exact ⟨run, after⟩

/-- The failed steps of a run can be left out: the outcomes of the others stay as they are, with
all they report, and so does the session in the end. Steps that set a flag fail exactly on names
that are not known at that time. A snapshot's text that is refused changes nothing, and a feature
list whose last item is malformed leaves the features as they were. -/
theorem failures_erasable (s : Session) {steps : List Step}
    (whole : ∀ step ∈ steps, step.extendsInPlace = false) :
    s.run (s.succeeding steps) = (s.run steps).filter (·.error.isNone) ∧
    s.after (s.succeeding steps) = s.after steps ∧
    ∀ t : Session,
      (∀ name value,
        (t.step (.setEnabled name value)).error =
            (if t.registry.isKnown name then none else some (.unknownExtension name)) ∧
          (t.step (.setSupported name value)).error =
            if t.registry.isKnown name then none else some (.unknownExtension name)) ∧
      (∀ json e, Snapshot.ofText json = .error e →
        t.step (.restoreText json) = { session := t, error := some e }) ∧
      ∀ list before item, TargetFeatures.items list = before ++ [item] →
        (∀ other ∈ before, ¬ FeatureItem.Malformed other) → FeatureItem.Malformed item →
        t.step (.replaceFeatures list) =
          { session := t, error := some (.invalidFeature (String.ofList item)) } := by
  obtain ⟨run, after⟩ := s.run_succeeding whole
  refine ⟨run, after, fun t => ⟨fun name value => ?_, fun json e => ?_, ?_⟩⟩
  · exact ⟨t.error_setEnabled name value, t.error_setSupported name value⟩
  · exact t.step_restoreText_of_error
  · intro list before item
    exact t.step_replaceFeatures_of_malformed

/-- Every step but the second and the last fails: a name is unknown, a version does not exist, a
text is cut off, and a sign is missing at the end of a list. -/
def stumblingRun : List Step :=
  [.setSupported "cl_vendor" true, .insertFeature "cl_khr_fp64" true, .adopt (.numbers 130 false),
    .restoreText "\x7b", .replaceFeatures "-all,cl_khr_fp64", .adopt (.numbers 130 true)]

theorem failures_erasable_stumblingRun :
    (∀ step ∈ stumblingRun, step.extendsInPlace = false) ∧
      Session.run {} (Session.succeeding {} stumblingRun) =
        (Session.run {} stumblingRun).filter (·.error.isNone) ∧
      Session.step {} (.replaceFeatures "-all,cl_khr_fp64") =
        { session := {}, error := some (.invalidFeature "cl_khr_fp64") } := by
  have whole : ∀ step ∈ stumblingRun, step.extendsInPlace = false := by decide
  obtain ⟨run, -, others⟩ := failures_erasable {} whole
  obtain ⟨-, -, refused⟩ := others {}
  have wellFormed : ∀ other ∈ ["-all".toList], ¬ FeatureItem.Malformed other := by
    simp only [← FeatureItem.ofText?_eq_none_iff]
    decide
  have malformed : FeatureItem.Malformed "cl_khr_fp64".toList :=
    (FeatureItem.ofText?_eq_none_iff _).mp (by decide)
  have last := refused "-all,cl_khr_fp64" _ _ (by decide +kernel) wellFormed malformed
  rw [String.ofList_toList] at last
  exact ⟨whole, run, last⟩

end Session

end OpenCLRegistry
