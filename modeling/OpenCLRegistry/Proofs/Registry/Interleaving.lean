import OpenCLRegistry.Proofs.Registry.Report

/-!
# Interleaved calls

Calls that set supported flags and calls that set enabled flags may be mixed in
any way. Neither kind makes a name known or changes metadata, so what a call
reports does not depend on the calls before it, and two calls of different kinds
commute because they write different flags of a record and read neither.
-/
namespace OpenCLRegistry

/-- The third list is made of the other two, each in its own order. -/
inductive Interleaves {α : Type} : List α → List α → List α → Prop
  | nil : Interleaves [] [] []
  | left {x : α} {xs ys zs : List α} : Interleaves xs ys zs → Interleaves (x :: xs) ys (x :: zs)
  | right {y : α} {xs ys zs : List α} : Interleaves xs ys zs → Interleaves xs (y :: ys) (y :: zs)

theorem Interleaves.map {α β : Type} (f : α → β) {xs ys zs : List α} (h : Interleaves xs ys zs) :
    Interleaves (xs.map f) (ys.map f) (zs.map f) := by
  induction h with
  | nil => exact .nil
  | left _ ih => exact .left ih
  | right _ ih => exact .right ih

theorem Interleaves.forall_mem {α : Type} {p : α → Prop} {xs ys zs : List α}
    (h : Interleaves xs ys zs) (left : ∀ x ∈ xs, p x) (right : ∀ y ∈ ys, p y) : ∀ z ∈ zs, p z := by
  induction h with
  | nil => exact left
  | left _ ih =>
    obtain ⟨here, left⟩ := List.forall_mem_cons.mp left
    exact List.forall_mem_cons.mpr ⟨here, ih left right⟩
  | right _ ih =>
    obtain ⟨here, right⟩ := List.forall_mem_cons.mp right
    exact List.forall_mem_cons.mpr ⟨here, ih left right⟩

namespace Change

/-- A call that sets supported flags. -/
def setsSupported : Change → Bool
  | .setSupported .. | .adopt .. => true
  | .setEnabled .. | .clearEnabled | .enableCore _ | .restore _ => false

/-- A call that sets enabled flags, whatever the other flags are. -/
def setsEnabled : Change → Bool
  | .setEnabled .. | .clearEnabled => true
  | .setSupported .. | .adopt .. | .enableCore _ | .restore _ => false

/-- A call of one of the two kinds. -/
def setsFlags (c : Change) : Bool := c.setsSupported || c.setsEnabled

theorem brought_of_setsFlags {c : Change} (setter : c.setsFlags = true) (name : String) :
    c.brought name = none := by
  cases c with
  | restore s => cases setter
  | _ => rfl

/-- A call of the first kind treats a record in the same way whatever its enabled flag is, and
keeps that flag. -/
theorem effect_of_setsSupported {c : Change} (supported : c.setsSupported = true) (name : String) :
    ∃ f : Record → Record, (∀ record?, c.effect name record? = record?.map f) ∧
      ∀ record value, f { record with enabled := value } = { f record with enabled := value } := by
  cases c with
  | setSupported other value =>
    by_cases same : name = other
    · exact ⟨fun record => { record with supported := value }, fun _ => if_pos same,
        fun _ _ => rfl⟩
    · exact ⟨id, fun record? => by simp [effect, same], fun _ _ => rfl⟩
  | adopt features l =>
    refine ⟨Record.reported l (features.get? name), fun _ => rfl, fun record value => ?_⟩
    cases features.get? name with
    | none => rfl
    | some new =>
      by_cases available : record.availableIn l = true <;> simp [Record.reported, available]
  | _ => cases supported

/-- A call of the second kind leaves a record alone or sets its enabled flag. -/
theorem effect_of_setsEnabled {c : Change} (enabled : c.setsEnabled = true) (name : String) :
    (∀ record?, c.effect name record? = record?) ∨
      ∃ value, ∀ record?, c.effect name record? =
        record?.map fun record => { record with enabled := value } := by
  cases c with
  | setEnabled other value =>
    by_cases same : name = other
    · exact .inr ⟨value, fun _ => if_pos same⟩
    · exact .inl fun _ => if_neg same
  | clearEnabled => exact .inr ⟨false, fun _ => rfl⟩
  | _ => cases enabled

/-- Calls of different kinds do the same to a record in either order. -/
theorem effect_comm {a b : Change} (supported : a.setsSupported = true)
    (enabled : b.setsEnabled = true) (name : String) (record? : Option Record) :
    b.effect name (a.effect name record?) = a.effect name (b.effect name record?) := by
  obtain ⟨f, effect, keeps⟩ := effect_of_setsSupported supported name
  rcases effect_of_setsEnabled enabled name with same | ⟨value, sets⟩
  · rw [same, same]
  · simp only [effect, sets, Option.map_map]
    exact congrArg (fun f => record?.map f) (funext fun record => (keeps record value).symm)

end Change

namespace Registry

/-! ## What the calls report -/

theorem metadata?_changed_of_setsFlags {c : Change} (setter : c.setsFlags = true) (r : Registry)
    (name : String) : (r.changed c).metadata? name = r.metadata? name := by
  rw [metadata?_changed, Change.brought_of_setsFlags setter, Option.or_none]

theorem metadata?_after_of_setsFlags {changes : List Change}
    (setters : ∀ c ∈ changes, c.setsFlags = true) (r : Registry) (name : String) :
    (r.after changes).metadata? name = r.metadata? name := by
  induction changes generalizing r with
  | nil => rfl
  | cons c rest ih =>
    obtain ⟨first, others⟩ := List.forall_mem_cons.mp setters
    rw [after_cons, ih others, metadata?_changed_of_setsFlags first]

theorem report_congr {r s : Registry} (same : ∀ name, r.metadata? name = s.metadata? name)
    {c : Change} (setter : c.setsFlags = true) : r.report c = s.report c := by
  have known (name : String) : r.isKnown name = s.isKnown name := by
    rw [isKnown_eq_isSome, isKnown_eq_isSome, same]
  cases c with
  | setEnabled name value => rw [report_setEnabled, report_setEnabled, known]
  | setSupported name value => rw [report_setSupported, report_setSupported, known]
  | adopt features l =>
    have refused (name : String) : r.refusal? l name = s.refusal? l name :=
      refusal?_congr (same name) l
    refine congrArg (Reply.mk none) ?_
    simp only [events_adopt, refused]
  | clearEnabled =>
    refine congrArg (fun entries => Reply.mk none [Event.allDisabled entries]) ?_
    rw [size_eq_length_names, names_congr known, ← size_eq_length_names]
  | enableCore l => cases setter
  | restore s => cases setter

/-- Every call reports what it would have reported at the start. -/
theorem reports_eq_map {changes : List Change} (setters : ∀ c ∈ changes, c.setsFlags = true)
    (r : Registry) : r.reports changes = changes.map r.report := by
  induction changes generalizing r with
  | nil => rfl
  | cons c rest ih =>
    obtain ⟨first, others⟩ := List.forall_mem_cons.mp setters
    have same (d : Change) (mem : d ∈ rest) : (r.changed c).report d = r.report d :=
      report_congr (metadata?_changed_of_setsFlags first r) (others d mem)
    rw [reports, ih others, List.map_cons, List.map_congr_left same]

/-- The calls of a run, each with what it reports. -/
def transcript (r : Registry) (changes : List Change) : List (Change × Reply) :=
  changes.zip (r.reports changes)

theorem transcript_eq_map {changes : List Change} (setters : ∀ c ∈ changes, c.setsFlags = true)
    (r : Registry) : r.transcript changes = changes.map fun c => (c, r.report c) := by
  rw [transcript, reports_eq_map setters]
  exact List.map_prod_left_eq_zip.symm

/-! ## What the calls leave -/

theorem changed_comm {a b : Change} (supported : a.setsSupported = true)
    (enabled : b.setsEnabled = true) (r : Registry) :
    (r.changed a).changed b = (r.changed b).changed a := by
  ext1 name
  simp only [find?_changed]
  exact Change.effect_comm supported enabled name (r.find? name)

/-- A call of the second kind can be moved behind any calls of the first. -/
theorem after_changed_comm {changes : List Change}
    (supported : ∀ c ∈ changes, c.setsSupported = true) {b : Change}
    (enabled : b.setsEnabled = true) (r : Registry) :
    (r.changed b).after changes = (r.after changes).changed b := by
  induction changes generalizing r with
  | nil => rfl
  | cons a rest ih =>
    obtain ⟨first, others⟩ := List.forall_mem_cons.mp supported
    rw [after_cons, after_cons, ← ih others, changed_comm first enabled]

theorem after_interleaved {first second mixed : List Change}
    (merged : Interleaves first second mixed) (supported : ∀ c ∈ first, c.setsSupported = true)
    (enabled : ∀ c ∈ second, c.setsEnabled = true) (r : Registry) :
    r.after mixed = (r.after first).after second := by
  induction merged generalizing r with
  | nil => rfl
  | @left a first second mixed _ ih =>
    obtain ⟨-, supported⟩ := List.forall_mem_cons.mp supported
    exact ih supported enabled (r.changed a)
  | @right b first second mixed _ ih =>
    obtain ⟨here, enabled⟩ := List.forall_mem_cons.mp enabled
    calc (r.changed b).after mixed
      _ = ((r.changed b).after first).after second := ih supported enabled (r.changed b)
      _ = ((r.after first).changed b).after second := by rw [after_changed_comm supported here]

/-- However calls that set supported flags and calls that set enabled flags are mixed, the
registry in the end is the one that all of the first kind and then all of the second leave.
Every call succeeds, fails and reports as it does in that order, which is as it would if it were
made first. -/
theorem interleaving_immaterial {first second mixed : List Change}
    (merged : Interleaves first second mixed) (supported : ∀ c ∈ first, c.setsSupported = true)
    (enabled : ∀ c ∈ second, c.setsEnabled = true) (r : Registry) :
    r.after mixed = r.after (first ++ second) ∧
      Interleaves (r.transcript first) ((r.after first).transcript second) (r.transcript mixed) ∧
      r.transcript (first ++ second) =
        r.transcript first ++ (r.after first).transcript second ∧
      ∀ call ∈ r.transcript mixed, call.2 = r.report call.1 := by
  have setters : ∀ c ∈ first, c.setsFlags = true := fun c mem => by
    rw [Change.setsFlags, supported c mem, Bool.true_or]
  have setters' : ∀ c ∈ second, c.setsFlags = true := fun c mem => by
    rw [Change.setsFlags, enabled c mem, Bool.or_true]
  have mixedSetters := merged.forall_mem setters setters'
  have later (c : Change) (mem : c ∈ second) : (r.after first).report c = r.report c :=
    report_congr (metadata?_after_of_setsFlags setters r) (setters' c mem)
  have behind : (r.after first).transcript second = second.map fun c => (c, r.report c) := by
    rw [transcript_eq_map setters']
    exact List.map_congr_left fun c mem => by rw [later c mem]
  refine ⟨?_, ?_, ?_, ?_⟩
  · rw [after_append, after_interleaved merged supported enabled]
  · rw [transcript_eq_map setters, behind, transcript_eq_map mixedSetters]
    exact merged.map _
  · rw [transcript_eq_map (List.forall_mem_append.mpr ⟨setters, setters'⟩), List.map_append,
      transcript_eq_map setters, behind]
  · intro call mem
    rw [transcript_eq_map mixedSetters] at mem
    obtain ⟨c, -, rfl⟩ := List.mem_map.mp mem
    rfl

/-- What a target says of two options, one of which is unknown. -/
def targetCalls : List Change :=
  [.adopt (.ofPairs [("cl_khr_fp64", true), ("cl_vendor", true)]) (.c .v12),
    .setSupported "cl_khr_fp16" true]

/-- What a source text says of options, one of which is unknown. -/
def sourceCalls : List Change :=
  [.setEnabled "cl_khr_fp64" true, .clearEnabled, .setEnabled "cl_vendor" true]

theorem interleaving_immaterial_vendor :
    let mixed : List Change :=
      [.setEnabled "cl_khr_fp64" true,
        .adopt (.ofPairs [("cl_khr_fp64", true), ("cl_vendor", true)]) (.c .v12),
        .clearEnabled, .setEnabled "cl_vendor" true, .setSupported "cl_khr_fp16" true]
    Interleaves targetCalls sourceCalls mixed ∧
      (∀ c ∈ targetCalls, c.setsSupported = true) ∧ (∀ c ∈ sourceCalls, c.setsEnabled = true) ∧
      initial.after mixed = initial.after (targetCalls ++ sourceCalls) ∧
      Interleaves (initial.transcript targetCalls)
        ((initial.after targetCalls).transcript sourceCalls) (initial.transcript mixed) := by
  intro mixed
  have merged : Interleaves targetCalls sourceCalls mixed :=
    .right (.left (.right (.right (.left .nil))))
  have supported : ∀ c ∈ targetCalls, c.setsSupported = true := by decide
  have enabled : ∀ c ∈ sourceCalls, c.setsEnabled = true := by decide
  obtain ⟨last, told, -⟩ := interleaving_immaterial merged supported enabled initial
  exact ⟨merged, supported, enabled, last, told⟩

end Registry

end OpenCLRegistry
