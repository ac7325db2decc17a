import OpenCLRegistry.CommandLine.Report
import OpenCLRegistry.Proofs.CommandLine.Options

/-!
# The order of the arguments

Options that carry their values are settings which hardly depend on each other: one that
may be made once only is refused in any order if it is made twice, and different ones do
not see each other. Only the names to enable are kept in the order in which they were
given. So arguments of this kind may stand in any order, provided that the ones that
enable extensions keep theirs.
-/
namespace OpenCLRegistry

/-! ## Two settings -/

namespace Invocation

theorem taken_put (i : Invocation) {s t : Setting} (other : s.option ≠ t.option) :
    (i.put t).taken s = i.taken s := by
  cases s <;> cases t <;> first | rfl | exact absurd rfl other

theorem put_comm (i : Invocation) {s t : Setting} (other : s.option ≠ t.option) :
    (i.put s).put t = (i.put t).put s := by
  cases s <;> cases t <;> first | rfl | exact absurd rfl other

/-- An option that is not repeatable is used up by any of its values. -/
theorem taken_put_of_option_eq (i : Invocation) {s t : Setting} (same : s.option = t.option)
    (once : s.option ≠ "enable" ∧ s.option ≠ "verbose") : (i.put t).taken s = true := by
  cases s <;> cases t <;> simp_all [Setting.option, put, taken]

theorem eq_verbose_of_option {s : Setting} (marks : s.option = "verbose") : s = .verbose := by
  cases s with
  | verbose => rfl
  | _ => simp [Setting.option] at marks

/-- Two settings can be exchanged unless both enable extensions. -/
theorem set?_comm (i : Invocation) {s t : Setting}
    (apart : s.option ≠ "enable" ∨ t.option ≠ "enable") :
    (i.set? s).bind (·.set? t) = (i.set? t).bind (·.set? s) := by
  by_cases same : s.option = t.option
  · by_cases marks : s.option = "verbose"
    · rw [eq_verbose_of_option marks, eq_verbose_of_option (same.symm.trans marks)]
    · -- Whichever of the two comes second is refused.
      have once : s.option ≠ "enable" := apart.elim id (same ▸ id)
      have second := i.taken_put_of_option_eq same ⟨once, marks⟩
      have second' := i.taken_put_of_option_eq same.symm ⟨same ▸ once, same ▸ marks⟩
      simp only [set?_eq]
      cases i.taken s <;> cases i.taken t <;> simp [second, second']
  · have unseen := i.taken_put same
    have unseen' := i.taken_put (Ne.symm same)
    simp only [set?_eq]
    cases taken : i.taken s <;> cases taken' : i.taken t <;>
      simp [unseen, unseen', taken, taken', i.put_comm same]

/-! ## Settings in a row -/

/-- The invocation after another setting, if all goes well. A setting may have been refused. -/
def add (i? : Option Invocation) (s? : Option Setting) : Option Invocation :=
  i?.bind fun i => s?.bind i.set?

/-- A setting that enables an extension: the order of such settings counts. -/
def ordered (s? : Option Setting) : Bool := s?.any (·.option == "enable")

theorem add_comm (i? : Option Invocation) {s? t? : Option Setting}
    (apart : ordered s? = false ∨ ordered t? = false) :
    add (add i? s?) t? = add (add i? t?) s? := by
  cases i? with
  | none => rfl
  | some i =>
    cases s? with
    | none => cases t? <;> simp [add]
    | some s =>
      cases t? with
      | none => simp [add]
      | some t =>
        simp only [ordered, Option.any_some, beq_eq_false_iff_ne] at apart
        exact i.set?_comm apart

/-- Enabling an extension can wait until other settings have been made. -/
theorem foldl_add_ordered {s? : Option Setting} {settings : List (Option Setting)}
    (others : ∀ t? ∈ settings, ordered t? = false) (i? : Option Invocation) :
    settings.foldl add (add i? s?) = add (settings.foldl add i?) s? := by
  induction settings generalizing i? with
  | nil => rfl
  | cons t? rest ih =>
    obtain ⟨first, later⟩ := List.forall_mem_cons.mp others
    rw [List.foldl_cons, add_comm i? (.inr first), ih later, List.foldl_cons]

/-- The same comes of all the other settings with the extensions enabled after them. -/
theorem foldl_add_eq (settings : List (Option Setting)) (i? : Option Invocation) :
    settings.foldl add i? =
      (settings.filter ordered).foldl add
        ((settings.filter fun s? => !ordered s?).foldl add i?) := by
  induction settings generalizing i? with
  | nil => rfl
  | cons s? rest ih =>
    rw [List.foldl_cons, ih]
    cases kind : ordered s? with
    | false => simp [kind]
    | true =>
      -- This one stands first of those whose order counts, so it moves past all the others.
      have others : ∀ t? ∈ rest.filter fun s? => !ordered s?, ordered t? = false := by simp
      rw [foldl_add_ordered others]
      simp [kind]

/-- Settings may be made in any order that keeps the order of the extensions to enable. -/
theorem foldl_add_perm {settings settings' : List (Option Setting)}
    (perm : settings.Perm settings')
    (order : settings.filter ordered = settings'.filter ordered) (i? : Option Invocation) :
    settings.foldl add i? = settings'.foldl add i? := by
  have others : (settings.filter fun s? => !ordered s?).foldl add i? =
      (settings'.filter fun s? => !ordered s?).foldl add i? := by
    refine (perm.filter _).foldl_eq' (fun s? mem t? _ j? => add_comm j? (.inl ?_)) i?
    simpa using (List.mem_filter.mp mem).2
  rw [foldl_add_eq settings, foldl_add_eq settings', order, others]

end Invocation

/-! ## Arguments in a row -/

namespace Argument

/-- The argument is an option with its value after an equals sign, or a flag. -/
inductive SelfContained : String → Prop
  | joined (key : OptionKey) (value : String) :
      SelfContained ("--" ++ key.name ++ "=" ++ value)
  | flag {arg : String} :
      arg ∈ ["--cpp", "--disable-all", "--enable-core", "--verbose", "-v"] → SelfContained arg

def keys : List OptionKey := [.version, .configuration, .features, .enable, .query]

theorem selfContained_iff {arg : String} :
    SelfContained arg ↔
      (∃ key ∈ keys, ("--" ++ key.name ++ "=").toList <+: arg.toList) ∨
        arg ∈ ["--cpp", "--disable-all", "--enable-core", "--verbose", "-v"] := by
  constructor
  · rintro (⟨key, value⟩ | mem)
    · exact .inl ⟨key, by cases key <;> simp [keys], by simp⟩
    · exact .inr mem
  · rintro (⟨key, -, rest, split⟩ | mem)
    · have text : "--" ++ key.name ++ "=" ++ String.ofList rest = arg := by
        apply String.toList_inj.mp
        rw [← split, String.toList_append, String.toList_ofList]
      exact text ▸ .joined key _
    · exact .flag mem

instance (arg : String) : Decidable (SelfContained arg) :=
  decidable_of_iff _ selfContained_iff.symm

/-- The setting that a self-contained argument makes, unless it is refused. -/
def alone? (arg : String) : Option Setting :=
  match ofText arg with
  | .setting s => some s
  | .letters ['v'] => some .verbose
  | _ => none

theorem SelfContained.ofText_eq {arg : String} (h : SelfContained arg) :
    (∃ s, ofText arg = .setting s) ∨ ofText arg = .letters ['v'] ∨ ofText arg = .exit .usage := by
  cases h with
  | joined key value =>
    rw [ofText_joined]
    cases key.setting? value with
    | none => exact .inr (.inr rfl)
    | some s => exact .inl ⟨s, rfl⟩
  | flag mem =>
    simp only [List.mem_cons, List.not_mem_nil, or_false] at mem
    rcases mem with rfl | rfl | rfl | rfl | rfl
    · exact .inl ⟨.cplusplus, rfl⟩
    · exact .inl ⟨.clearEnabled, rfl⟩
    · exact .inl ⟨.enableCore, rfl⟩
    · exact .inl ⟨.verbose, rfl⟩
    · exact .inr (.inl rfl)

theorem uses_enable_of_ordered {arg : String} (enabling : Invocation.ordered (alone? arg) = true) :
    Uses "enable" arg := by
  unfold alone? at enabling
  split at enabling
  · rename_i s said
    have named : s.option = "enable" := beq_iff_eq.mp enabling
    exact named ▸ uses_of_setting said
  · cases enabling
  · cases enabling

theorem filter_ordered_alone? (args : List String) :
    (args.map alone?).filter Invocation.ordered =
      ((args.filter (Uses "enable" ·)).filter fun arg =>
        Invocation.ordered (alone? arg)).map alone? := by
  rw [List.filter_map, List.filter_filter]
  refine congrArg _ (List.filter_congr fun arg _ => ?_)
  cases enabling : Invocation.ordered (alone? arg) with
  | false => simp [enabling]
  | true => simp [enabling, uses_enable_of_ordered enabling]

end Argument

namespace Invocation

open Argument

/-- The first argument makes its setting, and the others are read from there. -/
theorem readArguments_selfContained_cons {arg : String} (h : SelfContained arg)
    (i : Invocation) (rest : List String) :
    i.readArguments (arg :: rest) =
      match add (some i) (alone? arg) with
      | some next => next.readArguments rest
      | none => .error .usage := by
  rcases h.ofText_eq with ⟨s, said⟩ | said | said
  · simp only [readArguments, said, alone?, add, Option.bind_some, set]
    cases i.set? s <;> rfl
  · simp only [readArguments, said, alone?]
    rfl
  · simp only [readArguments, said, alone?]
    rfl

theorem foldl_add_none (settings : List (Option Setting)) : settings.foldl add none = none := by
  induction settings with
  | nil => rfl
  | cons s? rest ih => exact ih

/-- Self-contained arguments are read as their settings, all of which have to be made. -/
theorem readArguments_selfContained {args : List String} (h : ∀ arg ∈ args, SelfContained arg)
    (i : Invocation) :
    i.readArguments args =
      match (args.map alone?).foldl add (some i) with
      | some i => .ok i
      | none => .error .usage := by
  induction args generalizing i with
  | nil => rfl
  | cons arg rest ih =>
    obtain ⟨first, others⟩ := List.forall_mem_cons.mp h
    rw [readArguments_selfContained_cons first, List.map_cons, List.foldl_cons]
    cases add (some i) (alone? arg) with
    | none => rw [foldl_add_none]
    | some next => exact ih others next

/-- Self-contained arguments write the same invocation in every order that keeps the order of
those which enable extensions. -/
theorem ofArguments_eq_of_perm {args args' : List String} (h : ∀ arg ∈ args, SelfContained arg)
    (perm : args.Perm args')
    (order : args.filter (Uses "enable" ·) = args'.filter (Uses "enable" ·)) :
    ofArguments args = ofArguments args' := by
  have h' : ∀ arg ∈ args', SelfContained arg := fun arg mem => h arg (perm.mem_iff.mpr mem)
  have enabling : (args.map alone?).filter Invocation.ordered =
      (args'.map alone?).filter Invocation.ordered := by
    rw [filter_ordered_alone?, filter_ordered_alone?, order]
  rw [ofArguments, ofArguments, readArguments_selfContained h, readArguments_selfContained h',
    foldl_add_perm (perm.map alone?) enabling]

end Invocation

/-- The whole report is the same for self-contained arguments in every order that keeps the order
of those which enable extensions, whatever values the options have and however often they are
given. -/
theorem Report.ofArguments_perm {files : Files} {args args' : List String}
    (h : ∀ arg ∈ args, Argument.SelfContained arg) (perm : args.Perm args')
    (order : args.filter (Argument.Uses "enable" ·) = args'.filter (Argument.Uses "enable" ·)) :
    ofArguments files args = ofArguments files args' := by
  rw [ofArguments, ofArguments, Invocation.ofArguments_eq_of_perm h perm order]

/-- Arguments that enable two extensions, one of them unknown, before flags are cleared. -/
def scattered : List String :=
  ["--enable=cl_khr_fp64", "-v", "--cl-ext=-all,+cl_khr_fp64", "--enable=cl_unknown", "--cpp",
    "--query=cl_khr_fp64", "--disable-all"]

def gathered : List String :=
  ["--cpp", "--disable-all", "--cl-ext=-all,+cl_khr_fp64", "--query=cl_khr_fp64",
    "--enable=cl_khr_fp64", "--enable=cl_unknown", "-v"]

theorem Report.ofArguments_perm_scattered :
    (∀ arg ∈ scattered, Argument.SelfContained arg) ∧ scattered.Perm gathered ∧
      scattered.filter (Argument.Uses "enable" ·) = gathered.filter (Argument.Uses "enable" ·) ∧
      ofArguments (fun _ => .error .missing) scattered =
        ofArguments (fun _ => .error .missing) gathered := by
  have contained : ∀ arg ∈ scattered, Argument.SelfContained arg := by decide +kernel
  have perm : scattered.Perm gathered := by decide +kernel
  have order : scattered.filter (Argument.Uses "enable" ·) =
      gathered.filter (Argument.Uses "enable" ·) := by decide +kernel
  exact ⟨contained, perm, order, ofArguments_perm contained perm order⟩

end OpenCLRegistry
