import OpenCLRegistry.Proofs.CommandLine.Arguments

/-!
# The script of an argument list

What arguments say does not depend on what has been set before: they come down to
a script of settings, up to the first reason to stop. Reading arguments is
following their script, and all that is proved of readings is proved of scripts.
-/
namespace OpenCLRegistry

/-- A setting to make, or a reason to stop. -/
abbrev Instruction := Except Exit Setting

namespace Argument

/-- What a flag of one letter says. -/
def ofLetter : Char → Instruction
  | 'v' => .ok .verbose
  | 'h' => .error .help
  | 'V' => .error .version
  | _ => .error .usage

/-- What the value says that stands by itself after an option. -/
def ofSeparateValue (key : OptionKey) (value : String) : Instruction :=
  match if standsAlone value then key.setting? value else none with
  | some s => .ok s
  | none => .error .usage

def script : List String → List Instruction
  | [] => []
  | arg :: rest =>
    match ofText arg with
    | .setting s => .ok s :: script rest
    | .opens key =>
      match rest with
      | [] => [.error .usage]
      | value :: rest => ofSeparateValue key value :: script rest
    | .letters flags => flags.map ofLetter ++ script rest
    | .exit e => [.error e]
    | .endOfOptions => if rest = [] then [] else [.error .usage]

/-- An argument makes a setting, by itself or with the argument after it. -/
def Makes (arg : String) (s : Setting) : Prop :=
  ofText arg = .setting s ∨
    ∃ key value, ofText arg = .opens key ∧ key.setting? value = some s

theorem eq_verbose_of_ofLetter {flag : Char} {s : Setting} (said : ofLetter flag = .ok s) :
    s = .verbose := by
  unfold ofLetter at said
  split at said <;> cases said
  rfl

theorem setting?_of_ofSeparateValue {key : OptionKey} {value : String} {s : Setting}
    (said : ofSeparateValue key value = .ok s) : key.setting? value = some s := by
  unfold ofSeparateValue at said
  split at said
  · rename_i t made
    cases said
    exact (Option.ite_none_right_eq_some.mp made).2
  · cases said

/-- A setting of a script is made by an argument, or it is a mark of verbosity. -/
theorem makes_of_mem_script {s : Setting} {args : List String} (mem : .ok s ∈ script args) :
    s = .verbose ∨ ∃ arg ∈ args, Makes arg s := by
  have later {arg : String} {rest : List String}
      (earlier : s = .verbose ∨ ∃ arg ∈ rest, Makes arg s) :
      s = .verbose ∨ ∃ other ∈ arg :: rest, Makes other s :=
    earlier.imp id fun ⟨other, given, makes⟩ => ⟨other, List.mem_cons_of_mem _ given, makes⟩
  fun_induction script args with
  | case1 => cases mem
  | case2 arg rest made said ih =>
    rcases List.mem_cons.mp mem with here | there
    · cases here
      exact .inr ⟨arg, List.mem_cons_self, .inl said⟩
    · exact later (ih there)
  | case3 arg key said => simp at mem
  | case4 arg key said value rest ih =>
    rcases List.mem_cons.mp mem with here | there
    · have made := setting?_of_ofSeparateValue here.symm
      exact .inr ⟨arg, List.mem_cons_self, .inr ⟨key, value, said, made⟩⟩
    · exact later (later (ih there))
  | case5 arg rest flags said ih =>
    rcases List.mem_append.mp mem with here | there
    · obtain ⟨flag, -, spoken⟩ := List.mem_map.mp here
      exact .inl (eq_verbose_of_ofLetter spoken)
    · exact later (ih there)
  | case6 arg rest e said => simp at mem
  | case7 arg said => cases mem
  | case8 arg rest said more => simp at mem

end Argument

namespace Invocation

def follow (i : Invocation) : List Instruction → Except Exit Invocation
  | [] => .ok i
  | .ok s :: rest =>
    match i.set s with
    | .ok i => i.follow rest
    | .error e => .error e
  | .error e :: _ => .error e

theorem follow_append (i : Invocation) (front back : List Instruction) :
    i.follow (front ++ back) = (i.follow front).bind fun i => i.follow back := by
  induction front generalizing i with
  | nil => rfl
  | cons x rest ih =>
    cases x with
    | error e => rfl
    | ok s =>
      simp only [List.cons_append, follow]
      cases i.set s with
      | error e => rfl
      | ok i => exact ih i

theorem readLetters_eq_follow (i : Invocation) (flags : List Char) :
    i.readLetters flags = i.follow (flags.map Argument.ofLetter) := by
  fun_induction readLetters i flags with
  | case1 i => rfl
  | case2 i rest next set ih =>
    rw [List.map_cons, Argument.ofLetter, follow, set]
    exact ih
  | case3 i rest e failed => rw [List.map_cons, Argument.ofLetter, follow, failed]
  | case4 i rest => rfl
  | case5 i rest => rfl
  | case6 flags i nonempty verbose help version =>
    obtain ⟨flag, rest, rfl⟩ := List.exists_cons_of_ne_nil nonempty
    have unknown : Argument.ofLetter flag = .error .usage := by
      unfold Argument.ofLetter
      split
      · exact absurd rfl (verbose rest)
      · exact absurd rfl (help rest)
      · exact absurd rfl (version rest)
      · rfl
    rw [List.map_cons, unknown, follow]

/-- Reading arguments is following their script. -/
theorem readArguments_eq_follow (i : Invocation) (args : List String) :
    i.readArguments args = i.follow (Argument.script args) := by
  fun_induction readArguments i args with
  | case1 i => rfl
  | case2 i arg rest s said next set ih => simp only [Argument.script, said, follow, set, ih]
  | case3 i arg rest s said e failed => simp only [Argument.script, said, follow, failed]
  | case4 i arg key said => simp only [Argument.script, said, follow]
  | case5 i arg key said value rest refused =>
    simp only [Argument.script, said, Argument.ofSeparateValue, refused, follow]
  | case6 i arg key said value rest s accepted next set ih =>
    simp only [Argument.script, said, Argument.ofSeparateValue, accepted, follow, set, ih]
  | case7 i arg key said value rest s accepted e failed =>
    simp only [Argument.script, said, Argument.ofSeparateValue, accepted, follow, failed]
  | case8 i arg rest flags said next read ih =>
    rw [readLetters_eq_follow] at read
    simp only [Argument.script, said, follow_append, read, Except.bind, ih]
  | case9 i arg rest flags said e failed =>
    rw [readLetters_eq_follow] at failed
    simp only [Argument.script, said, follow_append, failed, Except.bind]
  | case10 i arg rest e said => simp only [Argument.script, said, follow]
  | case11 i arg said => simp only [Argument.script, said, if_true, follow]
  | case12 i arg rest said more => simp only [Argument.script, said, if_neg more, follow]

end Invocation

end OpenCLRegistry
