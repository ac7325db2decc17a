import OpenCLRegistry.Proofs.CommandLine.Script

/-!
# Which options arguments use

Every setting is made by the option of one name, so a list in which no argument
is of that name makes no such setting. Arguments that make a setting can stand
in front of others: they add an instruction to the script of what follows, and
nothing else of it changes. What a setting reads and changes is one part of an
invocation, so whatever leaves this part alone may come before or after it.
-/
namespace OpenCLRegistry

/-- The name of the option that makes a setting. -/
def Setting.option : Setting → String
  | .version _ => "cl-std"
  | .cplusplus => "cpp"
  | .configuration _ => "config"
  | .features _ => "cl-ext"
  | .enable _ => "enable"
  | .clearEnabled => "disable-all"
  | .enableCore => "enable-core"
  | .query _ => "query"
  | .verbose => "verbose"

namespace OptionKey

/-- The name of the option. -/
def name : OptionKey → String
  | .version => "cl-std"
  | .configuration => "config"
  | .features => "cl-ext"
  | .enable => "enable"
  | .query => "query"

theorem eq_name_of_ofName? {name : String} {key : OptionKey} (named : ofName? name = some key) :
    name = key.name := by
  unfold ofName? at named
  split at named <;> cases named <;> rfl

theorem option_of_setting? {key : OptionKey} {value : String} {s : Setting}
    (made : key.setting? value = some s) : s.option = key.name := by
  cases key with
  | version =>
    obtain ⟨n, -, rfl⟩ := Option.map_eq_some_iff.mp made
    rfl
  | configuration =>
    simp only [setting?, Option.ite_none_left_eq_some, Option.some.injEq] at made
    obtain ⟨-, rfl⟩ := made
    rfl
  | features | enable | query =>
    cases made
    rfl

end OptionKey

namespace Argument

theorem ofText_opens (key : OptionKey) : ofText ("--" ++ key.name) = .opens key := by
  cases key
  all_goals
    rw [ofText_name (by decide) (by decide)]
    rfl

theorem ofText_joined (key : OptionKey) (value : String) :
    ofText ("--" ++ key.name ++ "=" ++ value) =
      (key.setting? value).elim (.exit .usage) .setting := by
  have named : OptionKey.ofName? key.name = some key := by cases key <;> rfl
  have plain : '=' ∉ key.name.toList := by cases key <;> decide
  rw [ofText_nameAndValue plain, ofNameAndValue, named, Option.bind_some]
  cases key.setting? value <;> rfl

/-- The argument is the option of a name, with or without a value after an equals sign. -/
def Uses (name arg : String) : Prop :=
  arg = "--" ++ name ∨ ∃ value, arg = "--" ++ name ++ "=" ++ value

theorem uses_iff_isPrefix {name arg : String} :
    Uses name arg ↔ arg = "--" ++ name ∨ ("--" ++ name ++ "=").toList <+: arg.toList := by
  refine or_congr Iff.rfl ⟨?_, ?_⟩
  · rintro ⟨value, rfl⟩
    simp
  · rintro ⟨rest, split⟩
    refine ⟨String.ofList rest, String.ext ?_⟩
    rw [← split]
    simp

instance (name arg : String) : Decidable (Uses name arg) := decidable_of_iff _ uses_iff_isPrefix.symm

theorem Uses.isPrefix {name arg : String} (uses : Uses name arg) :
    ("--" ++ name).toList <+: arg.toList := by
  rcases uses with rfl | ⟨value, rfl⟩
  · exact List.prefix_rfl
  · simp [List.prefix_append]

theorem eq_option_of_ofName {name : String} {s : Setting} (said : ofName name = .setting s) :
    name = s.option := by
  unfold ofName at said
  split at said
  · cases said; rfl
  · cases said; rfl
  · cases said; rfl
  · cases said; rfl
  · cases said
  · cases said
  · split at said <;> cases said

theorem ofName?_of_ofName {name : String} {key : OptionKey} (said : ofName name = .opens key) :
    OptionKey.ofName? name = some key := by
  unfold ofName at said
  split at said <;> try contradiction
  split at said
  · cases said
    assumption
  · cases said

theorem setting?_of_ofNameAndValue {name value : String} {s : Setting}
    (said : ofNameAndValue name value = .setting s) :
    ∃ key, OptionKey.ofName? name = some key ∧ key.setting? value = some s := by
  unfold ofNameAndValue at said
  split at said
  · cases said
    exact Option.bind_eq_some_iff.mp ‹_›
  · cases said

theorem ofNameAndValue_ne_opens (name value : String) (key : OptionKey) :
    ofNameAndValue name value ≠ .opens key := by
  unfold ofNameAndValue
  split <;> simp

theorem uses_of_setting {arg : String} {s : Setting} (said : ofText arg = .setting s) :
    Uses s.option arg := by
  rcases named_of_ofText (.inl ⟨s, said⟩) with
    ⟨name, nonempty, plain, rfl⟩ | ⟨name, value, plain, rfl⟩
  · rw [ofText_name nonempty plain] at said
    rw [← eq_option_of_ofName said]
    exact .inl rfl
  · rw [ofText_nameAndValue plain] at said
    obtain ⟨key, named, made⟩ := setting?_of_ofNameAndValue said
    rw [OptionKey.option_of_setting? made, ← OptionKey.eq_name_of_ofName? named]
    exact .inr ⟨value, rfl⟩

theorem uses_of_opens {arg : String} {key : OptionKey} (said : ofText arg = .opens key) :
    Uses key.name arg := by
  rcases named_of_ofText (.inr ⟨key, said⟩) with
    ⟨name, nonempty, plain, rfl⟩ | ⟨name, value, plain, rfl⟩
  · rw [ofText_name nonempty plain] at said
    rw [← OptionKey.eq_name_of_ofName? (ofName?_of_ofName said)]
    exact .inl rfl
  · rw [ofText_nameAndValue plain] at said
    exact absurd said (ofNameAndValue_ne_opens name value key)

/-- Only marks of verbosity can be set without the name of their option. -/
theorem uses_of_mem_script {s : Setting} {args : List String} (mem : .ok s ∈ script args) :
    s = .verbose ∨ ∃ arg ∈ args, Uses s.option arg := by
  rcases makes_of_mem_script mem with marked | ⟨arg, given, said | ⟨key, value, said, made⟩⟩
  · exact .inl marked
  · exact .inr ⟨arg, given, uses_of_setting said⟩
  · rw [OptionKey.option_of_setting? made]
    exact .inr ⟨arg, given, uses_of_opens said⟩

theorem option_ne_of_mem_script {name : String} (other : name ≠ "verbose") {args : List String}
    (apart : ∀ arg ∈ args, ¬ Uses name arg) {s : Setting} (mem : .ok s ∈ script args) :
    s.option ≠ name := by
  rintro rfl
  rcases uses_of_mem_script mem with rfl | ⟨arg, given, uses⟩
  · exact other rfl
  · exact apart arg given uses

/-- Arguments that make one setting, by one argument or with the value in a second one. -/
inductive Sets : Setting → List String → Prop
  | joined {s : Setting} {arg : String} : ofText arg = .setting s → Sets s [arg]
  | apart {s : Setting} {key : OptionKey} {arg value : String} :
      ofText arg = .opens key → ofSeparateValue key value = .ok s → Sets s [arg, value]

theorem Sets.script {s : Setting} {given : List String} (h : Sets s given) (rest : List String) :
    script (given ++ rest) = .ok s :: script rest := by
  cases h with
  | joined said => simp only [List.cons_append, List.nil_append, Argument.script, said]
  | apart said made => simp only [List.cons_append, List.nil_append, Argument.script, said, made]

end Argument

namespace Invocation

theorem readArguments_sets {i next : Invocation} {s : Setting} {given : List String}
    (h : Argument.Sets s given) (made : i.set? s = some next) (rest : List String) :
    i.readArguments (given ++ rest) = next.readArguments rest := by
  rw [readArguments_eq_follow, readArguments_eq_follow, h.script, follow, set, made]

/-- A map on invocations that commutes with every setting of a script commutes with it. -/
theorem follow_map {f : Invocation → Invocation} {script : List Instruction}
    (commutes : ∀ s, .ok s ∈ script → ∀ i : Invocation, (f i).set? s = (i.set? s).map f)
    (i : Invocation) : (f i).follow script = (i.follow script).map f := by
  induction script generalizing i with
  | nil => rfl
  | cons x rest ih =>
    cases x with
    | error e => rfl
    | ok s =>
      rw [follow, follow, set, set, commutes s List.mem_cons_self]
      cases i.set? s with
      | none => rfl
      | some next => exact ih (fun s mem => commutes s (List.mem_cons_of_mem _ mem)) next

theorem readArguments_map {f : Invocation → Invocation} {args : List String}
    (commutes : ∀ s, .ok s ∈ Argument.script args →
      ∀ i : Invocation, (f i).set? s = (i.set? s).map f)
    (i : Invocation) : (f i).readArguments args = (i.readArguments args).map f := by
  rw [readArguments_eq_follow, readArguments_eq_follow]
  exact follow_map commutes i

/-! ## What a setting changes -/

/-- The setting has been made and may not be made again. -/
def taken (i : Invocation) : Setting → Bool
  | .version _ => i.version.isSome
  | .cplusplus => i.cplusplus
  | .configuration _ => i.configuration.isSome
  | .features _ => i.features.isSome
  | .clearEnabled => i.clearEnabled
  | .enableCore => i.enableCore
  | .query _ => i.query.isSome
  | .enable _ | .verbose => false

/-- The invocation with a setting, whatever has been set before. -/
def put (i : Invocation) : Setting → Invocation
  | .version number => { i with version := some number }
  | .cplusplus => { i with cplusplus := true }
  | .configuration path => { i with configuration := some path }
  | .features list => { i with features := some list }
  | .enable name => { i with enables := i.enables ++ [name] }
  | .clearEnabled => { i with clearEnabled := true }
  | .enableCore => { i with enableCore := true }
  | .query name => { i with query := some name }
  | .verbose => { i with verbosity := i.verbosity + 1 }

theorem set?_eq (i : Invocation) (s : Setting) :
    i.set? s = if i.taken s then none else some (i.put s) := by
  cases s with
  | version => cases h : i.version <;> simp [set?, taken, put, h]
  | configuration => cases h : i.configuration <;> simp [set?, taken, put, h]
  | features => cases h : i.features <;> simp [set?, taken, put, h]
  | query => cases h : i.query <;> simp [set?, taken, put, h]
  | cplusplus | clearEnabled | enableCore | enable | verbose => rfl

/-- A map that leaves alone what a setting reads and changes can be exchanged with it. -/
theorem set?_map {f : Invocation → Invocation} {i : Invocation} {s : Setting}
    (unseen : (f i).taken s = i.taken s) (kept : (f i).put s = f (i.put s)) :
    (f i).set? s = (i.set? s).map f := by
  rw [set?_eq, set?_eq, unseen, kept]
  cases i.taken s <;> rfl

/-! ## The question -/

/-- The invocation with another question, or with none. -/
def asking (query : Option String) (i : Invocation) : Invocation := { i with query }

theorem set?_asking (query : Option String) (i : Invocation) {s : Setting}
    (other : s.option ≠ "query") : (i.asking query).set? s = (i.set? s).map (asking query) := by
  cases s with
  | query => exact absurd rfl other
  | _ => exact set?_map rfl rfl

/-- Arguments that ask nothing are read alike after any question. -/
theorem readArguments_asking (query : Option String) {args : List String}
    (unasked : ∀ arg ∈ args, ¬ Argument.Uses "query" arg) (i : Invocation) :
    (i.asking query).readArguments args = (i.readArguments args).map (asking query) :=
  readArguments_map (fun _ mem i => i.set?_asking query
    (Argument.option_ne_of_mem_script (by decide) unasked mem)) i

theorem query_eq_none {args : List String} (unasked : ∀ arg ∈ args, ¬ Argument.Uses "query" arg)
    {i : Invocation} (read : ofArguments args = .ok i) : i.query = none := by
  have same : ofArguments args = (ofArguments args).map (asking none) :=
    readArguments_asking none unasked {}
  rw [read] at same
  rw [Except.ok.inj same]
  rfl

end Invocation

end OpenCLRegistry
