import OpenCLRegistry.CommandLine.Report
import OpenCLRegistry.Proofs.CommandLine.Options
import OpenCLRegistry.Proofs.Registry.Dialogue

/-!
# The choice of the language on the command line

Three options choose the language, and nothing else that is read from the
arguments depends on what they have set. So the arguments that follow a choice are
read in the same way after any other one, and two choices with the same effective
version give the same report.
-/
namespace OpenCLRegistry

def Setting.choosesLanguage : Setting → Bool
  | .version _ | .cplusplus | .configuration _ => true
  | _ => false

namespace Argument

/-- The argument is one of the options that choose the language. -/
def UsesLanguage (arg : String) : Prop := Uses "cl-std" arg ∨ Uses "cpp" arg ∨ Uses "config" arg

instance (arg : String) : Decidable (UsesLanguage arg) :=
  inferInstanceAs (Decidable (Uses "cl-std" arg ∨ Uses "cpp" arg ∨ Uses "config" arg))

theorem UsesLanguage.isPrefix {arg : String} (uses : UsesLanguage arg) :
    ∃ name ∈ ["cl-std", "cpp", "config"], ("--" ++ name).toList <+: arg.toList := by
  rcases uses with uses | uses | uses
  all_goals exact ⟨_, by simp, uses.isPrefix⟩

theorem usesLanguage_of_choosesLanguage {s : Setting} {arg : String} (uses : Uses s.option arg)
    (chosen : s.choosesLanguage = true) : UsesLanguage arg := by
  cases s with
  | version => exact .inl uses
  | cplusplus => exact .inr (.inl uses)
  | configuration => exact .inr (.inr uses)
  | _ => cases chosen

theorem choosesLanguage_of_mem_script {s : Setting} {args : List String}
    (apart : ∀ arg ∈ args, ¬ UsesLanguage arg) (mem : .ok s ∈ script args) :
    s.choosesLanguage = false := by
  by_contra chosen
  rw [Bool.not_eq_false] at chosen
  rcases uses_of_mem_script mem with rfl | ⟨arg, given, uses⟩
  · cases chosen
  · exact apart arg given (usesLanguage_of_choosesLanguage uses chosen)

end Argument

/-- What chooses the language of a compilation. -/
structure LanguageChoice where
  version : Option UInt32 := none
  cplusplus : Bool := false
  configuration : Option String := none

namespace Invocation

/-- The invocation with another choice of the language. -/
def choosing (c : LanguageChoice) (i : Invocation) : Invocation :=
  { i with version := c.version, cplusplus := c.cplusplus, configuration := c.configuration }

theorem set?_choosing (i : Invocation) (c : LanguageChoice) {s : Setting}
    (apart : s.choosesLanguage = false) :
    (i.choosing c).set? s = (i.set? s).map (choosing c) := by
  cases s with
  | version | cplusplus | configuration => cases apart
  | _ => exact set?_map rfl rfl

/-- The rest of the arguments is read alike after any choice of the language. -/
theorem readArguments_choosing (c : LanguageChoice) (i : Invocation) {args : List String}
    (apart : ∀ arg ∈ args, ¬ Argument.UsesLanguage arg) :
    (i.choosing c).readArguments args = (i.readArguments args).map (choosing c) :=
  readArguments_map (fun _ mem i => i.set?_choosing c
    (Argument.choosesLanguage_of_mem_script apart mem)) i

end Invocation

section EffectiveVersion

variable {l l' : Language} (same : l.effective = l'.effective)

include same

theorem Registry.answers_congr (r : Registry) (name : String) :
    r.answers l name = r.answers l' name := by
  have supported := Option.some.inj (r.answer_congr same name .supported)
  have core := Option.some.inj (r.answer_congr same name .supportedAsCore)
  have optionalCore := Option.some.inj (r.answer_congr same name .supportedAsOptionalCore)
  have extension := Option.some.inj (r.answer_congr same name .supportedAsExtension)
  simp only [answers, supported, core, optionalCore, extension]

namespace Invocation

theorem shown_congr (i : Invocation) (r : Registry) : i.shown l r = i.shown l' r := by
  unfold shown
  cases i.query with
  | none => rfl
  | some name => exact r.answers_congr same name

theorem registry_congr (i : Invocation) : i.registry l = i.registry l' := by
  have enable : (fun r : Registry => r.enableCore l) = fun r => r.enableCore l' :=
    funext fun r => r.enableCore_congr same
  simp only [registry, Registry.adopt_congr same, enable]

/-- Of the choice of the language a run sees the effective version only. -/
theorem run_choosing (i : Invocation) (files : Files) {c c' : LanguageChoice}
    (chosen : (i.choosing c).language files = .ok l)
    (chosen' : (i.choosing c').language files = .ok l') :
    (i.choosing c).run files = (i.choosing c').run files := by
  have built : (i.choosing c).registry l = (i.choosing c').registry l' := i.registry_congr same
  have shows : (i.choosing c).shown l = (i.choosing c').shown l' :=
    funext fun r => (i.choosing c).shown_congr same r
  simp only [run, chosen, chosen', built, shows]

end Invocation

theorem Report.ofInvocation_choosing (i : Invocation) (files : Files) {c c' : LanguageChoice}
    (chosen : (i.choosing c).language files = .ok l)
    (chosen' : (i.choosing c').language files = .ok l') :
    ofInvocation files (i.choosing c) = ofInvocation files (i.choosing c') := by
  rw [ofInvocation, ofInvocation, i.run_choosing same files chosen chosen']
  rfl

/-- Two argument lists that end alike and choose languages of the same effective version
before give the same report. -/
theorem Report.ofArguments_choosing {files : Files} {c c' : LanguageChoice}
    (chosen : ∀ i : Invocation, (i.choosing c).language files = .ok l)
    (chosen' : ∀ i : Invocation, (i.choosing c').language files = .ok l')
    {given given' args : List String} (apart : ∀ arg ∈ args, ¬ Argument.UsesLanguage arg)
    (read : Invocation.ofArguments given = (Invocation.choosing c {}).readArguments args)
    (read' : Invocation.ofArguments given' = (Invocation.choosing c' {}).readArguments args) :
    ofArguments files given = ofArguments files given' := by
  rw [Invocation.readArguments_choosing c _ apart] at read
  rw [Invocation.readArguments_choosing c' _ apart] at read'
  rw [ofArguments, ofArguments, read, read']
  cases Invocation.readArguments {} args with
  | error e => rfl
  | ok i => exact ofInvocation_choosing same i files (chosen i) (chosen' i)

end EffectiveVersion

end OpenCLRegistry
