import OpenCLRegistry.Proofs.CommandLine.LanguageChoice

/-!
# C++ mode

C++ mode is plain version 2.0 under another name. A registry cannot tell the two
apart, whatever nominal version the mode carries and whatever has been asked and
changed before, and neither can anyone who looks at the program's output.
-/
namespace OpenCLRegistry

namespace Language

/-- The language with version 2.0 of C in place of C++ mode. -/
def asC : Language → Language
  | .c version => .c version
  | .cplusplus _ => .c .v20

theorem effective_asC (l : Language) : l.asC.effective = l.effective := by cases l <;> rfl

end Language

/-- The choice that a run makes in C++ mode with a nominal version. -/
def LanguageChoice.nominal (n : UInt32) : LanguageChoice := { version := some n, cplusplus := true }

def LanguageChoice.v20 : LanguageChoice := { version := some 200 }

theorem Invocation.ofArguments_cplusplus (n : UInt32) (args : List String) :
    ofArguments ("--cpp" :: ("--cl-std=" ++ toString n.toNat) :: args) =
      (choosing (.nominal n) {}).readArguments args := by
  have mode : ofArguments ("--cpp" :: ("--cl-std=" ++ toString n.toNat) :: args) =
      readArguments { cplusplus := true } (("--cl-std=" ++ toString n.toNat) :: args) :=
    readArguments_sets (.joined Argument.ofText_cplusplus) rfl _
  rw [mode]
  exact readArguments_sets (.joined (Argument.ofText_version n)) rfl args

theorem Invocation.ofArguments_v20 (args : List String) :
    ofArguments ("--cl-std=200" :: args) = (choosing .v20 {}).readArguments args := by
  have text : "--cl-std=200" = "--cl-std=" ++ toString (200 : UInt32).toNat := by decide
  rw [text]
  exact readArguments_sets (.joined (Argument.ofText_version 200)) rfl args

/-- Exchanging C++ mode for version 2.0 of C changes no response of a dialogue with a registry:
no registry, no answer and no event. On the command line it changes nothing of the report,
provided that the arguments which follow do not choose a language themselves. -/
theorem cplusplus_indistinguishable :
    Language.ofNumbers 200 false = .ok (.c .v20) ∧
    (∀ (r : Registry) (requests : List Request),
      r.responses (requests.map (·.mapLanguage Language.asC)) = r.responses requests) ∧
    ∀ (files : Files) (n : UInt32) (args : List String),
      (∀ arg ∈ args, ¬ Argument.UsesLanguage arg) →
      Report.ofArguments files ("--cpp" :: ("--cl-std=" ++ toString n.toNat) :: args) =
        Report.ofArguments files ("--cl-std=200" :: args) := by
  refine ⟨rfl, fun r requests => ?_, fun files n args apart => ?_⟩
  · exact r.responses_mapLanguage Language.effective_asC requests
  · have nominal (i : Invocation) :
        (i.choosing (.nominal n)).language files = .ok (.cplusplus n) := rfl
    have plain (i : Invocation) : (i.choosing .v20).language files = .ok (.c .v20) := rfl
    have same : (Language.cplusplus n).effective = (Language.c .v20).effective := rfl
    exact Report.ofArguments_choosing same nominal plain apart
      (Invocation.ofArguments_cplusplus n args) (Invocation.ofArguments_v20 args)

/-- Arguments that ask for a feature which is core in version 2.0 alone. -/
def imageWrites : List String :=
  ["--cl-ext=+all", "--enable-core", "--query", "cl_khr_3d_image_writes"]

theorem cplusplus_indistinguishable_imageWrites :
    (∀ arg ∈ imageWrites, ¬ Argument.UsesLanguage arg) ∧
      Report.ofArguments (fun _ => .error .missing)
          ("--cpp" :: ("--cl-std=" ++ toString (130 : UInt32).toNat) :: imageWrites) =
        Report.ofArguments (fun _ => .error .missing) ("--cl-std=200" :: imageWrites) := by
  have apart : ∀ arg ∈ imageWrites, ¬ Argument.UsesLanguage arg := by
    have fronts : ∀ arg ∈ imageWrites, ¬ ∃ name ∈ ["cl-std", "cpp", "config"],
        ("--" ++ name).toList <+: arg.toList := by decide
    exact fun arg mem uses => fronts arg mem uses.isPrefix
  exact ⟨apart, cplusplus_indistinguishable.2.2 _ 130 imageWrites apart⟩

end OpenCLRegistry
