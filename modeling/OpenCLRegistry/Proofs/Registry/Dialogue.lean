import OpenCLRegistry.Registry.Change

/-!
# Dialogues with a registry

Questions and changes in any order, each answered from what the ones before it
have left. Of a language nothing but its effective version ever matters: two
dialogues in which corresponding languages have the same effective version give
the same responses throughout.
-/
namespace OpenCLRegistry

/-- What can be asked about a name in a language. -/
inductive Question
  | available
  | core
  | optionalCore
  | supported
  | supportedAsCore
  | supportedAsOptionalCore
  | supportedAsFeature
  | supportedAsExtension

inductive Request
  | change (c : Change)
  /-- Begin anew, with what a compilation for a target starts from. -/
  | startFor (l : Language) (features : TargetFeatures)
  | ask (question : Question) (name : String) (l : Language)

structure Response where
  registry : Registry
  report : Reply := {}
  answer : Option Bool := none

namespace Registry

/-- The first three questions are put to a record, so an unknown name gives no answer. -/
def answer (r : Registry) (name : String) (l : Language) : Question → Option Bool
  | .available => (r.find? name).map (·.availableIn l)
  | .core => (r.find? name).map (·.coreIn l)
  | .optionalCore => (r.find? name).map (·.optionalCoreIn l)
  | .supported => some (r.isSupported name l)
  | .supportedAsCore => some (r.isSupportedAsCore name l)
  | .supportedAsOptionalCore => some (r.isSupportedAsOptionalCore name l)
  | .supportedAsFeature => some (r.isSupportedAsFeature name l)
  | .supportedAsExtension => some (r.isSupportedAsExtension name l)

def respond (r : Registry) : Request → Response
  | .change c => { registry := r.changed c, report := r.report c }
  | .startFor l features =>
    let start := startFor l features
    { registry := start.value, report := { events := start.events } }
  | .ask question name l => { registry := r, answer := r.answer name l question }

/-- The responses to requests made one after the other. -/
def responses (r : Registry) : List Request → List Response
  | [] => []
  | request :: rest => r.respond request :: (r.respond request).registry.responses rest

end Registry

/-! ### Languages with the same effective version -/

section EffectiveVersion

variable {l l' : Language} (same : l.effective = l'.effective)

include same

theorem Metadata.availableIn_congr (m : Metadata) : m.availableIn l = m.availableIn l' := by
  simp only [availableIn, same]

theorem Metadata.coreIn_congr (m : Metadata) : m.coreIn l = m.coreIn l' := by
  simp only [coreIn, m.availableIn_congr same, same]

theorem Metadata.optionalCoreIn_congr (m : Metadata) :
    m.optionalCoreIn l = m.optionalCoreIn l' := by
  simp only [optionalCoreIn, m.availableIn_congr same, same]

theorem Record.supportedIn_congr (r : Record) : r.supportedIn l = r.supportedIn l' := by
  simp only [supportedIn, r.availableIn_congr same, r.coreIn_congr same,
    r.optionalCoreIn_congr same]

namespace Registry

theorem answer_congr (r : Registry) (name : String) (question : Question) :
    r.answer name l question = r.answer name l' question := by
  cases question <;>
    simp only [answer, isSupported, isSupportedAsCore, isSupportedAsOptionalCore,
      isSupportedAsFeature, isSupportedAsExtension, Record.supportedAsCoreIn,
      Record.supportedAsOptionalCoreIn, Record.supportedAsExtensionIn,
      Metadata.availableIn_congr same, Metadata.coreIn_congr same,
      Metadata.optionalCoreIn_congr same, Record.supportedIn_congr same]

theorem coreToEnable_congr : coreToEnable l = coreToEnable l' := by
  funext record
  simp only [coreToEnable, record.coreIn_congr same, record.optionalCoreIn_congr same]

theorem next_congr : Uptake.next l = Uptake.next l' := by
  funext u name value
  simp only [Uptake.next, Metadata.availableIn_congr same]

theorem adopt_congr (r : Registry) (features : TargetFeatures) :
    r.adopt features l = r.adopt features l' := by
  simp only [adopt, next_congr same]

theorem enableCore_congr (r : Registry) : r.enableCore l = r.enableCore l' := by
  have each : withCoreEnabled l = withCoreEnabled l' := by
    funext record
    simp only [withCoreEnabled, coreToEnable_congr same]
  simp only [enableCore, each, coreToEnable_congr same]

theorem startFor_congr (features : TargetFeatures) : startFor l features = startFor l' features := by
  have enable : (fun r : Registry => r.enableCore l) = fun r => r.enableCore l' :=
    funext fun r => r.enableCore_congr same
  rw [startFor, startFor, initial.adopt_congr same, enable]

end Registry

end EffectiveVersion

/-! ### Exchanging the languages of a dialogue -/

def Change.mapLanguage (f : Language → Language) : Change → Change
  | .adopt features l => .adopt features (f l)
  | .enableCore l => .enableCore (f l)
  | c => c

def Request.mapLanguage (f : Language → Language) : Request → Request
  | .change c => .change (c.mapLanguage f)
  | .startFor l features => .startFor (f l) features
  | .ask question name l => .ask question name (f l)

namespace Registry

section MapLanguage

variable {f : Language → Language} (same : ∀ l, (f l).effective = l.effective)

include same

theorem apply_mapLanguage (r : Registry) (c : Change) : r.apply (c.mapLanguage f) = r.apply c := by
  cases c with
  | adopt features l => exact congrArg Attempt.ofLogged (r.adopt_congr (same l) features)
  | enableCore l => exact congrArg Attempt.ofLogged (r.enableCore_congr (same l))
  | _ => rfl

theorem respond_mapLanguage (r : Registry) (request : Request) :
    r.respond (request.mapLanguage f) = r.respond request := by
  cases request with
  | change c =>
    simp only [Request.mapLanguage, respond, changed, report, r.apply_mapLanguage same c]
  | startFor l features =>
    simp only [Request.mapLanguage, respond, startFor_congr (same l) features]
  | ask question name l =>
    simp only [Request.mapLanguage, respond, r.answer_congr (same l) name question]

/-- Exchanging languages for others with the same effective versions changes no response. -/
theorem responses_mapLanguage (r : Registry) (requests : List Request) :
    r.responses (requests.map (·.mapLanguage f)) = r.responses requests := by
  induction requests generalizing r with
  | nil => rfl
  | cons request rest ih =>
    rw [List.map_cons, responses, responses, r.respond_mapLanguage same, ih]

end MapLanguage

end Registry

end OpenCLRegistry
