import OpenCLRegistry.FeatureList
import OpenCLRegistry.Language.Text
import OpenCLRegistry.Registry.Change
import OpenCLRegistry.Snapshot.Text

/-!
# Sessions

A registry and a map of target features, worked on by one step after another. A
step either succeeds, and reports events, or it fails with an error; whatever it
does to the session is part of its outcome in both cases. A step that needs a
language may be given one that has still to be checked.
-/
namespace OpenCLRegistry

/-- A language, or what it is to be made from. -/
inductive LanguageSource
  | language (l : Language)
  | numbers (version : UInt32) (cplusplus : Bool)
  | text (json : String)

def LanguageSource.resolve : LanguageSource → Except Error Language
  | .language l => .ok l
  | .numbers version cplusplus => Language.ofNumbers version cplusplus
  | .text json => Language.ofText json

structure Session where
  registry : Registry := .initial
  features : TargetFeatures := .empty
deriving DecidableEq

inductive Step
  | reset
  | setEnabled (name : String) (value : Bool)
  | setSupported (name : String) (value : Bool)
  | clearEnabled
  | enableCore (language : LanguageSource)
  | adopt (language : LanguageSource)
  | startFor (language : LanguageSource)
  | restore (snapshot : Snapshot)
  | restoreText (json : String)
  | resetFeatures
  | insertFeature (name : String) (value : Bool)
  | collectFeatures (pairs : List (String × Bool))
  | replaceFeatures (list : String)
  | extendFeatures (list : String)

structure Outcome extends Reply where
  session : Session

namespace Session

/-- Takes over the registry that an attempt leaves, with what the attempt says. -/
def withRegistry (s : Session) (x : Attempt Registry) : Outcome :=
  { x.toReply with session := { s with registry := x.value } }

def withFeatures (s : Session) (features : TargetFeatures) : Outcome :=
  { session := { s with features } }

/-- Goes on with what has been read, or stays as it was and gives the error. -/
def orFail {α : Type} (s : Session) (x : Except Error α) (f : α → Outcome) : Outcome :=
  match x with
  | .ok a => f a
  | .error e => { session := s, error := some e }

/-- Changes the registry. -/
def change (s : Session) (c : Change) : Outcome := s.withRegistry (s.registry.apply c)

def step (s : Session) : Step → Outcome
  | .reset => s.withRegistry { value := .initial }
  | .setEnabled name value => s.change (.setEnabled name value)
  | .setSupported name value => s.change (.setSupported name value)
  | .clearEnabled => s.change .clearEnabled
  | .enableCore source => s.orFail source.resolve fun l => s.change (.enableCore l)
  | .adopt source => s.orFail source.resolve fun l => s.change (.adopt s.features l)
  | .startFor source =>
    s.orFail source.resolve fun l => s.withRegistry (.ofLogged (Registry.startFor l s.features))
  | .restore snapshot => s.change (.restore snapshot)
  | .restoreText json =>
    s.orFail (Snapshot.ofText json) fun snapshot => s.change (.restore snapshot)
  | .resetFeatures => s.withFeatures .empty
  | .insertFeature name value => s.withFeatures (s.features.insert name value)
  | .collectFeatures pairs => s.withFeatures (.ofPairs pairs)
  | .replaceFeatures list => s.orFail (TargetFeatures.ofList s.registry list) s.withFeatures
  | .extendFeatures list =>
    let (features, error) := TargetFeatures.applyList s.registry list s.features
    { session := { s with features }, error }

/-- The outcomes of steps taken one after the other. A failed step does not stop the next. -/
def run (s : Session) : List Step → List Outcome
  | [] => []
  | step :: rest => s.step step :: (s.step step).session.run rest

/-- The session after steps taken one after the other. -/
def after (s : Session) (steps : List Step) : Session :=
  steps.foldl (fun s step => (s.step step).session) s

end Session

end OpenCLRegistry
