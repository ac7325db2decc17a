import OpenCLRegistry.Snapshot

/-!
# Changes

The operations on a registry as data, so that a run of them can be spoken of: a
change is applied to a registry, and a list of changes to what each one before it
has left. A change that fails counts with whatever it has done by then.
-/
namespace OpenCLRegistry

inductive Change
  | setEnabled (name : String) (value : Bool)
  | setSupported (name : String) (value : Bool)
  | adopt (features : TargetFeatures) (l : Language)
  | clearEnabled
  | enableCore (l : Language)
  | restore (snapshot : Snapshot)

namespace Registry

def apply (r : Registry) : Change → Attempt Registry
  | .setEnabled name value => r.setEnabled name value
  | .setSupported name value => r.setSupported name value
  | .adopt features l => .ofLogged (r.adopt features l)
  | .clearEnabled => .ofLogged r.clearEnabled
  | .enableCore l => .ofLogged (r.enableCore l)
  | .restore snapshot => .ofLogged (r.restore snapshot)

/-- The registry after a change, whether the change has failed or not. -/
def changed (r : Registry) (c : Change) : Registry := (r.apply c).value

/-- Whether a change fails, and what it reports. -/
def report (r : Registry) (c : Change) : Reply := (r.apply c).toReply

/-- The registry after a run of changes. -/
def after (r : Registry) (changes : List Change) : Registry := changes.foldl changed r

/-- What the changes of a run report, each in its turn. -/
def reports (r : Registry) : List Change → List Reply
  | [] => []
  | c :: rest => r.report c :: (r.changed c).reports rest

/-- The registry can come about from the initial one. -/
def Reachable (r : Registry) : Prop := ∃ changes, r = initial.after changes

theorem after_append (r : Registry) (first second : List Change) :
    r.after (first ++ second) = (r.after first).after second :=
  List.foldl_append

theorem Reachable.after {r : Registry} (h : r.Reachable) (changes : List Change) :
    (r.after changes).Reachable := by
  obtain ⟨before, rfl⟩ := h
  exact ⟨before ++ changes, (after_append initial before changes).symm⟩

end Registry

end OpenCLRegistry
