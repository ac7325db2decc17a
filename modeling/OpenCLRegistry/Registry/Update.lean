import OpenCLRegistry.Attempt
import OpenCLRegistry.Registry

/-!
# Changing flags

The operations that change the flags of records. None of them adds a name,
removes one or touches metadata. Setting a flag of an unknown name is an error;
the operations on many records at once skip what they cannot apply and report
it.
-/
namespace OpenCLRegistry

/-- What a target reports: for each feature it names, whether it supports it. -/
abbrev TargetFeatures := NameMap Bool

namespace Registry

/-- Sets the record at a name. -/
def put (r : Registry) (name : String) (record : Record) : Registry :=
  ⟨r.records.insert name record⟩

/-- Changes every record in the same way. -/
def updateAll (r : Registry) (f : Record → Record) : Registry := ⟨r.records.mapValues fun _ => f⟩

theorem find?_put (r : Registry) (name other : String) (record : Record) :
    (r.put name record).find? other = if other = name then some record else r.find? other :=
  NameMap.get?_insert ..

@[simp] theorem find?_updateAll (r : Registry) (f : Record → Record) (name : String) :
    (r.updateAll f).find? name = (r.find? name).map f :=
  NameMap.get?_mapValues ..

/-- Changes the record of a name and reports the event. An unknown name is an error. -/
def edit (r : Registry) (name : String) (f : Record → Record) (event : Event) :
    Attempt Registry :=
  match r.find? name with
  | some record => { value := r.put name (f record), events := [event] }
  | none => { value := r, error := some (.unknownExtension name) }

def setEnabled (r : Registry) (name : String) (value : Bool) : Attempt Registry :=
  r.edit name (fun record => { record with enabled := value }) (.enabledSet name value)

def setSupported (r : Registry) (name : String) (value : Bool) : Attempt Registry :=
  r.edit name (fun record => { record with supported := value }) (.supportedSet name value)

/-- How far the taking over of reported features has come. -/
structure Uptake where
  registry : Registry
  applied : Nat := 0
  skipped : List Event := []

/-- Takes over one reported feature. An unknown one is skipped, and so is one
that the language's version does not have. -/
def Uptake.next (l : Language) (u : Uptake) (name : String) (value : Bool) : Uptake :=
  match u.registry.find? name with
  | some record =>
    if record.availableIn l then
      { u with
        registry := u.registry.put name { record with supported := value }
        applied := u.applied + 1 }
    else { u with skipped := u.skipped ++ [.notAvailable name] }
  | none => { u with skipped := u.skipped ++ [.unknownFeature name] }

/-- Takes over what the target reports, in ascending order of the names. Options
that it does not name stay as they are. -/
def adopt (r : Registry) (features : TargetFeatures) (l : Language) : Logged Registry :=
  let u := features.entries.foldl (fun u e => u.next l e.1 e.2) { registry := r : Uptake }
  ⟨u.registry, u.skipped ++ [.supportAdded u.applied features.size]⟩

/-- Clears every enabled flag and leaves the supported flags alone. -/
def clearEnabled (r : Registry) : Logged Registry :=
  ⟨r.updateAll fun record => { record with enabled := false }, [.allDisabled r.size]⟩

/-- Whether bulk enabling sets the record. -/
def coreToEnable (l : Language) (record : Record) : Bool :=
  record.supported && (record.coreIn l || record.optionalCoreIn l)

def withCoreEnabled (l : Language) (record : Record) : Record :=
  if coreToEnable l record then { record with enabled := true } else record

/-- Enables every supported core and optional core feature of the language. -/
def enableCore (r : Registry) (l : Language) : Logged Registry :=
  ⟨r.updateAll (withCoreEnabled l),
    [.coreEnabled (r.records.entries.countP fun e => coreToEnable l e.2)]⟩

/-- The registry a compilation starts with: the target's features taken
over, then its core and optional core features enabled. -/
def startFor (l : Language) (features : TargetFeatures) : Logged Registry :=
  (initial.adopt features l).andThen fun r => r.enableCore l

end Registry

end OpenCLRegistry
