import OpenCLRegistry.Json.Tree

/-!
# Events

What an operation on the registry reports while it works: one event for each
thing that happened, with the level at which a log shows it, the text of the
log line and the named values beside it. An operation that reports has a
`Logged` result.
-/
namespace OpenCLRegistry

inductive LogLevel
  | trace | debug | warn
deriving DecidableEq

inductive Event
  | enabledSet (name : String) (value : Bool)
  | supportedSet (name : String) (value : Bool)
  | notAvailable (name : String)
  | unknownFeature (name : String)
  /-- How many of the requested features took effect. -/
  | supportAdded (applied requested : Nat)
  | allDisabled (entries : Nat)
  /-- How many records were set, those already enabled included. -/
  | coreEnabled (count : Nat)
  | missingFromCatalog (name : String)
  | restored (entries : Nat)
deriving DecidableEq

namespace LogLevel

def label : LogLevel → String
  | .trace => "TRACE"
  | .debug => "DEBUG"
  | .warn => "WARN"

/-- The more a level matters, the higher it stands. -/
def rank : LogLevel → Nat
  | .trace => 0
  | .debug => 1
  | .warn => 2

end LogLevel

namespace Event

def level : Event → LogLevel
  | .notAvailable _ | .unknownFeature _ => .trace
  | .missingFromCatalog _ => .warn
  | _ => .debug

def message : Event → String
  | .enabledSet .. => "enable"
  | .supportedSet .. => "support"
  | .notAvailable _ => "not available in this version, skipped"
  | .unknownFeature _ => "unknown feature, skipped"
  | .supportAdded .. => "add_support"
  | .allDisabled _ => "disable_all"
  | .coreEnabled _ => "enable_supported_core"
  | .missingFromCatalog _ => "restoring option missing from catalog"
  | .restored _ => "restore"

theorem map_level_map {α : Type} {f : α → Event} {level : LogLevel}
    (same : ∀ a, (f a).level = level) (xs : List α) :
    (xs.map f).map Event.level = List.replicate xs.length level := by
  rw [List.map_map, List.map_eq_replicate_iff]
  exact fun a _ => same a

/-- The values shown beside the message. -/
def fields : Event → List (String × Json)
  | .enabledSet name value | .supportedSet name value =>
    [("ext", .str name), ("value", .bool value)]
  | .notAvailable name | .unknownFeature name | .missingFromCatalog name => [("name", .str name)]
  | .supportAdded applied requested => [("applied", .int applied), ("requested", .int requested)]
  | .allDisabled entries | .restored entries => [("entries", .int entries)]
  | .coreEnabled count => [("enabled", .int count)]

end Event

structure Logged (α : Type) where
  value : α
  events : List Event := []
deriving DecidableEq

namespace Logged

/-- Goes on from a result; what is reported later comes after. -/
def andThen {α β : Type} (x : Logged α) (f : α → Logged β) : Logged β :=
  let y := f x.value
  ⟨y.value, x.events ++ y.events⟩

@[simp] theorem value_andThen {α β : Type} (x : Logged α) (f : α → Logged β) :
    (x.andThen f).value = (f x.value).value := rfl

@[simp] theorem events_andThen {α β : Type} (x : Logged α) (f : α → Logged β) :
    (x.andThen f).events = x.events ++ (f x.value).events := rfl

end Logged

end OpenCLRegistry
