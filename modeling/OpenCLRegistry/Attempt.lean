import OpenCLRegistry.Error
import OpenCLRegistry.Event

/-!
# Attempts

An operation that may fail can have done something before it does. So its result holds
what it works on, as far as it has come, next to what it says: the events that it has
reported by then, and the error if it has failed.
-/
namespace OpenCLRegistry

/-- What an operation says. -/
structure Reply where
  error : Option Error := none
  events : List Event := []
deriving DecidableEq

structure Attempt (α : Type) extends Reply where
  value : α
deriving DecidableEq

namespace Attempt

variable {α : Type}

/-- The attempt of what cannot fail. -/
def ofLogged (x : Logged α) : Attempt α := { value := x.value, events := x.events }

/-- Goes on from a success; what is reported later comes after. A failure stays as it is. -/
def andThen (x : Attempt α) (f : α → Attempt α) : Attempt α :=
  match x.error with
  | none => { f x.value with events := x.events ++ (f x.value).events }
  | some _ => x

/-- Goes on from a success with something that cannot fail, if that is asked for. -/
def thenIf (x : Attempt α) (asked : Bool) (f : α → Logged α) : Attempt α :=
  if asked then x.andThen fun a => ofLogged (f a) else x

/-- The value of a success, or the error. -/
def toExcept (x : Attempt α) : Except Error α :=
  match x.error with
  | none => .ok x.value
  | some e => .error e

@[simp] theorem toExcept_ofLogged (x : Logged α) : (ofLogged x).toExcept = .ok x.value := rfl

theorem toExcept_andThen (x : Attempt α) (f : α → Attempt α) :
    (x.andThen f).toExcept = x.toExcept.bind fun a => (f a).toExcept := by
  rw [andThen]
  cases failed : x.error <;> simp only [toExcept, failed] <;> rfl

theorem toExcept_thenIf (x : Attempt α) (asked : Bool) (f : α → Logged α) :
    (x.thenIf asked f).toExcept = x.toExcept.map fun a => if asked then (f a).value else a := by
  cases asked with
  | false => exact (id_map x.toExcept).symm
  | true =>
    rw [thenIf, if_pos rfl, toExcept_andThen]
    cases x.toExcept <;> rfl

/-- Whatever part of an attempt reports an event, it is reported. -/
theorem mem_events_andThen {x : Attempt α} {f : α → Attempt α} {event : Event}
    (mem : event ∈ (x.andThen f).events) : event ∈ x.events ∨ event ∈ (f x.value).events := by
  rw [andThen] at mem
  cases failed : x.error with
  | none =>
    rw [failed] at mem
    exact List.mem_append.mp mem
  | some e =>
    rw [failed] at mem
    exact .inl mem

theorem mem_events_thenIf {x : Attempt α} {asked : Bool} {f : α → Logged α} {event : Event}
    (mem : event ∈ (x.thenIf asked f).events) : event ∈ x.events ∨ event ∈ (f x.value).events := by
  cases asked with
  | false => exact .inl mem
  | true =>
    rw [thenIf, if_pos rfl] at mem
    exact mem_events_andThen mem

end Attempt

end OpenCLRegistry
