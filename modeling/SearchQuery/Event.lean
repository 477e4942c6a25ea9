import SearchQuery.Json.Writing
import SearchQuery.Options.Basic

/-!
# Events

Some calls report what they rejected, dropped or loaded. An event is data that
stands beside the result of a call; `Traced` pairs the two, and calls made one
after the other report their events in that order.
-/

namespace SearchQuery

inductive Level where
  | trace
  | debug
  | warn
deriving DecidableEq

def Level.name : Level → String
  | trace => "TRACE"
  | debug => "DEBUG"
  | warn => "WARN"

inductive Event where
  | operatorRejected (constraint operator : String)
  | datatypeRejected (name : String)
  | candidateTakenAsValue (candidate : Json)
  | shapeDropped (shape : Json)
  | valuesDiscarded (constraint : String) (count : Nat)
  | optionsLoaded (options : Options)

/-- What an event carries under a name: a text or a count. -/
inductive Detail where
  | text (content : String)
  | count (n : Nat)
deriving DecidableEq

namespace Event

def level : Event → Level
  | operatorRejected _ _ => .debug
  | datatypeRejected _ => .debug
  | candidateTakenAsValue _ => .trace
  | shapeDropped _ => .debug
  | valuesDiscarded _ _ => .warn
  | optionsLoaded _ => .debug

def message : Event → String
  | operatorRejected _ _ => "Rejecting range constraint operator"
  | datatypeRejected _ => "Rejecting unknown datatype"
  | candidateTakenAsValue _ => "Range operator candidate treated as a value"
  | shapeDropped _ => "Dropping unrecognized geospatial shape"
  | valuesDiscarded _ _ =>
    "Discarding mapping and array values mixed with text in custom constraint"
  | optionsLoaded _ => "Loaded search options"

def details : Event → List (String × Detail)
  | operatorRejected constraint operator =>
    [("constraint", .text constraint), ("operator", .text operator)]
  | datatypeRejected name => [("datatype", .text name)]
  | candidateTakenAsValue candidate => [("value", .text candidate.text)]
  | shapeDropped shape => [("shape", .text shape.text)]
  | valuesDiscarded constraint count =>
    [("constraint", .text constraint), ("discarded", .count count)]
  | optionsLoaded options => [("options", .text options.logText)]

end Event

/-- A result and the events reported on the way to it. -/
structure Traced (α : Type) where
  events : List Event
  result : α

namespace Traced

instance : Monad Traced where
  pure result := ⟨[], result⟩
  bind first next :=
    let second := next first.result
    ⟨first.events ++ second.events, second.result⟩

variable {α β : Type}

instance [Inhabited α] : Inhabited (Traced α) := ⟨pure default⟩

def report (event : Event) : Traced Unit := ⟨[event], ()⟩

@[simp] theorem events_pure (result : α) : (pure result : Traced α).events = [] := rfl

@[simp] theorem result_pure (result : α) : (pure result : Traced α).result = result := rfl

@[simp] theorem events_bind (first : Traced α) (next : α → Traced β) :
    (first >>= next).events = first.events ++ (next first.result).events := rfl

@[simp] theorem result_bind (first : Traced α) (next : α → Traced β) :
    (first >>= next).result = (next first.result).result := rfl

@[simp] theorem events_report (event : Event) : (report event).events = [event] := rfl

end Traced

end SearchQuery
