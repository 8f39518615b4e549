/-
The categories of handlers.

Every subscription that a registry calls for belongs to one of four categories.
Logging and audit treat every event type; notification and invalidation treat
only what has succeeded, and operational facts.
-/

import WorkflowBus.Event.Taxonomy

namespace WorkflowBus

inductive Category where
  | logging
  | audit
  | notification
  | invalidation
deriving DecidableEq

namespace Category

/-- The categories in the order in which their handlers are called. -/
def all : List Category :=
  [.logging, .audit, .notification, .invalidation]

def name : Category → String
  | .logging => "logging"
  | .audit => "audit"
  | .notification => "notification"
  | .invalidation => "invalidation"

def ofName? (name : String) : Option Category :=
  all.find? fun category => category.name = name

def rank : Category → Nat
  | .logging => 0
  | .audit => 1
  | .notification => 2
  | .invalidation => 3

/-- The category treats events of the type at all. -/
def appliesTo (category : Category) (eventType : EventType) : Bool :=
  match category with
  | .logging | .audit => true
  | .notification | .invalidation =>
      match eventType with
      | .lifecycle _ stage => stage == .succeeded
      | .telemetry _ => true

end Category
end WorkflowBus
