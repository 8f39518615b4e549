/-
Entries of the registry.

An entry declares the event types of one workflow or of one operational kind,
the categories of handlers that have to treat them, and the name under which
the audit trail classifies them.  Entries may be malformed; the compliance
check says so.
-/

import WorkflowBus.Registry.Category

namespace WorkflowBus

structure Obligations where
  logging : Bool
  audit : Bool
  notification : Bool
  invalidation : Bool
deriving DecidableEq

namespace Obligations

def none : Obligations where
  logging := false
  audit := false
  notification := false
  invalidation := false

def contains (obligations : Obligations) : Category → Bool
  | .logging => obligations.logging
  | .audit => obligations.audit
  | .notification => obligations.notification
  | .invalidation => obligations.invalidation

def insert (obligations : Obligations) : Category → Obligations
  | .logging => { obligations with logging := true }
  | .audit => { obligations with audit := true }
  | .notification => { obligations with notification := true }
  | .invalidation => { obligations with invalidation := true }

def ofList (categories : List Category) : Obligations :=
  categories.foldl insert none

def toList (obligations : Obligations) : List Category :=
  Category.all.filter obligations.contains

end Obligations

structure Entry where
  name : String
  family : Family
  eventTypes : List EventType
  obligations : Obligations
  auditAction : String
deriving DecidableEq

namespace Entry

def ofWorkflow (workflow : Workflow) (auditAction : String) : Entry where
  name := workflow.name
  family := .workflow
  eventTypes := workflow.eventTypes
  obligations := .none
  auditAction := auditAction

def ofKind (kind : OperationalKind) (auditAction : String) : Entry where
  name := kind.name
  family := .operational
  eventTypes := [.telemetry kind]
  obligations := .none
  auditAction := auditAction

def requiring (entry : Entry) (category : Category) : Entry :=
  { entry with obligations := entry.obligations.insert category }

def requires (entry : Entry) (category : Category) : Bool :=
  entry.obligations.contains category

def requiredCategories (entry : Entry) : List Category :=
  entry.obligations.toList

/-- Every pair of an event type and a category that the entry calls for: the
required categories that apply to each event type. -/
def expectedSubscriptions (entry : Entry) : List (EventType × Category) :=
  entry.eventTypes.flatMap fun eventType =>
    (entry.requiredCategories.filter fun category => category.appliesTo eventType).map
      fun category => (eventType, category)

def eventTypeAt? (entry : Entry) (stage : Stage) : Option EventType :=
  entry.eventTypes.find? fun eventType => eventType.stage? == some stage

/-- The audit action of an event type: the entry's action, followed by the stage
of a workflow event. -/
def auditActionFor (entry : Entry) (eventType : EventType) : String :=
  match eventType.stage? with
  | some stage => entry.auditAction ++ "." ++ stage.name
  | none => entry.auditAction

def members (entry : Entry) : List (String × Json) :=
  [("workflow_name", .str entry.name),
    ("family", .str entry.family.name),
    ("event_classes", .arr (entry.eventTypes.map EventType.toJson)),
    ("requires_logging", .bool entry.obligations.logging),
    ("requires_audit", .bool entry.obligations.audit),
    ("requires_notification", .bool entry.obligations.notification),
    ("requires_invalidation", .bool entry.obligations.invalidation),
    ("audit_action_name", .str entry.auditAction)]

def toJson (entry : Entry) : Json :=
  .obj entry.members

end Entry
end WorkflowBus
