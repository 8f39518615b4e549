/-
Violations: single inconsistencies of a registry, or between a registry and a
bus.
-/

import WorkflowBus.Handler.Id

namespace WorkflowBus

inductive EntryProblem where
  | emptyName
  | noAuditAction
  | foreignFamily (eventType : EventType) (family : Family)
  | foreignEntry (eventType : EventType)
  | stageCount (stage : Stage) (found : Nat)
  | operationalCount (found : Nat)
  | alreadyDeclared (eventType : EventType) (owner : String)
deriving DecidableEq

namespace EntryProblem

def message : EntryProblem → String
  | .emptyName => "workflow name is empty"
  | .noAuditAction => "requires audit but has no audit action name"
  | .foreignFamily eventType family =>
      eventType.className ++ " is a " ++ eventType.family.name ++ " event in a " ++
        family.name ++ " entry"
  | .foreignEntry eventType => eventType.className ++ " belongs to " ++ eventType.registryName
  | .stageCount stage found =>
      "expected one " ++ stage.name ++ " class, found " ++ toString found
  | .operationalCount found => "expected one operational class, found " ++ toString found
  | .alreadyDeclared eventType owner =>
      eventType.className ++ " is already declared by " ++ owner

end EntryProblem

inductive Violation where
  | malformedEntry (entry : String) (problem : EntryProblem)
  | duplicateWorkflow (entry : String)
  | missingSubscription (entry : String) (eventType : EventType) (handler : HandlerId)
  | orphanedSubscription (eventType : EventType) (handler : HandlerId)
  | unexpectedSubscription (entry : String) (eventType : EventType) (handler : HandlerId)
  | duplicateSubscription (eventType : EventType) (handler : HandlerId) (count : Nat)
  | entryCountMismatch (expected actual : Nat)
deriving DecidableEq

namespace Violation

def message : Violation → String
  | .malformedEntry entry problem =>
      "Registry entry " ++ entry ++ " is malformed: " ++ problem.message
  | .duplicateWorkflow entry => "Registry entry " ++ entry ++ " is declared more than once"
  | .missingSubscription entry eventType handler =>
      entry ++ " requires " ++ handler.text ++ " for " ++ eventType.className ++
        " but it is not subscribed"
  | .orphanedSubscription eventType handler =>
      handler.text ++ " is subscribed to " ++ eventType.className ++
        ", which no registry entry declares"
  | .unexpectedSubscription entry eventType handler =>
      handler.text ++ " is subscribed to " ++ eventType.className ++ " but " ++ entry ++
        " does not require it"
  | .duplicateSubscription eventType handler count =>
      handler.text ++ " is subscribed to " ++ eventType.className ++ " " ++ toString count ++
        " times"
  | .entryCountMismatch expected actual =>
      "Registry has " ++ toString actual ++ " entries, expected " ++ toString expected

def toJson : Violation → Json
  | .malformedEntry entry problem =>
      .obj [("kind", .str "malformed_entry"), ("workflow_name", .str entry),
        ("problem", .str problem.message)]
  | .duplicateWorkflow entry =>
      .obj [("kind", .str "duplicate_workflow"), ("workflow_name", .str entry)]
  | .missingSubscription entry eventType handler =>
      .obj [("kind", .str "missing_subscription"), ("workflow_name", .str entry),
        ("event_type", eventType.toJson), ("handler", handler.toJson)]
  | .orphanedSubscription eventType handler =>
      .obj [("kind", .str "orphaned_subscription"), ("event_type", eventType.toJson),
        ("handler", handler.toJson)]
  | .unexpectedSubscription entry eventType handler =>
      .obj [("kind", .str "unexpected_subscription"), ("workflow_name", .str entry),
        ("event_type", eventType.toJson), ("handler", handler.toJson)]
  | .duplicateSubscription eventType handler count =>
      .obj [("kind", .str "duplicate_subscription"), ("event_type", eventType.toJson),
        ("handler", handler.toJson), ("count", .ofCount count)]
  | .entryCountMismatch expected actual =>
      .obj [("kind", .str "entry_count_mismatch"), ("expected", .ofCount expected),
        ("actual", .ofCount actual)]

end Violation
end WorkflowBus
