/-
The compliance check.

A registry is checked on its own: the shape of each entry, repeated names, and
event types that several entries declare.  A bus is then checked against it: what
the registry calls for has to be subscribed, and what is subscribed has to be
declared, once, and called for if it is a category's handler.
-/

import WorkflowBus.Bus.Basic
import WorkflowBus.Compliance.Violation
import WorkflowBus.Registry.Basic

namespace WorkflowBus

namespace Entry

def namingProblems (entry : Entry) : List EntryProblem :=
  (if entry.name.isEmpty then [.emptyName] else []) ++
    (if entry.requires .audit && entry.auditAction.isEmpty then [.noAuditAction] else [])

/-- The problem of declaring an event type that is of another family or belongs to
another entry. -/
def membershipProblem? (entry : Entry) (eventType : EventType) : Option EntryProblem :=
  if eventType.family ≠ entry.family then some (.foreignFamily eventType entry.family)
  else if eventType.registryName ≠ entry.name then some (.foreignEntry eventType)
  else none

def countAt (entry : Entry) (stage : Stage) : Nat :=
  entry.eventTypes.countP fun eventType => eventType.stage? == some stage

/-- Problems of how many event types an entry declares: one for each stage of a
workflow, and a single one of an operational kind. -/
def countProblems (entry : Entry) : List EntryProblem :=
  match entry.family with
  | .workflow =>
      Stage.all.filterMap fun stage =>
        if entry.countAt stage ≠ 1 then some (.stageCount stage (entry.countAt stage)) else none
  | .operational =>
      if entry.eventTypes.length ≠ 1 then [.operationalCount entry.eventTypes.length] else []

def problems (entry : Entry) : List EntryProblem :=
  entry.namingProblems ++ entry.eventTypes.filterMap entry.membershipProblem? ++
    entry.countProblems

end Entry

namespace Compliance

/-- The name of the latest entry seen so far that declares each event type. -/
abbrev Declarations := List (EventType × String)

/-- Declares the event types of an entry one by one: the problems with those that
an entry of another name has declared before, and the declarations afterwards. -/
def declare (name : String) :
    (declarations : Declarations) → List EventType → List EntryProblem × Declarations
  | declarations, [] => ([], declarations)
  | declarations, eventType :: rest =>
      let (problems, after) := declare name ((eventType, name) :: declarations) rest
      match declarations.lookup eventType with
      | some owner =>
          if owner = name then (problems, after)
          else (.alreadyDeclared eventType owner :: problems, after)
      | none => (problems, after)

def entryViolations : (names : List String) → Declarations → List Entry → List Violation
  | _, _, [] => []
  | names, declarations, entry :: rest =>
      let (claimed, declarations) := declare entry.name declarations entry.eventTypes
      (if entry.name ∈ names then [.duplicateWorkflow entry.name] else []) ++
        (entry.problems ++ claimed).map (.malformedEntry entry.name) ++
        entryViolations (entry.name :: names) declarations rest

def checkRegistry (registry : Registry) : List Violation :=
  entryViolations [] [] registry.entries

def countViolations (registry : Registry) (expected : Option Nat) : List Violation :=
  match expected with
  | some expected =>
      if registry.size ≠ expected then [.entryCountMismatch expected registry.size] else []
  | none => []

def missingSubscriptions (registry : Registry) (bus : EventBus) : List Violation :=
  registry.entries.flatMap fun entry =>
    entry.expectedSubscriptions.filterMap fun (eventType, category) =>
      let id := HandlerId.ofCategory category eventType
      if id ∈ bus.handlersFor eventType then none
      else some (.missingSubscription entry.name eventType id)

def isCalledFor (entry : Entry) (eventType : EventType) (id : HandlerId) (category : Category) :
    Bool :=
  entry.requires category && category.appliesTo eventType &&
    id.method == eventType.handlerMethod

/-- Whether the registry allows a subscription: its event type has to be declared,
and a category's handler has to be called for. -/
def disallowed (registry : Registry) (eventType : EventType) (id : HandlerId) : List Violation :=
  match registry.owner? eventType with
  | none => [.orphanedSubscription eventType id]
  | some entry =>
      match id.category? with
      | none => []
      | some category =>
          if isCalledFor entry eventType id category then []
          else [.unexpectedSubscription entry.name eventType id]

def subscriptionViolations (registry : Registry) (count : Nat) (eventType : EventType)
    (id : HandlerId) : List Violation :=
  (if 1 < count then [.duplicateSubscription eventType id count] else []) ++
    disallowed registry eventType id

def distinct {α : Type} [DecidableEq α] (items : List α) : List α :=
  items.foldl (fun seen item => if item ∈ seen then seen else seen ++ [item]) []

/-- The violations of what is subscribed, each distinct subscription once. -/
def presentViolations (registry : Registry) (bus : EventBus) : List Violation :=
  (distinct bus.listing).flatMap fun (eventType, id) =>
    subscriptionViolations registry (bus.listing.count (eventType, id)) eventType id

structure Report where
  workflowsChecked : Nat
  subscriptionsChecked : Nat
  violations : List Violation
deriving DecidableEq

def Report.isCompliant (report : Report) : Bool :=
  report.violations.isEmpty

def Report.toJson (report : Report) : Json :=
  .obj [("compliant", .bool report.isCompliant),
    ("workflows_checked", .ofCount report.workflowsChecked),
    ("subscriptions_checked", .ofCount report.subscriptionsChecked),
    ("violations", .arr (report.violations.map Violation.toJson))]

def check (registry : Registry) (bus : EventBus) (expected : Option Nat) : Report where
  workflowsChecked := registry.size
  subscriptionsChecked := bus.subscriptionCount
  violations :=
    checkRegistry registry ++ countViolations registry expected ++
      missingSubscriptions registry bus ++ presentViolations registry bus

end Compliance
end WorkflowBus
