/-
Answers of the operations interface: the registry, the live subscriptions, and
the compliance check.
-/

import WorkflowBus.Api.Route
import WorkflowBus.Compliance.Check
import WorkflowBus.Services

namespace WorkflowBus

/-- A subscription as it is shown: its place in the order of invocation of its
event type, and its identity. -/
structure SubscriptionView where
  eventType : EventType
  position : Nat
  id : HandlerId
deriving DecidableEq

namespace SubscriptionView

def ofEventType (bus : EventBus) (eventType : EventType) : List SubscriptionView :=
  (bus.handlersFor eventType).zipIdx.map fun (id, position) => ⟨eventType, position, id⟩

def all (bus : EventBus) : List SubscriptionView :=
  bus.eventTypes.flatMap (ofEventType bus)

def ofEntry (bus : EventBus) (entry : Entry) : List SubscriptionView :=
  entry.eventTypes.flatMap (ofEventType bus)

def toJson (view : SubscriptionView) : Json :=
  .obj [("event_type", view.eventType.toJson), ("position", .ofCount view.position),
    ("handler", .str view.id.handler), ("method", .str view.id.method)]

end SubscriptionView

namespace Api

structure State where
  registry : Registry
  bus : EventBus
  expectedEntries : Option Nat

def registryJson (registry : Registry) : Json :=
  .obj [("statistics", registry.statistics.toJson),
    ("entries", .arr (registry.entries.map Entry.toJson))]

def entryJson (bus : EventBus) (entry : Entry) : Json :=
  .obj (entry.members ++
    [("subscriptions", .arr ((SubscriptionView.ofEntry bus entry).map SubscriptionView.toJson))])

def subscriptionsJson (bus : EventBus) : Json :=
  let views := SubscriptionView.all bus
  .obj [("total", .ofCount views.length),
    ("subscriptions", .arr (views.map SubscriptionView.toJson))]

def notFoundJson (name : String) : Json :=
  .obj [("error", .str ("Workflow not found: " ++ name)),
    ("error_code", .str "workflow_not_found"), ("details", .str name)]

def entryAnswer (state : State) (encodedName : String) : Response :=
  match Percent.decode? encodedName with
  | none => .ofBody .badRequest (.text "Invalid URL: Invalid UTF-8 in \x60workflow_name\x60")
  | some name =>
      match state.registry.find? name with
      | some entry => .ofBody .ok (.json (entryJson state.bus entry))
      | none => .ofBody .notFound (.json (notFoundJson name))

def nonCompliantTrace (report : Compliance.Report) (context : OperationContext) : Trace where
  level := .warn
  message := "Compliance check requested on a non-compliant event bus"
  fields := [("violations", toString report.violations.length),
    ("correlation_id", BusSettings.optionText (context.correlationId.map Uuid.text))]

def complianceAnswer (state : State) (context : OperationContext) : Response × List Trace :=
  let report := Compliance.check state.registry state.bus state.expectedEntries
  if report.isCompliant then (.ofBody .ok (.json report.toJson), [])
  else
    (.ofBody .serviceUnavailable (.json report.toJson), [nonCompliantTrace report context])

def routeAnswer (state : State) (context : OperationContext) : Route → Response × List Trace
  | .health => (.ofBody .ok (.text "OK"), [])
  | .registry => (.ofBody .ok (.json (registryJson state.registry)), [])
  | .statistics => (.ofBody .ok (.json state.registry.statistics.toJson), [])
  | .entry encodedName => (entryAnswer state encodedName, [])
  | .subscriptions => (.ofBody .ok (.json (subscriptionsJson state.bus)), [])
  | .compliance => complianceAnswer state context

/-- The answer of a route by method: `GET`, `HEAD`, which is answered without a
body, and no other. -/
def methodAnswer (state : State) (context : OperationContext) (method : String) (route : Route) :
    Response × List Trace :=
  if method = "GET" then routeAnswer state context route
  else if method = "HEAD" then
    let (response, traces) := routeAnswer state context route
    ({ response with headOnly := true }, traces)
  else (.bare .methodNotAllowed, [])

def requestFields (request : Request) : List (String × String) :=
  [("method", request.method), ("uri", (request.uri.dropPath Route.base.length).text)]

def incomingTrace (request : Request) (correlationId : Uuid) : Trace where
  level := .info
  message := "Incoming request"
  fields := requestFields request ++ [("correlation_id", correlationId.text)]

def completedTrace (request : Request) (status : Status) (correlationId : Uuid) : Trace where
  level := .info
  message := "Request completed"
  fields := requestFields request ++
    [("status", status.text), ("correlation_id", correlationId.text)]

/-- Answers a request to a versioned route: it gets a correlation identifier if it
brings none, is traced, and is named in the response. -/
def versionedAnswer (state : State) (request : Request) (route : Route) (services : Services) :
    Response × Services :=
  let (correlationId, context, ids) :=
    (Header.operationContext request.headers).ensureCorrelationId services.ids
  let (response, traces) := methodAnswer state context request.method route
  ({ response with requestId := some correlationId },
    { services with ids := ids }.withTraces <|
      [incomingTrace request correlationId] ++ traces ++
        [completedTrace request response.status correlationId])

/-- Answers a request.  The health check and unknown paths are answered without a
correlation identifier. -/
def answer (state : State) (request : Request) (services : Services) : Response × Services :=
  match Route.ofPath? request.uri.path with
  | none => (.bare .notFound, services)
  | some .health =>
      ((methodAnswer state .empty request.method .health).1, services)
  | some route => versionedAnswer state request route services

end Api
end WorkflowBus
