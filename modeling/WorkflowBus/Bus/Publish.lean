/-
Publishing an event.

Every handler subscribed to exactly the event's type is invoked, one after the
other in order of subscription.  A handler that fails, panics or runs out of time
is reported and logged, and the next one is invoked all the same.
-/

import WorkflowBus.Bus.Basic

namespace WorkflowBus

structure Outcome where
  handler : HandlerId
  failure : Option Failure
deriving DecidableEq

namespace Outcome

def isCompleted (outcome : Outcome) : Bool :=
  outcome.failure.isNone

end Outcome

/-- What became of one publish call: an outcome for each subscription, in the
order of invocation. -/
structure PublishReport where
  eventId : Uuid
  eventType : EventType
  outcomes : List Outcome
deriving DecidableEq

namespace PublishReport

def handlerCount (report : PublishReport) : Nat :=
  report.outcomes.length

def invoked (report : PublishReport) : List HandlerId :=
  report.outcomes.map Outcome.handler

def failures (report : PublishReport) : List Outcome :=
  report.outcomes.filter fun outcome => !outcome.isCompleted

def failureCount (report : PublishReport) : Nat :=
  report.failures.length

def isClean (report : PublishReport) : Bool :=
  report.failureCount == 0

end PublishReport

namespace EventBus

def failureRecord (event : Event) (id : HandlerId) (failure : Failure) : LogRecord :=
  (LogRecord.error "event handler failed")
    |>.field "event_type" event.eventType.className
    |>.field "event_id" event.id.text
    |>.field "handler" id.text
    |>.field "error" failure.message

def completedTrace (event : Event) (id : HandlerId) : Trace where
  level := .trace
  message := "Event handler completed"
  fields := [("event_type", event.eventType.className), ("handler", id.text)]

def unheardTrace (event : Event) : Trace where
  level := .trace
  message := "No subscribers for event"
  fields := [("event_type", event.eventType.className), ("event_id", event.id.text)]

/-- What the bus itself does after an invocation: it logs a failure and traces a
completion. -/
def account (event : Event) (outcome : Outcome) (scope : Scope) : Scope :=
  match outcome.failure with
  | some failure => scope.mapServices (·.emit (failureRecord event outcome.handler failure))
  | none => scope.mapServices (·.withTraces [completedTrace event outcome.handler])

def deliver (limit : Option Duration) (event : Event) (subscription : Subscription)
    (scope : Scope) : Outcome × Scope :=
  let (scope, failure) := subscription.handler.invoke limit event scope
  let outcome : Outcome := ⟨subscription.id, failure⟩
  (outcome, account event outcome scope)

def deliverAll (limit : Option Duration) (event : Event) :
    List Subscription → Scope → List Outcome × Scope
  | [], scope => ([], scope)
  | subscription :: rest, scope =>
      let (outcome, scope) := deliver limit event subscription scope
      let (outcomes, scope) := deliverAll limit event rest scope
      (outcome :: outcomes, scope)

/-- Publishes an event within a scope.  Publishing never fails; the report tells
what the handlers did. -/
def publish (bus : EventBus) (event : Event) (scope : Scope) : PublishReport × Scope :=
  match bus.table.list? event.eventType with
  | none =>
      (⟨event.id, event.eventType, []⟩, scope.mapServices (·.withTraces [unheardTrace event]))
  | some subscribers =>
      let (outcomes, scope) := deliverAll bus.settings.handlerTimeout event
        (subscribers.map (Subscriber.to event.eventType)) scope
      (⟨event.id, event.eventType, outcomes⟩, scope)

end EventBus
end WorkflowBus
