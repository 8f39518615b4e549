/-
Invocations of workflows.

An invocation publishes the attempted event of a workflow, and later one
succeeded or failed event of the same workflow.  A call that would publish
anything else is rejected: nothing is published, and the invocation stays as it
was.  Events may be published by any publisher.
-/

import WorkflowBus.Bus.Publish

namespace WorkflowBus

inductive InvocationError where
  | notWorkflowEvent (eventType : EventType)
  | unexpectedStage (expected : Stage) (actual : EventType)
  | workflowMismatch (workflow : Workflow) (actual : EventType)
  | alreadyFinished (workflow : Workflow)
deriving DecidableEq

namespace InvocationError

def message : InvocationError → String
  | .notWorkflowEvent eventType => eventType.className ++ " is not a workflow event"
  | .unexpectedStage expected actual =>
      "Expected a " ++ expected.name ++ " event, got " ++ actual.className
  | .workflowMismatch workflow actual =>
      actual.className ++ " does not belong to workflow " ++ workflow.name
  | .alreadyFinished workflow =>
      "Workflow " ++ workflow.name ++ " already published its terminal event"

end InvocationError

/-- A workflow under way: which one, the event that it began with, and whether its
terminal event has been published. -/
structure Invocation where
  workflow : Workflow
  attemptedId : Uuid
  finished : Bool
deriving DecidableEq

namespace Invocation

/-- Something that publishes events, changes a state by that, and reports. -/
abbrev Publisher (state report : Type) := Event → state → report × state

def begun (event : Event) : Except InvocationError Workflow :=
  match event.eventType with
  | .telemetry kind => .error (.notWorkflowEvent (.telemetry kind))
  | .lifecycle workflow stage =>
      if stage = .attempted then .ok workflow
      else .error (.unexpectedStage .attempted (.lifecycle workflow stage))

/-- Whether an event may end an invocation at a stage.  That the invocation is over
is found first, then that the event is foreign, then that its stage is wrong. -/
def admissible (invocation : Invocation) (expected : Stage) (event : Event) :
    Except InvocationError Unit :=
  if invocation.finished then .error (.alreadyFinished invocation.workflow)
  else
    match event.eventType with
    | .telemetry kind => .error (.notWorkflowEvent (.telemetry kind))
    | .lifecycle workflow stage =>
        if workflow ≠ invocation.workflow then
          .error (.workflowMismatch invocation.workflow (.lifecycle workflow stage))
        else if stage ≠ expected then
          .error (.unexpectedStage expected (.lifecycle workflow stage))
        else .ok ()

def start {state report : Type} (publish : Publisher state report) (event : Event)
    (before : state) : Except InvocationError (Invocation × report) × state :=
  match begun event with
  | .error error => (.error error, before)
  | .ok workflow =>
      let (report, after) := publish event before
      (.ok (⟨workflow, event.id, false⟩, report), after)

def finish {state report : Type} (publish : Publisher state report) (invocation : Invocation)
    (expected : Stage) (event : Event) (before : state) :
    Except InvocationError report × Invocation × state :=
  match invocation.admissible expected event with
  | .error error => (.error error, invocation, before)
  | .ok () =>
      let (report, after) := publish event before
      (.ok report, { invocation with finished := true }, after)

def succeed {state report : Type} (publish : Publisher state report) (invocation : Invocation) :
    Event → state → Except InvocationError report × Invocation × state :=
  finish publish invocation .succeeded

def fail {state report : Type} (publish : Publisher state report) (invocation : Invocation) :
    Event → state → Except InvocationError report × Invocation × state :=
  finish publish invocation .failed

/-- The trace left by an invocation that is given up before its terminal event. -/
def dropTrace? (invocation : Invocation) : Option Trace :=
  if invocation.finished then none
  else
    some {
      level := .warn
      message := "Workflow invocation dropped without a terminal event"
      fields := [("workflow", invocation.workflow.name),
        ("attempted_id", invocation.attemptedId.text)] }

end Invocation
end WorkflowBus
