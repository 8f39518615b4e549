/-
Handlers and their invocation.

A handler treats an event by a sequence of steps, which may depend on the scope that
it finds.  A step either waits or acts; an action changes the scope of the call and
may end the invocation with a fault.
An invocation under a time limit is cut off by the wait that takes its waiting
beyond the limit; what was done before stays done.
-/

import WorkflowBus.Handler.Failure
import WorkflowBus.Services

namespace WorkflowBus

inductive HandlerStep where
  | wait (duration : Duration)
  | act (action : Scope → Scope × Option Fault)

/-- A handler: what it does for an event in the scope that it finds, step by step. -/
abbrev Handler := Event → Scope → List HandlerStep

namespace Handler

def atomic (action : Event → Scope → Scope × Option Fault) : Handler :=
  fun event _found => [.act (action event)]

def stepAside : HandlerStep → HandlerStep
  | .wait duration => .wait duration
  | .act action =>
      .act fun scope =>
        let (scope, fault) := action (scope.mapServices Services.exchanged)
        (scope.mapServices Services.exchanged, fault)

/-- A handler that works with the collaborators that are set aside. -/
def aside (handler : Handler) : Handler :=
  fun event found => (handler event (found.mapServices Services.exchanged)).map stepAside

def exceeds (waited : Nat) : (limit : Option Duration) → Option Duration
  | some limit => if limit.milliseconds < waited then some limit else none
  | none => none

/-- Runs the steps of an invocation that has waited for `waited` milliseconds. -/
def run (limit : Option Duration) (waited : Nat) :
    List HandlerStep → Scope → Scope × Option Failure
  | [], scope => (scope, none)
  | .wait duration :: rest, scope =>
      match exceeds (waited + duration.milliseconds) limit with
      | some limit => (scope, some (.timedOut limit))
      | none => run limit (waited + duration.milliseconds) rest scope
  | .act action :: rest, scope =>
      match action scope with
      | (scope, none) => run limit waited rest scope
      | (scope, some fault) => (scope, some (.ofFault fault))

def invoke (handler : Handler) (limit : Option Duration) (event : Event) (scope : Scope) :
    Scope × Option Failure :=
  run limit 0 (handler event scope) scope

end Handler
end WorkflowBus
