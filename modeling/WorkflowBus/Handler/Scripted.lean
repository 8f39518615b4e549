/-
Scripted handlers, for trying out a bus.

A scripted handler notes its call in the journal and then follows its script.
The script may wait, write audit records through the lent session, and end in
any of the ways in which a handler can end.
-/

import WorkflowBus.Handler.Basic

namespace WorkflowBus

inductive ScriptAction where
  | wait (duration : Duration)
  | record (action : String)
  | answer (error : Event → HandlerError)
  | panic (panic : Panic)

namespace ScriptedHandler

def journalEntry (id : HandlerId) (event : Event) (scope : Scope) : JournalEntry where
  handler := id
  eventId := event.id
  hadContext := scope.context.isSome
  operation := scope.operation?

def note (id : HandlerId) (event : Event) (scope : Scope) : Scope × Option Fault :=
  (scope.mapServices fun services =>
      { services with journal := services.journal ++ [journalEntry id event scope] },
    none)

/-- Writes a record of an action through the lent session; without one the
handler answers an error. -/
def record (action : String) (event : Event) (scope : Scope) : Scope × Option Fault :=
  match scope.context with
  | none => (scope, some (.answered (.other "no context")))
  | some context =>
      match scope.recordInSession context (.ofAction action event.id event.occurredAt) with
      | (.ok _, scope) => (scope, none)
      | (.error error, scope) => (scope, some (.answered (.audit error)))

def step (event : Event) : ScriptAction → HandlerStep
  | .wait duration => .wait duration
  | .record action => .act (record action event)
  | .answer error => .act fun scope => (scope, some (.answered (error event)))
  | .panic panic => .act fun scope => (scope, some (.panicked panic))

def handler (id : HandlerId) (script : List ScriptAction) : Handler :=
  fun event _found => .act (note id event) :: script.map (step event)

end ScriptedHandler
end WorkflowBus
