/-
How the invocation of a handler fails.
-/

import WorkflowBus.Audit.Trail
import WorkflowBus.Handler.Id
import WorkflowBus.Notification
import WorkflowBus.SessionStore
import WorkflowBus.Text.Decimal

namespace WorkflowBus

/-- A span of time in whole milliseconds. -/
structure Duration where
  milliseconds : Nat
deriving DecidableEq

namespace Duration

def trimmed (digits : List Char) : List Char :=
  (digits.reverse.dropWhile (· == '0')).reverse

/-- Seconds with as many places as are needed, milliseconds below one second, and
nanoseconds for nothing. -/
def text (duration : Duration) : String :=
  let seconds := duration.milliseconds / 1000
  let fraction := trimmed (Decimal.padded 3 (duration.milliseconds % 1000)).toList
  if duration.milliseconds = 0 then "0ns"
  else if seconds = 0 then toString duration.milliseconds ++ "ms"
  else if fraction.isEmpty then toString seconds ++ "s"
  else toString seconds ++ "." ++ String.ofList fraction ++ "s"

end Duration

inductive HandlerError where
  | audit (error : AuditError)
  | notification (error : NotificationError)
  | invalidation (error : SessionStoreError)
  | unsupported (handler : String) (eventType : EventType)
  | unregistered (eventType : EventType)
  | other (message : String)
deriving DecidableEq

namespace HandlerError

def message : HandlerError → String
  | .audit error => "Audit error: " ++ error.message
  | .notification error => "Notification error: " ++ error.message
  | .invalidation error => "Session store error: " ++ error.message
  | .unsupported handler eventType =>
      handler ++ " handler has no behaviour for " ++ eventType.className
  | .unregistered eventType => "No registry entry for " ++ eventType.className
  | .other message => message

end HandlerError

inductive Panic where
  | text (message : String)
  | unprintable
deriving DecidableEq

namespace Panic

def message : Panic → String
  | .text message => message
  | .unprintable => "non-string panic payload"

end Panic

/-- How a handler itself ends when it does not end well. -/
inductive Fault where
  | answered (error : HandlerError)
  | panicked (panic : Panic)
deriving DecidableEq

inductive Failure where
  | answered (error : HandlerError)
  | timedOut (limit : Duration)
  | panicked (message : String)
deriving DecidableEq

namespace Failure

def ofFault : Fault → Failure
  | .answered error => .answered error
  | .panicked panic => .panicked panic.message

def message : Failure → String
  | .answered error => error.message
  | .timedOut limit => "timed out after " ++ limit.text
  | .panicked message => "panicked: " ++ message

end Failure
end WorkflowBus
