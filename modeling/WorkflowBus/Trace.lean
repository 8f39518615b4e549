/-
Diagnostic traces: what the parts of the bus tell about their own work.

Traces are for operators and change nothing; which of them are kept depends on a
level that is asked for.
-/

import WorkflowBus.Json.Basic

namespace WorkflowBus

namespace Trace

inductive Level where
  | error
  | warn
  | info
  | debug
  | trace
deriving DecidableEq

namespace Level

def all : List Level :=
  [.error, .warn, .info, .debug, .trace]

def name : Level → String
  | .error => "error"
  | .warn => "warn"
  | .info => "info"
  | .debug => "debug"
  | .trace => "trace"

def ofName? (name : String) : Option Level :=
  all.find? fun level => level.name = name

def rank : Level → Nat
  | .error => 0
  | .warn => 1
  | .info => 2
  | .debug => 3
  | .trace => 4

end Level

end Trace

structure Trace where
  level : Trace.Level
  message : String
  fields : List (String × String)

namespace Trace

/-- The trace is kept when traces down to `least` are asked for. -/
def isWithin (least : Level) (trace : Trace) : Bool :=
  trace.level.rank ≤ least.rank

def toJson (trace : Trace) : Json :=
  .obj [("level", .str trace.level.name), ("message", .str trace.message),
    ("fields", .obj (trace.fields.map fun (key, value) => (key, .str value)))]

end Trace
end WorkflowBus
