/-
Structured log records and where they go.

A record keeps its fields in the order in which they were attached.  Looked up by
key the first of equal keys counts; in the object of the fields the last one
stays.
-/

import WorkflowBus.Trace

namespace WorkflowBus

inductive LogLevel where
  | debug
  | info
  | warn
  | error
deriving DecidableEq

namespace LogLevel

def all : List LogLevel :=
  [.debug, .info, .warn, .error]

def name : LogLevel → String
  | .debug => "debug"
  | .info => "info"
  | .warn => "warn"
  | .error => "error"

def ofName? (name : String) : Option LogLevel :=
  all.find? fun level => level.name = name

def rank : LogLevel → Nat
  | .debug => 0
  | .info => 1
  | .warn => 2
  | .error => 3

def traceLevel : LogLevel → Trace.Level
  | .debug => .debug
  | .info => .info
  | .warn => .warn
  | .error => .error

end LogLevel

structure LogRecord where
  level : LogLevel
  message : String
  fields : List (String × String)
deriving DecidableEq

namespace LogRecord

def ofMessage (level : LogLevel) (message : String) : LogRecord where
  level := level
  message := message
  fields := []

def error (message : String) : LogRecord :=
  ofMessage .error message

def field (record : LogRecord) (key value : String) : LogRecord :=
  { record with fields := record.fields ++ [(key, value)] }

def field? (record : LogRecord) (key : String) : Option String → LogRecord
  | some value => record.field key value
  | none => record

def get? (record : LogRecord) (key : String) : Option String :=
  record.fields.lookup key

/-- The fields as an object sorted by key, the last of equal keys kept. -/
def fieldsJson (record : LogRecord) : Json :=
  .ofMembers (record.fields.map fun (key, value) => (key, .str value))

def toJson (record : LogRecord) : Json :=
  .obj [("level", .str record.level.name), ("message", .str record.message),
    ("fields", .arr (record.fields.map fun (key, value) => .ofTexts [key, value]))]

def trace (record : LogRecord) : Trace where
  level := record.level.traceLevel
  message := record.message
  fields := [("fields", record.fieldsJson.text)]

end LogRecord

/-- Where log records go: into a list, or on to the traces. -/
inductive LogSink where
  | memory (records : List LogRecord)
  | tracing
deriving DecidableEq

namespace LogSink

def records : LogSink → List LogRecord
  | .memory records => records
  | .tracing => []

def emit (sink : LogSink) (record : LogRecord) : LogSink × List Trace :=
  match sink with
  | .memory records => (.memory (records ++ [record]), [])
  | .tracing => (.tracing, [record.trace])

def withMessage (sink : LogSink) (message : String) : List LogRecord :=
  sink.records.filter fun record => record.message = message

def countAt (sink : LogSink) (level : LogLevel) : Nat :=
  sink.records.countP fun record => record.level == level

def clear : LogSink → LogSink
  | .memory _ => .memory []
  | .tracing => .tracing

end LogSink
end WorkflowBus
