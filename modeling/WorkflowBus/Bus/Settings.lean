/-
The settings of a bus.
-/

import WorkflowBus.Handler.Failure

namespace WorkflowBus

/-- How long a single invocation may wait, whether the wiring is checked before
the bus is handed out, and how many registry entries that check expects. -/
structure BusSettings where
  handlerTimeout : Option Duration
  strictWiring : Bool
  expectedEntries : Option Nat
deriving DecidableEq

namespace BusSettings

def defaultTimeout : Duration where
  milliseconds := 5000

def default : BusSettings where
  handlerTimeout := some defaultTimeout
  strictWiring := false
  expectedEntries := none

def strict (settings : BusSettings) : BusSettings :=
  { settings with strictWiring := true }

def withHandlerTimeout (settings : BusSettings) (timeout : Option Duration) : BusSettings :=
  { settings with handlerTimeout := timeout }

def withExpectedEntries (settings : BusSettings) (expected : Nat) : BusSettings :=
  { settings with expectedEntries := some expected }

def optionText (value : Option String) : String :=
  match value with
  | some text => "Some(" ++ text ++ ")"
  | none => "None"

def describe (settings : BusSettings) : String :=
  "BusConfig \x7b handler_timeout: " ++ optionText (settings.handlerTimeout.map Duration.text) ++
    ", strict_wiring: " ++ toString settings.strictWiring ++
    ", expected_entries: " ++
    optionText (settings.expectedEntries.map fun count => toString count) ++ " \x7d"

def toJson (settings : BusSettings) : Json :=
  .obj [("handler_timeout_ms",
      (settings.handlerTimeout.map fun limit => .ofCount limit.milliseconds).getD .null),
    ("strict_wiring", .bool settings.strictWiring),
    ("expected_entries", (settings.expectedEntries.map Json.ofCount).getD .null)]

end BusSettings
end WorkflowBus
