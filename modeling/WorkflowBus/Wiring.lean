/-
Wiring: the bus that a registry calls for.

Every pair of an event type and a category that an entry calls for becomes one
subscription, in the order of the entries.  Strict wiring hands the bus out only
if the compliance check finds nothing.
-/

import WorkflowBus.Compliance.Check
import WorkflowBus.Handler.Category

namespace WorkflowBus

inductive WiringError where
  | nonCompliant (report : Compliance.Report)

namespace WiringError

def message : WiringError → String
  | .nonCompliant report =>
      "Event bus wiring is not compliant (" ++ toString report.violations.length ++ " violations)"

end WiringError

namespace Wiring

def pairs (registry : Registry) : List (EventType × Category) :=
  registry.entries.flatMap Entry.expectedSubscriptions

def wirePair (registry : Registry) (bus : EventBus) (pair : EventType × Category) : EventBus :=
  bus.subscribe pair.1 (.ofCategory pair.2 pair.1) (pair.2.handler registry)

/-- The bus with one subscription for each pair that the registry calls for. -/
def bus (registry : Registry) (settings : BusSettings) : EventBus :=
  (pairs registry).foldl (wirePair registry) (.empty settings)

/-- Builds the bus of a registry.  With strict wiring any violation keeps it from
being handed out. -/
def build (registry : Registry) (settings : BusSettings) : Except WiringError EventBus :=
  let wired := bus registry settings
  if settings.strictWiring then
    let report := Compliance.check registry wired settings.expectedEntries
    if report.isCompliant then .ok wired else .error (.nonCompliant report)
  else .ok wired

def wiredTrace (registry : Registry) (settings : BusSettings) : Trace where
  level := .info
  message := "Event bus wired"
  fields := [("entries", toString registry.size),
    ("subscriptions", toString (bus registry settings).subscriptionCount),
    ("strict", toString settings.strictWiring)]

def violationTrace (violation : Violation) : Trace where
  level := .error
  message := "Event bus wiring violation"
  fields := [("violation", violation.message)]

/-- What building the bus of a registry tells: its subscriptions, that it is
wired, and the violations that keep it back. -/
def traces (registry : Registry) (settings : BusSettings) : List Trace :=
  (pairs registry).map (fun (eventType, category) =>
      EventBus.subscribingTrace eventType (.ofCategory category eventType)) ++
    [wiredTrace registry settings] ++
    match build registry settings with
    | .error (.nonCompliant report) => report.violations.map violationTrace
    | .ok _ => []

end Wiring
end WorkflowBus
