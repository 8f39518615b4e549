/-
Deployments: a registry with a bus at work.

The bus works with the services of the deployment, or with collaborators of its
own; identifiers, time, traces and the journal are shared in either case.
-/

import WorkflowBus.Api.Answer
import WorkflowBus.Bus.Invocation
import WorkflowBus.Wiring

namespace WorkflowBus

/-- The collaborators in use are those of the deployment; a bus with its own ones
finds them set aside. -/
structure Deployment where
  registry : Registry
  bus : EventBus
  services : Services

namespace Deployment

/-- A deployment of the bus wired from a registry, over the collaborators of the
services or over its own.  What the wiring tells is traced also when no bus comes
of it. -/
def wired (registry : Registry) (settings : BusSettings) (services : Services)
    (own : Option Collaborators) : Except WiringError Deployment × Services :=
  let services := { services with aside := own }.withTraces (Wiring.traces registry settings)
  match Wiring.build registry settings with
  | .error error => (.error error, services)
  | .ok bus => (.ok ⟨registry, bus, services⟩, services)

def unwired (registry : Registry) (settings : BusSettings) (services : Services) : Deployment where
  registry := registry
  bus := .empty settings
  services := services

def mapServices (deployment : Deployment) (change : Services → Services) : Deployment :=
  { deployment with services := change deployment.services }

/-- Subscribes a handler that works with the collaborators of the deployment, also
when the bus has its own. -/
def subscribe (deployment : Deployment) (eventType : EventType) (id : HandlerId)
    (handler : Handler) : Deployment :=
  { deployment with bus := deployment.bus.subscribe eventType id handler.aside }.mapServices
    (·.withTraces [EventBus.subscribingTrace eventType id])

def unsubscribe (deployment : Deployment) (eventType : EventType) (id : HandlerId) :
    Bool × Deployment :=
  let (removed, bus) := deployment.bus.unsubscribe eventType id
  (removed, { deployment with bus := bus })

abbrev Lent := Deployment × Option DispatchContext

def publish : Invocation.Publisher Lent PublishReport :=
  fun event (deployment, context) =>
    let (report, scope) := deployment.bus.publish event ⟨deployment.services.exchanged, context⟩
    (report, { deployment with services := scope.services.exchanged }, scope.context)

/-- Lets the handler of a category treat an event outside the bus and without a
time limit. -/
def handle (category : Category) (event : Event) :
    Lent → Option Failure × Lent :=
  fun (deployment, context) =>
    let (scope, failure) :=
      (category.handler deployment.registry).invoke none event ⟨deployment.services, context⟩
    (failure, { deployment with services := scope.services }, scope.context)

def answer (deployment : Deployment) (expectedEntries : Option Nat) (request : Request) :
    Response × Deployment :=
  let (response, services) :=
    Api.answer ⟨deployment.registry, deployment.bus, expectedEntries⟩ request deployment.services
  (response, { deployment with services := services })

end Deployment
end WorkflowBus
