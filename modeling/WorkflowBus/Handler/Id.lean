/-
Identities of subscriptions.

A handler is known by its own name and the name of its method.  Identities are
for logs, reports and compliance; events are routed by their type.
-/

import WorkflowBus.Registry.Category

namespace WorkflowBus

structure HandlerId where
  handler : String
  method : String
deriving DecidableEq

namespace HandlerId

def ofCategory (category : Category) (eventType : EventType) : HandlerId where
  handler := category.name
  method := eventType.handlerMethod

def category? (id : HandlerId) : Option Category :=
  Category.ofName? id.handler

def text (id : HandlerId) : String :=
  id.handler ++ "::" ++ id.method

def toJson (id : HandlerId) : Json :=
  .obj [("handler", .str id.handler), ("method", .str id.method)]

def isAtMost (left right : HandlerId) : Bool :=
  decide (left.handler < right.handler) ||
    (left.handler == right.handler && decide (left.method ≤ right.method))

end HandlerId
end WorkflowBus
