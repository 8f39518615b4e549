/-
The registry of workflows.

A registry is a list of entries with an index from event types to positions in
the list.  The first entry that declares an event type owns it.
-/

import WorkflowBus.Registry.Entry

namespace WorkflowBus

/-- Entries, and for each declared event type the position of the entry that
owns it. -/
structure Registry where
  entries : List Entry
  owners : List (EventType × Nat)

namespace Registry

def claim (position : Nat) (owners : List (EventType × Nat)) (eventType : EventType) :
    List (EventType × Nat) :=
  if (owners.lookup eventType).isSome then owners else owners ++ [(eventType, position)]

/-- The index of entries that stand from a position onwards, added to an index of
the entries before them. -/
def claims (position : Nat) (owners : List (EventType × Nat)) :
    List Entry → List (EventType × Nat)
  | [] => owners
  | entry :: rest =>
      claims (position + 1) (entry.eventTypes.foldl (claim position) owners) rest

def ofEntries (entries : List Entry) : Registry where
  entries := entries
  owners := claims 0 [] entries

def size (registry : Registry) : Nat :=
  registry.entries.length

def isEmpty (registry : Registry) : Bool :=
  registry.entries.isEmpty

def find? (registry : Registry) (name : String) : Option Entry :=
  registry.entries.find? fun entry => entry.name = name

def owner? (registry : Registry) (eventType : EventType) : Option Entry := do
  let position ← registry.owners.lookup eventType
  registry.entries[position]?

def contains (registry : Registry) (eventType : EventType) : Bool :=
  (registry.owners.lookup eventType).isSome

structure Statistics where
  entries : Nat
  workflows : Nat
  operational : Nat
  eventTypes : Nat
  requiringLogging : Nat
  requiringAudit : Nat
  requiringNotification : Nat
  requiringInvalidation : Nat

def countRequiring (registry : Registry) (category : Category) : Nat :=
  registry.entries.countP fun entry => entry.requires category

def countFamily (registry : Registry) (family : Family) : Nat :=
  registry.entries.countP fun entry => entry.family == family

def statistics (registry : Registry) : Statistics where
  entries := registry.size
  workflows := registry.countFamily .workflow
  operational := registry.countFamily .operational
  eventTypes := (registry.entries.flatMap Entry.eventTypes).length
  requiringLogging := registry.countRequiring .logging
  requiringAudit := registry.countRequiring .audit
  requiringNotification := registry.countRequiring .notification
  requiringInvalidation := registry.countRequiring .invalidation

def Statistics.toJson (statistics : Statistics) : Json :=
  .obj [("total_entries", .ofCount statistics.entries),
    ("workflows", .ofCount statistics.workflows),
    ("operational", .ofCount statistics.operational),
    ("event_classes", .ofCount statistics.eventTypes),
    ("requiring_logging", .ofCount statistics.requiringLogging),
    ("requiring_audit", .ofCount statistics.requiringAudit),
    ("requiring_notification", .ofCount statistics.requiringNotification),
    ("requiring_invalidation", .ofCount statistics.requiringInvalidation)]

end Registry
end WorkflowBus
