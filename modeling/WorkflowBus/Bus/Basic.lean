/-
The bus and its table of subscriptions.

The table maps an event type to the list of those who are called for it, in the order
in which they were subscribed.  A list that has become empty is taken out of the table, so
that the event types in it are those that somebody is subscribed to.
-/

import WorkflowBus.Bus.Settings
import WorkflowBus.Handler.Basic
import WorkflowBus.Lookup

namespace WorkflowBus

structure Subscriber where
  id : HandlerId
  handler : Handler

structure Subscription where
  eventType : EventType
  id : HandlerId
  handler : Handler

def Subscription.subscriber (subscription : Subscription) : Subscriber :=
  ⟨subscription.id, subscription.handler⟩

def Subscriber.to (eventType : EventType) (subscriber : Subscriber) : Subscription :=
  ⟨eventType, subscriber.id, subscriber.handler⟩

/-- A list of subscribers for each of some event types, these in no particular order. -/
structure SubscriptionTable where
  lists : List (EventType × List Subscriber)
  distinct : (lists.map Prod.fst).Nodup

namespace SubscriptionTable

def empty : SubscriptionTable where
  lists := []
  distinct := List.nodup_nil

def keys (table : SubscriptionTable) : List EventType :=
  table.lists.map Prod.fst

def list? (table : SubscriptionTable) (eventType : EventType) : Option (List Subscriber) :=
  table.lists.lookup eventType

def modify (table : SubscriptionTable) (eventType : EventType)
    (change : List Subscriber → List Subscriber) : SubscriptionTable where
  lists := table.lists.map fun entry =>
    (entry.1, if entry.1 = eventType then change entry.2 else entry.2)
  distinct := by
    rw [List.map_map]
    exact table.distinct

def insert (table : SubscriptionTable) (eventType : EventType) (list : List Subscriber)
    (new : table.list? eventType = none) : SubscriptionTable where
  lists := (eventType, list) :: table.lists
  distinct := List.nodup_cons.mpr ⟨lookup_eq_none_iff_not_mem.mp new, table.distinct⟩

def remove (table : SubscriptionTable) (eventType : EventType) : SubscriptionTable where
  lists := table.lists.filter fun entry => entry.1 ≠ eventType
  distinct := table.distinct.sublist (List.filter_sublist.map Prod.fst)

/-- Subscribes a handler after all others of its event type; the same identity may be
subscribed any number of times. -/
def subscribe (table : SubscriptionTable) (eventType : EventType) (subscriber : Subscriber) :
    SubscriptionTable :=
  match present : table.list? eventType with
  | some _ => table.modify eventType (· ++ [subscriber])
  | none => table.insert eventType [subscriber] present

/-- Removes every subscription of an identity to an event type, and the list with the last of
them.  The answer tells whether the list has become shorter. -/
def unsubscribe (table : SubscriptionTable) (eventType : EventType) (id : HandlerId) :
    Bool × SubscriptionTable :=
  match table.list? eventType with
  | none => (false, table)
  | some list =>
      let retained := list.filter fun subscriber => subscriber.id ≠ id
      (retained.length != list.length,
        if retained.isEmpty then table.remove eventType
        else table.modify eventType fun _ => retained)

def handlersFor (table : SubscriptionTable) (eventType : EventType) : List HandlerId :=
  ((table.list? eventType).getD []).map Subscriber.id

def hasSubscribers (table : SubscriptionTable) (eventType : EventType) : Bool :=
  (table.list? eventType).isSome

def eventTypes (table : SubscriptionTable) : List EventType :=
  table.keys.mergeSort fun left right => left.rank ≤ right.rank

def listing (table : SubscriptionTable) : List (EventType × HandlerId) :=
  table.eventTypes.flatMap fun eventType =>
    (table.handlersFor eventType).map fun id => (eventType, id)

def subscriptionCount (table : SubscriptionTable) : Nat :=
  table.lists.foldr (fun entry count => entry.2.length + count) 0

def Filled (table : SubscriptionTable) : Prop :=
  ∀ entry ∈ table.lists, entry.2 ≠ []

theorem filled_empty : empty.Filled :=
  nofun

theorem Filled.modify {table : SubscriptionTable} (filled : table.Filled) (eventType : EventType)
    {change : List Subscriber → List Subscriber} (some : ∀ list, list ≠ [] → change list ≠ []) :
    (table.modify eventType change).Filled := by
  intro entry member
  obtain ⟨before, there, rfl⟩ := List.mem_map.mp member
  dsimp only
  split
  · exact some _ (filled before there)
  · exact filled before there

theorem Filled.subscribe {table : SubscriptionTable} (filled : table.Filled)
    (eventType : EventType) (subscriber : Subscriber) :
    (table.subscribe eventType subscriber).Filled := by
  unfold SubscriptionTable.subscribe
  split
  · exact filled.modify eventType fun list _ => List.append_ne_nil_of_right_ne_nil list nofun
  · exact List.forall_mem_cons.mpr ⟨nofun, filled⟩

theorem Filled.unsubscribe {table : SubscriptionTable} (filled : table.Filled)
    (eventType : EventType) (id : HandlerId) :
    (table.unsubscribe eventType id).2.Filled := by
  unfold SubscriptionTable.unsubscribe
  split
  · exact filled
  · dsimp only
    split
    · exact fun entry member => filled entry (List.mem_filter.mp member).1
    · next some => exact filled.modify eventType fun _ _ empty => some (List.isEmpty_iff.mpr empty)

end SubscriptionTable

structure EventBus where
  settings : BusSettings
  table : SubscriptionTable
  filled : table.Filled

namespace EventBus

def empty (settings : BusSettings) : EventBus where
  settings := settings
  table := .empty
  filled := SubscriptionTable.filled_empty

def subscribe (bus : EventBus) (eventType : EventType) (id : HandlerId) (handler : Handler) :
    EventBus where
  settings := bus.settings
  table := bus.table.subscribe eventType ⟨id, handler⟩
  filled := bus.filled.subscribe eventType ⟨id, handler⟩

def unsubscribe (bus : EventBus) (eventType : EventType) (id : HandlerId) : Bool × EventBus :=
  ((bus.table.unsubscribe eventType id).1,
    { settings := bus.settings
      table := (bus.table.unsubscribe eventType id).2
      filled := bus.filled.unsubscribe eventType id })

def handlersFor (bus : EventBus) (eventType : EventType) : List HandlerId :=
  bus.table.handlersFor eventType

def hasSubscribers (bus : EventBus) (eventType : EventType) : Bool :=
  bus.table.hasSubscribers eventType

def eventTypes (bus : EventBus) : List EventType :=
  bus.table.eventTypes

def listing (bus : EventBus) : List (EventType × HandlerId) :=
  bus.table.listing

def subscriptionCount (bus : EventBus) : Nat :=
  bus.table.subscriptionCount

/-- All subscriptions, list by list. -/
def subscriptions (bus : EventBus) : List Subscription :=
  bus.table.lists.flatMap fun entry => entry.2.map (Subscriber.to entry.1)

/-- The subscriptions to an event type in the order in which they are called. -/
def subscriptionsTo (bus : EventBus) (eventType : EventType) : List Subscription :=
  ((bus.table.list? eventType).getD []).map (Subscriber.to eventType)

def describe (bus : EventBus) : String :=
  "EventBus \x7b event_types: " ++ toString bus.table.lists.length ++ ", subscriptions: " ++
    toString bus.subscriptionCount ++ ", config: " ++ bus.settings.describe ++ ", .. \x7d"

def subscribingTrace (eventType : EventType) (id : HandlerId) : Trace where
  level := .trace
  message := "Subscribing handler"
  fields := [("event_type", eventType.className), ("handler", id.text)]

end EventBus
end WorkflowBus
