/-
The table of subscriptions against its history.

A table is changed by calls that subscribe and unsubscribe.  After any calls an empty table
holds the subscriptions that no later call removed, and no list of it is left empty; all that it
shows follows.  The calls for one event type decide alone what is subscribed to it, so calls
for different event types may change places.
-/

import WorkflowBus.Compliance.Check
import WorkflowBus.Proofs.Bus.Table

namespace WorkflowBus

inductive TableCall where
  | subscribe (subscription : Subscription)
  | unsubscribe (eventType : EventType) (id : HandlerId)

namespace TableCall

def eventType : TableCall → EventType
  | .subscribe subscription => subscription.eventType
  | .unsubscribe eventType _ => eventType

def removes (subscription : Subscription) : TableCall → Bool
  | .subscribe _ => false
  | .unsubscribe eventType id => subscription.eventType = eventType && subscription.id = id

/-- The subscriptions that calls make, in their order, without those that a later call
removes. -/
def live : List TableCall → List Subscription
  | [] => []
  | .unsubscribe _ _ :: later => live later
  | .subscribe subscription :: later =>
      if later.any (removes subscription) then live later else subscription :: live later

theorem any_removes_filter (subscription : Subscription) (calls : List TableCall) :
    (calls.filter fun call => call.eventType = subscription.eventType).any
      (removes subscription) = calls.any (removes subscription) := by
  rw [List.any_filter]
  congr 1
  funext call
  cases call with
  | subscribe other => exact Bool.and_false _
  | unsubscribe eventType id =>
      simp only [removes, TableCall.eventType, eq_comm (a := eventType), ← Bool.and_assoc,
        Bool.and_self]

theorem filter_live (calls : List TableCall) (eventType : EventType) :
    (live calls).filter (fun subscription => subscription.eventType = eventType) =
      live (calls.filter fun call => call.eventType = eventType) := by
  induction calls with
  | nil => rfl
  | cons call later ih =>
      cases call with
      | unsubscribe other id =>
          by_cases own : other = eventType
          · rw [List.filter_cons_of_pos (by exact decide_eq_true own)]
            exact ih
          · rw [List.filter_cons_of_neg (by exact fun same => own (of_decide_eq_true same))]
            exact ih
      | subscribe subscription =>
          by_cases own : subscription.eventType = eventType
          · rw [List.filter_cons_of_pos (by exact decide_eq_true own), live, live, ← ih]
            subst own
            rw [any_removes_filter]
            split
            · rfl
            · rw [List.filter_cons_of_pos (by exact decide_eq_true rfl)]
          · rw [List.filter_cons_of_neg (by exact fun same => own (of_decide_eq_true same)), ← ih,
              live]
            split
            · rfl
            · rw [List.filter_cons_of_neg (by exact fun same => own (of_decide_eq_true same))]

end TableCall

namespace SubscriptionTable

/-- Carries a call out.  A call that unsubscribes answers whether it removed anything. -/
def carryOut (table : SubscriptionTable) : TableCall → Option Bool × SubscriptionTable
  | .subscribe subscription =>
      (none, table.subscribe subscription.eventType subscription.subscriber)
  | .unsubscribe eventType id =>
      let (removed, next) := table.unsubscribe eventType id
      (some removed, next)

def carryOutAll (table : SubscriptionTable) :
    List TableCall → List (Option Bool) × SubscriptionTable
  | [] => ([], table)
  | call :: later =>
      let (answer, next) := table.carryOut call
      let (answers, last) := next.carryOutAll later
      (answer :: answers, last)

theorem carryOutAll_append (table : SubscriptionTable) (earlier later : List TableCall) :
    table.carryOutAll (earlier ++ later) =
      ((table.carryOutAll earlier).1 ++ ((table.carryOutAll earlier).2.carryOutAll later).1,
        ((table.carryOutAll earlier).2.carryOutAll later).2) := by
  induction earlier generalizing table with
  | nil => rfl
  | cons call rest ih => simp only [List.cons_append, carryOutAll, ih]

theorem length_carryOutAll (table : SubscriptionTable) (calls : List TableCall) :
    (table.carryOutAll calls).1.length = calls.length := by
  induction calls generalizing table with
  | nil => rfl
  | cons call rest ih => exact congrArg Nat.succ (ih _)

theorem answers_carryOutAll (table : SubscriptionTable) (earlier later : List TableCall)
    (call : TableCall) :
    (table.carryOutAll (earlier ++ call :: later)).1[earlier.length]? =
      some ((table.carryOutAll earlier).2.carryOut call).1 := by
  rw [carryOutAll_append,
    List.getElem?_append_right (Nat.le_of_eq (length_carryOutAll table earlier)),
    length_carryOutAll, Nat.sub_self]
  rfl

/-- A call keeps of the subscriptions what it does not remove, and adds its own. -/
theorem Holds.carryOut {table : SubscriptionTable} {live : List Subscription}
    (holds : table.Holds live) (call : TableCall) :
    (table.carryOut call).2.Holds
      ((live.filter fun subscription => !call.removes subscription) ++ TableCall.live [call]) := by
  cases call with
  | subscribe subscription =>
      have kept : live.filter (fun other => !(TableCall.subscribe subscription).removes other) =
          live := List.filter_eq_self.mpr fun _other _member => rfl
      rw [kept]
      exact holds.subscribe subscription
  | unsubscribe eventType id =>
      exact (List.append_nil _).symm ▸ holds.unsubscribe eventType id

theorem holds_carryOutAll {table : SubscriptionTable} {live : List Subscription}
    (holds : table.Holds live) (calls : List TableCall) :
    (table.carryOutAll calls).2.Holds
      ((live.filter fun subscription => !calls.any (·.removes subscription)) ++
        TableCall.live calls) := by
  induction calls generalizing table live with
  | nil =>
      simp only [carryOutAll, TableCall.live, List.any_nil, Bool.not_false, List.filter_true,
        List.append_nil]
      exact holds
  | cons call later ih =>
      have same : ((live.filter fun subscription => !call.removes subscription) ++
            TableCall.live [call]).filter
              (fun subscription => !later.any (·.removes subscription)) ++ TableCall.live later =
          (live.filter fun subscription => !(call :: later).any (·.removes subscription)) ++
            TableCall.live (call :: later) := by
        rw [List.filter_append, List.filter_filter, List.append_assoc]
        congr 1
        · congr 1
          funext subscription
          rw [List.any_cons, Bool.not_or, Bool.and_comm]
        · cases call with
          | unsubscribe eventType id => rfl
          | subscribe subscription =>
              cases removed : later.any (·.removes subscription) <;>
                simp [TableCall.live, removed]
      rw [← same]
      exact ih (holds.carryOut call)

theorem holds_history (calls : List TableCall) :
    (empty.carryOutAll calls).2.Holds (TableCall.live calls) :=
  holds_carryOutAll holds_nil calls

/-! ### What a table shows -/

/-- What a table tells when the subscriptions are live: it has lists for the event types that
anybody is subscribed to and no others, each event type has the identities subscribed to it in
their order, the event types that have any ascend, and the listing is all of the
subscriptions, sorted by event type. -/
structure Shows (table : SubscriptionTable) (live : List Subscription) : Prop where
  holds : table.Holds live
  handlers : ∀ eventType, table.handlersFor eventType =
    (live.filter fun subscription => subscription.eventType = eventType).map Subscription.id
  subscribers : ∀ eventType,
    table.hasSubscribers eventType = true ↔ table.handlersFor eventType ≠ []
  ascending : table.eventTypes.Pairwise fun left right => left.rank < right.rank
  types : ∀ eventType, eventType ∈ table.eventTypes ↔ table.handlersFor eventType ≠ []
  listing : table.listing = (live.map fun subscription =>
    (subscription.eventType, subscription.id)).mergeSort (isOrdered EventType.rank Prod.fst)
  count : table.listing.length = table.subscriptionCount ∧ table.subscriptionCount = live.length

theorem Holds.shows {table : SubscriptionTable} {live : List Subscription}
    (holds : table.Holds live) : table.Shows live where
  holds := holds
  handlers := holds.handlersFor
  subscribers := holds.hasSubscribers_iff
  ascending := table.ascending_eventTypes
  types eventType := (table.mem_eventTypes eventType).trans (holds.hasSubscribers_iff eventType)
  listing := holds.listing_eq_mergeSort
  count := by
    refine ⟨table.length_listing, ?_⟩
    rw [← length_listing, holds.listing_eq_mergeSort, List.length_mergeSort, List.length_map]

/-- What comes of a call that unsubscribes an identity from an event type: it answers
whether the identity was subscribed, and the identity no longer is.  Other identities and
other event types keep their places. -/
structure Unsubscribes (table : SubscriptionTable) (eventType : EventType) (id : HandlerId)
    (answer : Option Bool) (next : SubscriptionTable) : Prop where
  answered : answer = some (decide (id ∈ table.handlersFor eventType))
  own : next.handlersFor eventType = (table.handlersFor eventType).filter (· ≠ id)
  others : ∀ other, other ≠ eventType → next.handlersFor other = table.handlersFor other

theorem unsubscribes (table : SubscriptionTable) (eventType : EventType) (id : HandlerId) :
    Unsubscribes table eventType id (table.carryOut (.unsubscribe eventType id)).1
      (table.carryOut (.unsubscribe eventType id)).2 where
  answered := congrArg some (table.unsubscribe_answer eventType id)
  own := by
    simp only [carryOut, handlersFor, list?_unsubscribe, if_true]
    cases table.list? eventType with
    | none => rfl
    | some list =>
        have left : (retained? id list).getD [] =
            list.filter fun subscriber => subscriber.id ≠ id := by
          rw [retained?, Option.filter_some]
          cases list.filter (fun subscriber => subscriber.id ≠ id) <;> rfl
        rw [Option.bind_some, left, Option.getD_some, List.filter_map]
        rfl
  others other different := by
    simp only [carryOut, handlersFor, list?_unsubscribe, if_neg different]

end SubscriptionTable

namespace EventBus

/-- Two buses that show the same, and do the same with every event. -/
structure Alike (left right : EventBus) : Prop where
  handlers : ∀ eventType, left.handlersFor eventType = right.handlersFor eventType
  subscribers : ∀ eventType, left.hasSubscribers eventType = right.hasSubscribers eventType
  types : left.eventTypes = right.eventTypes
  listing : left.listing = right.listing
  count : left.subscriptionCount = right.subscriptionCount
  check : ∀ registry expected,
    Compliance.check registry left expected = Compliance.check registry right expected
  publish : ∀ event scope, left.publish event scope = right.publish event scope

theorem alike_of_subscriptionsTo {left right : EventBus}
    (settings : left.settings = right.settings)
    (same : ∀ eventType, left.subscriptionsTo eventType = right.subscriptionsTo eventType) :
    Alike left right := by
  have handlers (eventType : EventType) :
      left.handlersFor eventType = right.handlersFor eventType := by
    rw [handlersFor_eq_map, handlersFor_eq_map, same]
  have types : left.eventTypes = right.eventTypes := by
    have order : left.eventTypes.Perm right.eventTypes := by
      apply (List.perm_ext_iff_of_nodup left.nodup_eventTypes right.nodup_eventTypes).mpr
      intro eventType
      rw [mem_eventTypes, mem_eventTypes, handlers]
    exact order.eq_of_pairwise
      (fun _left _right _inLeft _inRight before after => absurd after (Nat.lt_asymm before))
      left.ascending_eventTypes right.ascending_eventTypes
  have listing : left.listing = right.listing := by
    show left.eventTypes.flatMap (fun eventType =>
        (left.handlersFor eventType).map fun id => (eventType, id)) =
      right.eventTypes.flatMap fun eventType =>
        (right.handlersFor eventType).map fun id => (eventType, id)
    simp only [types, handlers]
  have count : left.subscriptionCount = right.subscriptionCount := by
    rw [← length_listing, ← length_listing, listing]
  exact
    { handlers := handlers
      subscribers := by
        intro eventType
        rw [Bool.eq_iff_iff, hasSubscribers_iff, hasSubscribers_iff, handlers]
      types := types
      listing := listing
      count := count
      check := by
        intro registry expected
        simp only [Compliance.check, Compliance.missingSubscriptions,
          Compliance.presentViolations, handlers, listing, count]
      publish := by
        intro event scope
        rw [publish_eq, publish_eq, same, settings] }

def carryOut (bus : EventBus) : TableCall → Option Bool × EventBus
  | .subscribe subscription =>
      (none, bus.subscribe subscription.eventType subscription.id subscription.handler)
  | .unsubscribe eventType id =>
      let (removed, next) := bus.unsubscribe eventType id
      (some removed, next)

def carryOutAll (bus : EventBus) : List TableCall → List (Option Bool) × EventBus
  | [] => ([], bus)
  | call :: later =>
      let (answer, next) := bus.carryOut call
      let (answers, last) := next.carryOutAll later
      (answer :: answers, last)

theorem carryOutAll_table (bus : EventBus) (calls : List TableCall) :
    (bus.carryOutAll calls).1 = (bus.table.carryOutAll calls).1 ∧
      (bus.carryOutAll calls).2.table = (bus.table.carryOutAll calls).2 ∧
      (bus.carryOutAll calls).2.settings = bus.settings := by
  induction calls generalizing bus with
  | nil => exact ⟨rfl, rfl, rfl⟩
  | cons call later ih =>
      have step : (bus.carryOut call).1 = (bus.table.carryOut call).1 ∧
          (bus.carryOut call).2.table = (bus.table.carryOut call).2 ∧
          (bus.carryOut call).2.settings = bus.settings := by
        cases call <;> exact ⟨rfl, rfl, rfl⟩
      obtain ⟨answer, table, settings⟩ := step
      obtain ⟨answers, last, kept⟩ := ih (bus.carryOut call).2
      rw [table] at answers last
      exact ⟨congrArg₂ List.cons answer answers, last, kept.trans settings⟩

/-- The table of a new bus is told by its history.  After any calls the table shows what is
live; each call among them that unsubscribes answers whether anything was live that it
removes, and removes all of that; and other calls whose calls for each event type are the
same, in the same order, lead to a bus that cannot be told apart. -/
theorem carryOutAll_shows_history (settings : BusSettings) (calls : List TableCall) :
    let (answers, bus) := (EventBus.empty settings).carryOutAll calls
    (answers, bus.table) = SubscriptionTable.empty.carryOutAll calls ∧
    bus.table.Shows (TableCall.live calls) ∧
    (∀ earlier eventType id later, calls = earlier ++ .unsubscribe eventType id :: later →
      let before := (SubscriptionTable.empty.carryOutAll earlier).2
      before.Shows (TableCall.live earlier) ∧ ∃ answer,
        answers[earlier.length]? = some answer ∧
          before.Unsubscribes eventType id answer
            (before.carryOut (.unsubscribe eventType id)).2) ∧
    ∀ others : List TableCall,
      (∀ eventType, calls.filter (fun call => call.eventType = eventType) =
        others.filter fun call => call.eventType = eventType) →
      Alike bus ((EventBus.empty settings).carryOutAll others).2 := by
  obtain ⟨answers, table, _settings⟩ := carryOutAll_table (.empty settings) calls
  have holds (calls : List TableCall) :
      ((EventBus.empty settings).carryOutAll calls).2.table.Holds (TableCall.live calls) := by
    rw [(carryOutAll_table (.empty settings) calls).2.1]
    exact SubscriptionTable.holds_history calls
  refine ⟨Prod.ext answers table, (holds calls).shows, ?_, ?_⟩
  · rintro earlier eventType id later rfl
    refine ⟨(SubscriptionTable.holds_history earlier).shows, _, ?_,
      SubscriptionTable.unsubscribes _ eventType id⟩
    rw [answers]
    exact SubscriptionTable.answers_carryOutAll .empty earlier later (.unsubscribe eventType id)
  · intro others same
    apply alike_of_subscriptionsTo
    · rw [(carryOutAll_table _ calls).2.2, (carryOutAll_table _ others).2.2]
    · intro eventType
      rw [subscriptionsTo_of_holds (holds calls), subscriptionsTo_of_holds (holds others),
        TableCall.filter_live, TableCall.filter_live, same]

end EventBus

end WorkflowBus
