/-
The table of subscriptions and its listing.

A table holds subscriptions if the list of each event type is that of its subscriptions, and
an event type without any has no list.  What the table shows is then told by them: the
listing is all of them, sorted by event type.
-/

import Mathlib.Algebra.BigOperators.Group.List.Basic
import Mathlib.Data.List.Nodup
import WorkflowBus.Bus.Publish
import WorkflowBus.Proofs.Sorted

namespace WorkflowBus

theorem EventType.mem_all (eventType : EventType) : eventType ∈ EventType.all := by
  cases eventType with
  | lifecycle workflow stage => cases workflow <;> cases stage <;> decide
  | telemetry kind => cases kind <;> decide

theorem EventType.map_rank_all : EventType.all.map EventType.rank = List.range 33 := by
  decide

theorem EventType.rank_injective (left right : EventType) (same : left.rank = right.rank) :
    left = right := by
  have once : (EventType.all.map EventType.rank).Nodup :=
    EventType.map_rank_all ▸ List.nodup_range
  exact List.inj_on_of_nodup_map once left.mem_all right.mem_all same

theorem count_flatMap_of_nodup {α β : Type} [DecidableEq α] [BEq β] [LawfulBEq β]
    {keys : List α} (distinct : keys.Nodup) (items : α → List β) (key : α) (item : β)
    (own : ∀ other, other ≠ key → item ∉ items other) :
    (keys.flatMap items).count item = if key ∈ keys then (items key).count item else 0 := by
  induction keys with
  | nil => rfl
  | cons head rest ih =>
      obtain ⟨fresh, restDistinct⟩ := List.nodup_cons.mp distinct
      rw [List.flatMap_cons, List.count_append, ih restDistinct]
      by_cases here : head = key
      · subst here
        rw [if_neg fresh, if_pos List.mem_cons_self, Nat.add_zero]
      · rw [List.count_eq_zero.mpr (own head here), Nat.zero_add]
        by_cases later : key ∈ rest
        · rw [if_pos later, if_pos (List.mem_cons_of_mem head later)]
        · rw [if_neg later, if_neg (fun member => (List.mem_cons.mp member).elim
            (fun same => here same.symm) later)]

theorem flatMap_of_nodup {α β : Type} {keys : List α} (distinct : keys.Nodup)
    (items : α → List β) {key : α} (member : key ∈ keys)
    (own : ∀ other ∈ keys, other ≠ key → items other = []) : keys.flatMap items = items key := by
  induction keys with
  | nil => cases member
  | cons head rest ih =>
      obtain ⟨fresh, restDistinct⟩ := List.nodup_cons.mp distinct
      rw [List.flatMap_cons]
      rcases List.mem_cons.mp member with rfl | later
      · have nothing : rest.flatMap items = [] := by
          rw [List.flatMap_eq_nil_iff]
          intro other inRest
          exact own other (List.mem_cons_of_mem _ inRest) fun same => fresh (same ▸ inRest)
        rw [nothing, List.append_nil]
      · have different : head ≠ key := fun same => fresh (same ▸ later)
        rw [own head List.mem_cons_self different, List.nil_append]
        exact ih restDistinct later fun other inRest => own other (List.mem_cons_of_mem _ inRest)

theorem flatMap_filter {α β : Type} (keep : α → Bool) (items : α → List β) (keys : List α) :
    (keys.filter keep).flatMap items =
      keys.flatMap fun key => if keep key then items key else [] := by
  induction keys with
  | nil => rfl
  | cons head rest ih =>
      rw [List.flatMap_cons, ← ih, List.filter_cons]
      split <;> rfl

namespace SubscriptionTable

variable {table : SubscriptionTable} {live : List Subscription}

/-! ### What any table shows -/

theorem mem_eventTypes (table : SubscriptionTable) (eventType : EventType) :
    eventType ∈ table.eventTypes ↔ table.hasSubscribers eventType = true := by
  rw [eventTypes, List.mem_mergeSort, hasSubscribers, Option.isSome_iff_ne_none, list?, ne_eq,
    lookup_eq_none_iff_not_mem, Classical.not_not, keys]

theorem nodup_eventTypes (table : SubscriptionTable) : table.eventTypes.Nodup :=
  (List.mergeSort_perm table.keys _).nodup_iff.mpr table.distinct

theorem ascending_eventTypes (table : SubscriptionTable) :
    table.eventTypes.Pairwise fun left right => left.rank < right.rank := by
  have sorted : table.eventTypes.Pairwise fun left right =>
      isOrdered EventType.rank id left right = true :=
    List.pairwise_mergeSort isOrdered_trans isOrdered_total table.keys
  refine (sorted.and table.nodup_eventTypes).imp ?_
  rintro left right ⟨ordered, different⟩
  exact Nat.lt_of_le_of_ne (of_decide_eq_true ordered) fun same =>
    different (EventType.rank_injective left right same)

theorem handlersFor_of_not_mem {eventType : EventType} (absent : eventType ∉ table.eventTypes) :
    table.handlersFor eventType = [] := by
  rw [mem_eventTypes, hasSubscribers, Bool.not_eq_true, Option.isSome_eq_false_iff,
    Option.isNone_iff_eq_none] at absent
  rw [handlersFor, absent]
  rfl

theorem mem_listing (table : SubscriptionTable) (eventType : EventType) (id : HandlerId) :
    (eventType, id) ∈ table.listing ↔ id ∈ table.handlersFor eventType := by
  simp only [listing, List.mem_flatMap, List.mem_map, Prod.mk.injEq]
  constructor
  · intro listed
    obtain ⟨_listed, _subscribed, _other, member, rfl, rfl⟩ := listed
    exact member
  · intro member
    refine ⟨eventType, ?_, id, member, rfl, rfl⟩
    apply Classical.byContradiction
    intro absent
    rw [handlersFor_of_not_mem absent] at member
    cases member

theorem count_listing (table : SubscriptionTable) (eventType : EventType) (id : HandlerId) :
    table.listing.count (eventType, id) = (table.handlersFor eventType).count id := by
  have own (other : EventType) (different : other ≠ eventType) :
      (eventType, id) ∉ (table.handlersFor other).map fun id => (other, id) := by
    intro member
    obtain ⟨_id, _member, same⟩ := List.mem_map.mp member
    exact different (congrArg Prod.fst same)
  rw [listing, count_flatMap_of_nodup table.nodup_eventTypes _ eventType (eventType, id) own]
  by_cases listed : eventType ∈ table.eventTypes
  · rw [if_pos listed, List.count, List.countP_map, List.count]
    congr 1
    funext other
    change (eventType == eventType && other == id) = (other == id)
    rw [beq_self_eq_true, Bool.true_and]
  · rw [if_neg listed, handlersFor_of_not_mem listed]
    rfl

theorem filter_listing (table : SubscriptionTable) (eventType : EventType) :
    table.listing.filter (fun pair => pair.1 = eventType) =
      (table.handlersFor eventType).map fun id => (eventType, id) := by
  have own (other : EventType) : ((table.handlersFor other).map fun id => (other, id)).filter
      (fun pair => pair.1 = eventType) =
        if other = eventType then (table.handlersFor eventType).map fun id => (eventType, id)
        else [] := by
    split
    · next same =>
        subst same
        rw [List.filter_map, List.filter_eq_self.mpr]
        exact fun _id _member => decide_eq_true rfl
    · next different =>
        rw [List.filter_map, List.filter_eq_nil_iff.mpr, List.map_nil]
        exact fun _id _member same => different (of_decide_eq_true same)
  rw [listing, List.filter_flatMap]
  simp only [own]
  by_cases listed : eventType ∈ table.eventTypes
  · rw [flatMap_of_nodup table.nodup_eventTypes _ listed fun other _ different => if_neg different,
      if_pos rfl]
  · simp only [handlersFor_of_not_mem listed, List.map_nil, ite_self, List.flatMap_eq_nil_iff,
      implies_true]

theorem ordered_listing (table : SubscriptionTable) :
    table.listing.Pairwise fun left right =>
      isOrdered EventType.rank Prod.fst left right = true := by
  rw [listing, List.pairwise_flatMap]
  constructor
  · intro eventType _listed
    rw [List.pairwise_map]
    exact List.pairwise_of_forall fun _left _right => isOrdered_of_eq rfl
  · refine table.ascending_eventTypes.imp ?_
    intro left right before _pair inLeft _other inRight
    obtain ⟨_id, _member, rfl⟩ := List.mem_map.mp inLeft
    obtain ⟨_id, _member, rfl⟩ := List.mem_map.mp inRight
    exact decide_eq_true (Nat.le_of_lt before)

theorem length_listing (table : SubscriptionTable) :
    table.listing.length = table.subscriptionCount := by
  have order : (table.eventTypes.map fun eventType => (table.handlersFor eventType).length).Perm
      (table.keys.map fun eventType => (table.handlersFor eventType).length) :=
    (List.mergeSort_perm table.keys _).map _
  have lengths : table.keys.map (fun eventType => (table.handlersFor eventType).length) =
      table.lists.map fun entry => entry.2.length := by
    rw [keys, List.map_map]
    apply List.map_congr_left
    intro entry member
    have found : table.list? entry.1 = some entry.2 := (mem_iff_lookup table.distinct).mp member
    rw [Function.comp_apply, handlersFor, found, List.length_map, Option.getD_some]
  simp only [listing, List.length_flatMap, List.length_map]
  rw [order.sum_eq, lengths, subscriptionCount, List.sum_eq_foldr, List.foldr_map]

theorem list?_modify (table : SubscriptionTable) (eventType other : EventType)
    (change : List Subscriber → List Subscriber) :
    (table.modify eventType change).list? other =
      if other = eventType then (table.list? other).map change else table.list? other :=
  lookup_map_at table.lists eventType other change

theorem list?_remove (table : SubscriptionTable) (eventType other : EventType) :
    (table.remove eventType).list? other =
      if other = eventType then none else table.list? other :=
  lookup_filter_ne table.lists eventType other

theorem list?_subscribe (table : SubscriptionTable) (eventType other : EventType)
    (subscriber : Subscriber) :
    (table.subscribe eventType subscriber).list? other =
      if other = eventType then some ((table.list? eventType).getD [] ++ [subscriber])
      else table.list? other := by
  unfold subscribe
  split
  · next list present =>
      rw [list?_modify]
      split
      · next same => rw [same, present, Option.map_some, Option.getD_some]
      · rfl
  · next absent =>
      simp only [absent, Option.getD_none, List.nil_append]
      exact lookup_cons eventType other [subscriber] table.lists

def retained? (id : HandlerId) (list : List Subscriber) : Option (List Subscriber) :=
  (some (list.filter fun subscriber => subscriber.id ≠ id)).filter (!·.isEmpty)

theorem list?_unsubscribe (table : SubscriptionTable) (eventType other : EventType)
    (id : HandlerId) :
    (table.unsubscribe eventType id).2.list? other =
      if other = eventType then (table.list? eventType).bind (retained? id)
      else table.list? other := by
  unfold unsubscribe
  split
  · next absent =>
      split
      · next same => rw [same, absent, Option.bind_none]
      · rfl
  · next list present =>
      rw [present, Option.bind_some, retained?, Option.filter_some]
      dsimp only
      split
      · next empty => rw [list?_remove, empty, Bool.not_true, if_neg Bool.false_ne_true]
      · next some =>
          rw [list?_modify, Bool.eq_false_iff.mpr some, Bool.not_false, if_pos rfl]
          split
          · next same => rw [same, present, Option.map_some]
          · rfl

theorem unsubscribe_answer (table : SubscriptionTable) (eventType : EventType) (id : HandlerId) :
    (table.unsubscribe eventType id).1 = decide (id ∈ table.handlersFor eventType) := by
  unfold unsubscribe handlersFor
  cases table.list? eventType with
  | none => rfl
  | some list =>
      dsimp only
      rw [Option.getD_some, Bool.eq_iff_iff, bne_iff_ne, decide_eq_true_iff, List.mem_map, ne_eq,
        List.length_filter_eq_length_iff]
      constructor
      · intro shorter
        apply Classical.byContradiction
        intro absent
        exact shorter fun subscriber member =>
          decide_eq_true fun same => absent ⟨subscriber, member, same⟩
      · rintro ⟨subscriber, member, rfl⟩ kept
        exact of_decide_eq_true (kept subscriber member) rfl

/-! ### What a table holds -/

/-- Who is called for an event type when the subscriptions are live. -/
def subscribersIn (live : List Subscription) (eventType : EventType) : List Subscriber :=
  (live.filter fun subscription => subscription.eventType = eventType).map Subscription.subscriber

/-- The table has a list for each event type that somebody is subscribed to, and no other, and
the lists are those of the live subscriptions. -/
def Holds (table : SubscriptionTable) (live : List Subscription) : Prop :=
  ∀ eventType, table.list? eventType = (some (subscribersIn live eventType)).filter (!·.isEmpty)

theorem holds_nil : empty.Holds [] :=
  fun _ => rfl

theorem Holds.getD_list? (holds : table.Holds live) (eventType : EventType) :
    (table.list? eventType).getD [] = subscribersIn live eventType := by
  rw [holds, Option.filter_some]
  cases subscribersIn live eventType <;> rfl

theorem subscribersIn_append (live more : List Subscription) (eventType : EventType) :
    subscribersIn (live ++ more) eventType =
      subscribersIn live eventType ++ subscribersIn more eventType := by
  rw [subscribersIn, List.filter_append, List.map_append]
  rfl

theorem Holds.subscribe (holds : table.Holds live) (subscription : Subscription) :
    (table.subscribe subscription.eventType subscription.subscriber).Holds
      (live ++ [subscription]) := by
  intro other
  rw [list?_subscribe, subscribersIn_append, holds.getD_list?]
  split
  · next same =>
      subst same
      have here : subscribersIn [subscription] subscription.eventType =
          [subscription.subscriber] := by
        simp [subscribersIn]
      have some : (subscribersIn live subscription.eventType ++ [subscription.subscriber]).isEmpty =
          false := by
        simp
      rw [here, Option.filter_some, some]
      rfl
  · next different =>
      have elsewhere : subscribersIn [subscription] other = [] := by
        simp [subscribersIn, Ne.symm different]
      rw [elsewhere, List.append_nil, holds other]

theorem subscribersIn_filter (live : List Subscription) (eventType other : EventType)
    (id : HandlerId) :
    subscribersIn (live.filter fun subscription =>
        !(subscription.eventType = eventType && subscription.id = id)) other =
      if other = eventType then
        (subscribersIn live eventType).filter fun subscriber => subscriber.id ≠ id
      else subscribersIn live other := by
  rw [subscribersIn, List.filter_filter]
  split
  · next same =>
      subst same
      rw [subscribersIn, List.filter_map, List.filter_filter]
      congr 1
      apply List.filter_congr
      intro subscription _member
      by_cases here : subscription.eventType = other <;>
        by_cases own : subscription.id = id <;> simp [here, own, Subscription.subscriber]
  · next different =>
      rw [subscribersIn]
      congr 1
      apply List.filter_congr
      intro subscription _member
      by_cases here : subscription.eventType = other
      · simp [here, different]
      · simp [here]

theorem Holds.unsubscribe (holds : table.Holds live) (eventType : EventType) (id : HandlerId) :
    (table.unsubscribe eventType id).2.Holds (live.filter fun subscription =>
      !(subscription.eventType = eventType && subscription.id = id)) := by
  intro other
  rw [list?_unsubscribe, subscribersIn_filter, holds other, holds eventType]
  split
  · next same =>
      rw [Option.filter_some]
      cases listed : subscribersIn live eventType with
      | nil => rfl
      | cons first rest => rfl
  · rfl

theorem subscribersIn_map_to (list : List Subscriber) (eventType other : EventType) :
    subscribersIn (list.map (Subscriber.to eventType)) other =
      if other = eventType then list else [] := by
  unfold subscribersIn
  split
  · next same =>
      rw [List.filter_eq_self.mpr, List.map_map]
      · exact List.map_id list
      · intro subscription member
        obtain ⟨_subscriber, _listed, rfl⟩ := List.mem_map.mp member
        exact decide_eq_true same.symm
  · next different =>
      rw [List.filter_eq_nil_iff.mpr, List.map_nil]
      intro subscription member here
      obtain ⟨_subscriber, _listed, rfl⟩ := List.mem_map.mp member
      exact different (of_decide_eq_true here).symm

theorem subscribersIn_flatMap {lists : List (EventType × List Subscriber)}
    (distinct : (lists.map Prod.fst).Nodup) (eventType : EventType) :
    subscribersIn (lists.flatMap fun entry => entry.2.map (Subscriber.to entry.1)) eventType =
      (lists.lookup eventType).getD [] := by
  induction lists with
  | nil => rfl
  | cons entry rest ih =>
      obtain ⟨key, list⟩ := entry
      obtain ⟨fresh, restDistinct⟩ := List.nodup_cons.mp distinct
      rw [List.flatMap_cons, subscribersIn_append, subscribersIn_map_to, ih restDistinct,
        lookup_cons]
      split
      · next same =>
          rw [same, lookup_of_not_mem fresh]
          exact List.append_nil list
      · rfl

/-- A table without empty lists holds the subscriptions in its lists. -/
theorem Filled.holds (filled : table.Filled) :
    table.Holds (table.lists.flatMap fun entry => entry.2.map (Subscriber.to entry.1)) := by
  intro eventType
  rw [subscribersIn_flatMap table.distinct, ← list?, Option.filter_some]
  cases present : table.list? eventType with
  | none => rfl
  | some list =>
      have some := filled _ ((mem_iff_lookup table.distinct).mpr present)
      rw [Option.getD_some, if_pos]
      simpa using some

theorem Holds.handlersFor (holds : table.Holds live) (eventType : EventType) :
    table.handlersFor eventType =
      (live.filter fun subscription => subscription.eventType = eventType).map
        Subscription.id := by
  rw [SubscriptionTable.handlersFor, holds.getD_list?, subscribersIn, List.map_map]
  rfl

theorem Holds.hasSubscribers_iff (holds : table.Holds live) (eventType : EventType) :
    table.hasSubscribers eventType = true ↔ table.handlersFor eventType ≠ [] := by
  rw [hasSubscribers, SubscriptionTable.handlersFor, holds.getD_list?, holds eventType,
    Option.filter_some]
  cases subscribersIn live eventType <;> simp

theorem Holds.listing_eq_mergeSort (holds : table.Holds live) :
    table.listing = (live.map fun subscription =>
      (subscription.eventType, subscription.id)).mergeSort (isOrdered EventType.rank Prod.fst) := by
  apply eq_mergeSort EventType.rank_injective table.ordered_listing
  intro eventType
  rw [filter_listing, List.filter_map, holds.handlersFor, List.map_map]
  apply List.map_congr_left
  intro subscription member
  have here : subscription.eventType = eventType :=
    of_decide_eq_true (List.mem_filter.mp member).2
  rw [Function.comp_apply, here]

theorem Holds.map_to (holds : table.Holds live) (eventType : EventType) :
    ((table.list? eventType).getD []).map (Subscriber.to eventType) =
      live.filter fun subscription => subscription.eventType = eventType := by
  rw [holds.getD_list?, subscribersIn, List.map_map]
  refine (List.map_congr_left ?_).trans (List.map_id _)
  intro subscription member
  have here : subscription.eventType = eventType :=
    of_decide_eq_true (List.mem_filter.mp member).2
  subst here
  rfl

end SubscriptionTable

namespace EventBus

variable {live : List Subscription}

theorem holds_subscriptions (bus : EventBus) : bus.table.Holds bus.subscriptions :=
  bus.filled.holds

theorem subscriptionsTo_of_holds {bus : EventBus} (holds : bus.table.Holds live)
    (eventType : EventType) :
    bus.subscriptionsTo eventType =
      live.filter fun subscription => subscription.eventType = eventType :=
  holds.map_to eventType

theorem subscriptionsTo_eq_filter (bus : EventBus) (eventType : EventType) :
    bus.subscriptionsTo eventType =
      bus.subscriptions.filter fun subscription => subscription.eventType = eventType :=
  subscriptionsTo_of_holds bus.holds_subscriptions eventType

theorem mem_subscriptions_of_mem {bus : EventBus} {eventType : EventType}
    {subscription : Subscription} (member : subscription ∈ bus.subscriptionsTo eventType) :
    subscription ∈ bus.subscriptions := by
  rw [subscriptionsTo_eq_filter] at member
  exact (List.mem_filter.mp member).1

theorem handlersFor_eq_map (bus : EventBus) (eventType : EventType) :
    bus.handlersFor eventType = (bus.subscriptionsTo eventType).map Subscription.id := by
  rw [subscriptionsTo, List.map_map]
  rfl

theorem hasSubscribers_iff (bus : EventBus) (eventType : EventType) :
    bus.hasSubscribers eventType = true ↔ bus.handlersFor eventType ≠ [] :=
  bus.holds_subscriptions.hasSubscribers_iff eventType

theorem mem_eventTypes (bus : EventBus) (eventType : EventType) :
    eventType ∈ bus.eventTypes ↔ bus.handlersFor eventType ≠ [] :=
  (bus.table.mem_eventTypes eventType).trans (bus.hasSubscribers_iff eventType)

theorem nodup_eventTypes (bus : EventBus) : bus.eventTypes.Nodup :=
  bus.table.nodup_eventTypes

theorem ascending_eventTypes (bus : EventBus) :
    bus.eventTypes.Pairwise fun left right => left.rank < right.rank :=
  bus.table.ascending_eventTypes

theorem mem_listing (bus : EventBus) (eventType : EventType) (id : HandlerId) :
    (eventType, id) ∈ bus.listing ↔ id ∈ bus.handlersFor eventType :=
  bus.table.mem_listing eventType id

theorem count_listing (bus : EventBus) (eventType : EventType) (id : HandlerId) :
    bus.listing.count (eventType, id) = (bus.handlersFor eventType).count id :=
  bus.table.count_listing eventType id

theorem length_listing (bus : EventBus) : bus.listing.length = bus.subscriptionCount :=
  bus.table.length_listing

theorem publish_eq (bus : EventBus) (event : Event) (scope : Scope) :
    bus.publish event scope =
      let subscriptions := bus.subscriptionsTo event.eventType
      let (outcomes, scope) := deliverAll bus.settings.handlerTimeout event subscriptions <|
        if subscriptions.isEmpty then scope.mapServices (·.withTraces [unheardTrace event])
        else scope
      (⟨event.id, event.eventType, outcomes⟩, scope) := by
  unfold publish subscriptionsTo
  cases present : bus.table.list? event.eventType with
  | none => rfl
  | some subscribers =>
      have some := bus.filled _ ((mem_iff_lookup bus.table.distinct).mpr present)
      have heard : (subscribers.map (Subscriber.to event.eventType)).isEmpty = false := by
        simpa using some
      simp only [Option.getD_some, heard, Bool.false_eq_true, if_false]

theorem eventId_publish (bus : EventBus) (event : Event) (scope : Scope) :
    (bus.publish event scope).1.eventId = event.id := by
  rw [publish_eq]

theorem eventType_publish (bus : EventBus) (event : Event) (scope : Scope) :
    (bus.publish event scope).1.eventType = event.eventType := by
  rw [publish_eq]

end EventBus
end WorkflowBus
