/-
The table of a wired bus.

A wired bus has one subscription for each pair of an event type and a category that
the registry calls for, in their order.
-/

import WorkflowBus.Proofs.Bus.Table
import WorkflowBus.Proofs.Handler.Id
import WorkflowBus.Proofs.Registry.Regular
import WorkflowBus.Wiring

namespace WorkflowBus
namespace Wiring

theorem mem_pairs (registry : Registry) (eventType : EventType) (category : Category) :
    (eventType, category) ∈ pairs registry ↔
      ∃ entry ∈ registry.entries, eventType ∈ entry.eventTypes ∧
        entry.requires category = true ∧ category.appliesTo eventType = true := by
  simp only [pairs, List.mem_flatMap, Entry.mem_expectedSubscriptions]

def wanted (registry : Registry) : List Subscription :=
  (pairs registry).map fun pair =>
    ⟨pair.1, .ofCategory pair.2 pair.1, pair.2.handler registry⟩

theorem holds_foldl_wirePair (registry : Registry) {bus : EventBus} {live : List Subscription}
    (holds : bus.table.Holds live) (wanted : List (EventType × Category)) :
    (wanted.foldl (wirePair registry) bus).table.Holds
      (live ++ wanted.map fun pair =>
        ⟨pair.1, .ofCategory pair.2 pair.1, pair.2.handler registry⟩) := by
  induction wanted generalizing bus live with
  | nil => exact (List.append_nil live).symm ▸ holds
  | cons pair rest ih =>
      rw [List.foldl_cons, List.map_cons, List.append_cons]
      exact ih (holds.subscribe ⟨pair.1, .ofCategory pair.2 pair.1, pair.2.handler registry⟩)

theorem holds_bus (registry : Registry) (settings : BusSettings) :
    (bus registry settings).table.Holds (wanted registry) := by
  have nobody : (EventBus.empty settings).table.Holds [] := SubscriptionTable.holds_nil
  exact holds_foldl_wirePair registry nobody (pairs registry)

theorem handlersFor_bus (registry : Registry) (settings : BusSettings) (eventType : EventType) :
    (bus registry settings).handlersFor eventType =
      ((pairs registry).filter fun pair => pair.1 = eventType).map fun pair =>
        .ofCategory pair.2 pair.1 := by
  rw [EventBus.handlersFor, (holds_bus registry settings).handlersFor, wanted, List.filter_map,
    List.map_map]
  rfl

theorem mem_handlersFor_bus (registry : Registry) (settings : BusSettings)
    (eventType : EventType) (id : HandlerId) :
    id ∈ (bus registry settings).handlersFor eventType ↔
      ∃ category, (eventType, category) ∈ pairs registry ∧ id = .ofCategory category eventType := by
  rw [handlersFor_bus]
  simp only [List.mem_map, List.mem_filter, decide_eq_true_eq]
  constructor
  · intro ⟨pair, ⟨member, same⟩, found⟩
    subst same
    exact ⟨pair.2, member, found.symm⟩
  · intro ⟨category, member, found⟩
    exact ⟨(eventType, category), ⟨member, rfl⟩, found.symm⟩

theorem forall_handler_bus {registry : Registry} (settings : BusSettings) {does : Handler → Prop}
    (each : ∀ category : Category, does (category.handler registry)) :
    ∀ subscription ∈ (bus registry settings).subscriptions, does subscription.handler := by
  intro subscription member
  have listed : subscription ∈
      (bus registry settings).subscriptionsTo subscription.eventType := by
    rw [EventBus.subscriptionsTo_eq_filter]
    exact List.mem_filter.mpr ⟨member, decide_eq_true rfl⟩
  rw [EventBus.subscriptionsTo_of_holds (holds_bus registry settings)] at listed
  obtain ⟨pair, _wanted, rfl⟩ := List.mem_map.mp (List.mem_filter.mp listed).1
  exact each pair.2

theorem nodup_expectedSubscriptions (entry : Entry) (right : entry.problems = []) :
    entry.expectedSubscriptions.Nodup := by
  rw [Entry.expectedSubscriptions, List.nodup_flatMap]
  constructor
  · intro eventType _declared
    have categories : (entry.requiredCategories.filter fun category =>
        category.appliesTo eventType).Nodup := by
      have all : Category.all.Nodup := by decide
      exact (all.sublist List.filter_sublist).sublist List.filter_sublist
    exact categories.map fun left right same => congrArg Prod.snd same
  · refine (entry.nodup_eventTypes right).imp ?_
    intro left right different pair inLeft inRight
    obtain ⟨_category, _applies, fromLeft⟩ := List.mem_map.mp inLeft
    obtain ⟨_category, _applies, fromRight⟩ := List.mem_map.mp inRight
    exact different (congrArg Prod.fst (fromLeft.trans fromRight.symm))

theorem nodup_pairs {registry : Registry} (regular : registry.Regular) :
    (pairs registry).Nodup := by
  rw [pairs, List.nodup_flatMap]
  constructor
  · intro entry member
    exact nodup_expectedSubscriptions entry (regular.right entry member)
  · have distinct := List.pairwise_map.mp regular.names
    refine (List.Pairwise.and_mem.mp distinct).imp ?_
    intro left right ⟨inLeft, inRight, different⟩ (eventType, category) byLeft byRight
    have leftDeclares := ((left.mem_expectedSubscriptions _ _).mp byLeft).1
    have rightDeclares := ((right.mem_expectedSubscriptions _ _).mp byRight).1
    have same := regular.eq_of_declared inLeft inRight leftDeclares rightDeclares
    exact different (congrArg Entry.name same)

end Wiring
end WorkflowBus
