/-
The bus of the standard catalog.

The standard catalog calls the logging handler for every event, the audit handler for all but
two operational kinds, and the handlers of notification and of invalidation for exactly the
events that announce or revoke something.  So every event that announces something reaches the
sender, and every event that revokes something reaches the store, whatever the other handlers
do before.
-/

import WorkflowBus.Proofs.Wiring.Memory

namespace WorkflowBus
namespace Catalog

open Wiring

/-- The standard catalog has events of the type audited: all but two kinds of telemetry. -/
def audits : EventType → Bool
  | .telemetry .sessionActivityUpdated | .telemetry .providerTokenExpiring => false
  | .telemetry .suspiciousSessionActivity | .lifecycle _ _ => true

theorem isSome_ownerRequiring?_audit (event : Event) :
    (registry.ownerRequiring? .audit event).isSome = audits event.eventType := by
  rw [Registry.ownerRequiring?]
  cases event.eventType with
  | lifecycle workflow stage => cases workflow <;> cases stage <;> rfl
  | telemetry kind => cases kind <;> rfl

theorem regular : (Registry.ofEntries entries).Regular :=
  Compliance.regular_of_checkRegistry_eq_nil _ (by decide +kernel)

theorem called_eq (eventType : EventType) :
    called registry eventType = Category.all.filter fun category =>
      category.treats eventType && (category != .audit || audits eventType) := by
  cases eventType with
  | lifecycle workflow stage => cases workflow <;> cases stage <;> rfl
  | telemetry kind => cases kind <;> rfl

theorem mem_called_iff (eventType : EventType) (category : Category) :
    category ∈ called registry eventType ↔
      category.treats eventType = true ∧ (category = .audit → audits eventType = true) := by
  have all : category ∈ Category.all := by cases category <;> decide
  rw [called_eq, List.mem_filter, and_iff_right all, Bool.and_eq_true]
  apply and_congr_right
  intro _treats
  cases category <;> simp

theorem mem_called_of_treats {eventType : EventType} {category : Category}
    (treats : category.treats eventType = true) (other : category ≠ .audit) :
    category ∈ called registry eventType :=
  (mem_called_iff _ _).mpr ⟨treats, fun same => absurd same other⟩

theorem nodup_called (eventType : EventType) : (called registry eventType).Nodup :=
  nodup_called_of_regular regular eventType

theorem able_of_mem_called {event : Event} {category : Category}
    (member : category ∈ called registry event.eventType) : Able registry event category where
  treats := ((mem_called_iff _ _).mp member).1
  classified := by
    rintro rfl
    exact recordFor_of_called regular member

theorem sessions_publish_standard (settings : BusSettings) (event : Event) (scope : Scope) :
    ((bus registry settings).publish event scope).2.services.sessions =
      scope.services.sessions.heed event := by
  rw [sessions_publish settings (nodup_called event.eventType)]
  split
  · rfl
  · rename_i uncalled
    have nothing : InvalidationHandler.revocationFor? event = none := by
      rw [← Option.not_isSome_iff_eq_none, InvalidationHandler.isSome_revocationFor?]
      exact fun treats => uncalled (mem_called_of_treats treats (by decide))
    simp only [SessionStore.heed, nothing]

theorem notifications_publish_standard (settings : BusSettings) (event : Event) (scope : Scope) :
    ((bus registry settings).publish event scope).2.services.notifications =
      scope.services.notifications.heed scope.services.now event := by
  rw [notifications_publish settings (nodup_called event.eventType)]
  split
  · rfl
  · rename_i uncalled
    have nothing : NotificationHandler.notificationFor? event = none := by
      rw [← Option.not_isSome_iff_eq_none, NotificationHandler.isSome_notificationFor?]
      exact fun treats => uncalled (mem_called_of_treats treats (by decide))
    simp only [NotificationSender.heed, nothing]

def report (event : Event) : PublishReport where
  eventId := event.id
  eventType := event.eventType
  outcomes := (called registry event.eventType).map fun category =>
    ⟨.ofCategory category event.eventType, failure? event category⟩

theorem publish_standard (settings : BusSettings) (event : Event) {scope : Scope}
    (available : Available scope) :
    ((bus registry settings).publish event scope).1 = report event :=
  publish_of_available settings (fun _category => able_of_mem_called) available

theorem isSome_failure? (event : Event) (category : Category) :
    (failure? event category).isSome =
      (category == .notification && (NotificationHandler.refusal? event).isSome) := by
  cases category <;> rfl

theorem failures_report (event : Event) :
    (report event).failures = (NotificationHandler.refusal? event).toList.map fun failure =>
      ⟨.ofCategory .notification event.eventType, some failure⟩ := by
  have failing : (report event).failures =
      ((called registry event.eventType).filter fun category =>
        (failure? event category).isSome).map fun category =>
          ⟨.ofCategory category event.eventType, failure? event category⟩ := by
    rw [PublishReport.failures, report, List.filter_map]
    congr 2
    funext category
    rw [Function.comp_apply, Outcome.isCompleted]
    cases failure? event category <;> rfl
  rw [failing]
  simp only [isSome_failure?]
  cases refuses : NotificationHandler.refusal? event with
  | none => simp only [Option.isSome_none, Bool.and_false, List.filter_false, List.map_nil,
      Option.toList_none]
  | some failure =>
      have due : (NotificationHandler.notificationFor? event).isSome = true := by
        cases found : NotificationHandler.notificationFor? event with
        | none =>
            rw [NotificationHandler.refusal?, found] at refuses
            cases refuses
        | some notification => rfl
      rw [NotificationHandler.isSome_notificationFor?] at due
      have member : .notification ∈ called registry event.eventType :=
        mem_called_of_treats due (by decide)
      simp only [Option.isSome_some, Bool.and_true, List.filter_beq,
        List.count_eq_one_of_mem (nodup_called event.eventType) member, List.replicate_one,
        List.map_cons, List.map_nil, Option.toList_some, failure?, refuses]

def failureRecords (event : Event) (outcomes : List Outcome) : List LogRecord :=
  outcomes.filterMap fun outcome =>
    outcome.failure.map (EventBus.failureRecord event outcome.handler)

/-- The logging handler is called first, and its record stands before those of failures. -/
theorem lines_report (event : Event) (operation : Option OperationContext) :
    (report event).outcomes.flatMap (lines event operation) =
      LoggingHandler.recordFor event operation ::
        failureRecords event (report event).outcomes := by
  obtain ⟨rest, split⟩ : ∃ rest, called registry event.eventType = .logging :: rest :=
    ⟨_, (called_eq event.eventType).trans rfl⟩
  have once := nodup_called event.eventType
  rw [split] at once
  have others : ∀ category ∈ rest,
      lines event operation ⟨.ofCategory category event.eventType, failure? event category⟩ =
        ((failure? event category).map
          (EventBus.failureRecord event (.ofCategory category event.eventType))).toList := by
    intro category member
    have other : (category == .logging) = false := by
      rw [beq_eq_false_iff_ne]
      rintro rfl
      exact (List.nodup_cons.mp once).1 member
    rw [lines, Outcome.isOf_ofCategory, other]
    cases failure? event category <;> rfl
  rw [report, failureRecords, split, List.filterMap_map, List.flatMap_map, List.flatMap_cons,
    List.filterMap_eq_flatMap_toList, List.flatMap_cons, List.flatMap_congr others, lines,
    Outcome.isOf_ofCategory]
  rfl

end Catalog
end WorkflowBus
