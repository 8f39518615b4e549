/-
What goes to the log sink.

The logging handler emits one record for every event, and the bus one for every failure.
No key is repeated in these records, so they are shown in full.  The handlers of the
categories come to the same whatever the sink is, so a bus of such handlers tells the same
to a sink in memory and to one that keeps nothing.
-/

import WorkflowBus.Proofs.Log.Record
import WorkflowBus.Proofs.Wiring.Memory

namespace WorkflowBus

theorem LoggingHandler.keys_recordFor_sublist (event : Event)
    (operation : Option OperationContext) :
    (recordFor event operation).keys.Sublist
      ["event_type", "event_id", "workflow", "occurred_at", "actor_id", "reason",
        "correlation_id"] := by
  apply LogRecord.keys_field?_sublist
    ["event_type", "event_id", "workflow", "occurred_at", "actor_id", "reason"]
  apply LogRecord.keys_field?_sublist
    ["event_type", "event_id", "workflow", "occurred_at", "actor_id"]
  apply LogRecord.keys_field?_sublist ["event_type", "event_id", "workflow", "occurred_at"]
  exact .refl _

theorem LoggingHandler.recordFor_shownInFull (event : Event)
    (operation : Option OperationContext) : (recordFor event operation).ShownInFull :=
  LogRecord.shownInFull_of_nodup ((keys_recordFor_sublist event operation).nodup (by decide))

theorem EventBus.failureRecord_shownInFull (event : Event) (id : HandlerId) (failure : Failure) :
    (failureRecord event id failure).ShownInFull := by
  have keys : (failureRecord event id failure).keys =
      ["event_type", "event_id", "handler", "error"] := rfl
  exact LogRecord.shownInFull_of_nodup (keys ▸ by decide)

namespace EventBus

/-- Invocations one after the other, with the records that the bus itself emits: right after
a handler that failed one record, which is shown in full, and none after a handler that
completed. -/
inductive Logs (limit : Option Duration) (event : Event) :
    List Subscription → Scope → List Outcome → Scope → Prop
  | nil (scope : Scope) : Logs limit event [] scope [] scope
  | failed {subscription : Subscription} {rest : List Subscription} {seen left last : Scope}
      {failure : Failure} {record : LogRecord} {outcomes : List Outcome}
      (invoked : subscription.handler.invoke limit event seen = (left, some failure))
      (full : record.ShownInFull)
      (later : Logs limit event rest (left.saying [.line record]) outcomes last) :
      Logs limit event (subscription :: rest) seen
        (⟨subscription.id, some failure⟩ :: outcomes) last
  | completed {subscription : Subscription} {rest : List Subscription} {seen left last : Scope}
      {note : Trace} {outcomes : List Outcome}
      (invoked : subscription.handler.invoke limit event seen = (left, none))
      (later : Logs limit event rest (left.saying [.note note]) outcomes last) :
      Logs limit event (subscription :: rest) seen (⟨subscription.id, none⟩ :: outcomes) last

theorem deliverAll_logs (limit : Option Duration) (event : Event)
    (subscriptions : List Subscription) (scope : Scope) :
    Logs limit event subscriptions scope (deliverAll limit event subscriptions scope).1
      (deliverAll limit event subscriptions scope).2 := by
  induction subscriptions generalizing scope with
  | nil => exact .nil scope
  | cons subscription rest ih =>
      rcases invoked : subscription.handler.invoke limit event scope with ⟨left, failure⟩
      have delivered : deliver limit event subscription scope =
          (⟨subscription.id, failure⟩,
            left.saying [verdict event ⟨subscription.id, failure⟩]) := by
        simp only [deliver, invoked, account_eq_saying]
      simp only [deliverAll, delivered]
      cases failure with
      | some failure =>
          exact .failed invoked (failureRecord_shownInFull event subscription.id failure) (ih _)
      | none => exact .completed invoked (ih _)

theorem publish_logs (bus : EventBus) (event : Event) (scope : Scope) :
    ∃ notes : List Trace,
      Logs bus.settings.handlerTimeout event (bus.subscriptionsTo event.eventType)
        (scope.saying (notes.map .note)) (bus.publish event scope).1.outcomes
        (bus.publish event scope).2 := by
  have delivered := deliverAll_logs bus.settings.handlerTimeout event
    (bus.subscriptionsTo event.eventType)
    (if (bus.subscriptionsTo event.eventType).isEmpty then
      scope.mapServices (·.withTraces [unheardTrace event]) else scope)
  by_cases unheard : (bus.subscriptionsTo event.eventType).isEmpty
  · refine ⟨[unheardTrace event], ?_⟩
    rw [← scope.withTraces_eq_saying]
    simp only [publish_eq, if_pos unheard] at delivered ⊢
    exact delivered
  · refine ⟨[], ?_⟩
    simp only [publish_eq, if_neg unheard] at delivered ⊢
    exact delivered

end EventBus

namespace Utterance

def shown : Utterance → Trace
  | .line record => record.trace
  | .note trace => trace

def ShownInFull : Utterance → Prop
  | .line record => record.ShownInFull
  | .note _ => True

theorem shownInFull_of_mem_notes {notes : List Trace} {utterance : Utterance}
    (member : utterance ∈ notes.map .note) : utterance.ShownInFull := by
  obtain ⟨note, _noted, rfl⟩ := List.mem_map.mp member
  trivial

end Utterance

theorem Voice.tellAll_tracing (traces : List Trace) (told : List Utterance) :
    Voice.tellAll (.tracing, traces) told = (.tracing, traces ++ told.map Utterance.shown) := by
  induction told generalizing traces with
  | nil => exact congrArg _ (List.append_nil traces).symm
  | cons utterance rest ih =>
      have later := ih (traces ++ [utterance.shown])
      rw [List.append_assoc] at later
      cases utterance <;> exact later

def Services.withVoice (services : Services) (voice : Voice) : Services :=
  { services with log := voice.1, traces := voice.2 }

def Scope.withVoice (scope : Scope) (voice : Voice) : Scope :=
  scope.mapServices (·.withVoice voice)

/-! ### Handlers that do not mind the sink -/

/-- Whatever the log sink is and whatever has been traced, the handler comes to the same and
tells the same, and its records are shown in full. -/
def Handler.TellsInFull (handler : Handler) : Prop :=
  ∀ (limit : Option Duration) (event : Event) (scope : Scope),
    ∃ (told : List Utterance) (left : Scope) (failure : Option Failure),
      (∀ utterance ∈ told, utterance.ShownInFull) ∧
        ∀ voice, handler.invoke limit event (scope.withVoice voice) =
          (left.withVoice (voice.tellAll told), failure)

theorem LoggingHandler.tellsInFull : LoggingHandler.handler.TellsInFull := by
  intro limit event scope
  exact ⟨[.line (recordFor event scope.operation?)], scope, none,
    List.forall_mem_singleton.mpr (recordFor_shownInFull event scope.operation?),
    fun _voice => rfl⟩

theorem Scope.recordAudit_withVoice (scope : Scope) (record : AuditRecord) (voice : Voice) :
    (scope.withVoice voice).recordAudit record =
      ((scope.recordAudit record).1, (scope.recordAudit record).2.withVoice voice) := by
  obtain ⟨services, context⟩ := scope
  cases context <;> rfl

theorem AuditHandler.tellsInFull (registry : Registry) :
    (AuditHandler.handler registry).TellsInFull := by
  intro limit event scope
  cases due : due registry event scope.refusal? with
  | error error =>
      exact ⟨[], scope, some (.answered error), nofun,
        fun voice => invoke_of_error registry limit event (scope.withVoice voice) due⟩
  | ok record =>
      refine ⟨[writtenTrace event scope.services.ids.draw.1].map .note,
        (scope.recordAudit (inOperation record scope.operation?)).2, none,
        fun utterance => Utterance.shownInFull_of_mem_notes, ?_⟩
      intro voice
      have invoked := invoke_of_ok registry limit event (scope.withVoice voice) due
      rw [Scope.recordAudit_withVoice] at invoked
      exact invoked

theorem NotificationHandler.tellsInFull : NotificationHandler.handler.TellsInFull := by
  intro limit event scope
  obtain ⟨failure, left, notes, _plain, invoked⟩ :=
    invoke_spec limit event scope.services.notifications scope.services.now
  exact ⟨notes.map .note,
    { scope with services := { scope.services with notifications := left } }, failure,
    fun utterance => Utterance.shownInFull_of_mem_notes,
    fun voice => invoked (scope.withVoice voice) rfl rfl⟩

theorem InvalidationHandler.tellsInFull : InvalidationHandler.handler.TellsInFull := by
  intro limit event scope
  obtain ⟨failure, left, notes, _plain, invoked⟩ :=
    invoke_spec limit event scope.services.sessions
  exact ⟨notes.map .note, { scope with services := { scope.services with sessions := left } },
    failure, fun utterance => Utterance.shownInFull_of_mem_notes,
    fun voice => invoked (scope.withVoice voice) rfl⟩

theorem Category.handler_tellsInFull (registry : Registry) (category : Category) :
    (category.handler registry).TellsInFull := by
  cases category with
  | logging => exact LoggingHandler.tellsInFull
  | audit => exact AuditHandler.tellsInFull registry
  | notification => exact NotificationHandler.tellsInFull
  | invalidation => exact InvalidationHandler.tellsInFull

namespace EventBus

theorem verdict_shownInFull (event : Event) (outcome : Outcome) :
    (verdict event outcome).ShownInFull := by
  obtain ⟨id, failure⟩ := outcome
  cases failure with
  | some failure => exact failureRecord_shownInFull event id failure
  | none => trivial

theorem deliver_tellsInFull (limit : Option Duration) (event : Event)
    {subscription : Subscription} (own : subscription.handler.TellsInFull) (scope : Scope) :
    ∃ (told : List Utterance) (outcome : Outcome) (left : Scope),
      (∀ utterance ∈ told, utterance.ShownInFull) ∧
        ∀ voice, deliver limit event subscription (scope.withVoice voice) =
          (outcome, left.withVoice (voice.tellAll told)) := by
  obtain ⟨told, left, failure, full, invoked⟩ := own limit event scope
  refine ⟨told ++ [verdict event ⟨subscription.id, failure⟩], ⟨subscription.id, failure⟩, left,
    List.forall_mem_append.mpr
      ⟨full, List.forall_mem_singleton.mpr (verdict_shownInFull event _)⟩, ?_⟩
  intro voice
  have saying : subscription.handler.invoke limit event (scope.withVoice voice) =
      ((left.withVoice voice).saying told, failure) := invoked voice
  exact deliver_eq saying

theorem deliverAll_tellsInFull (limit : Option Duration) (event : Event)
    {subscriptions : List Subscription}
    (each : ∀ subscription ∈ subscriptions, subscription.handler.TellsInFull) (scope : Scope) :
    ∃ (told : List Utterance) (outcomes : List Outcome) (left : Scope),
      (∀ utterance ∈ told, utterance.ShownInFull) ∧
        ∀ voice, deliverAll limit event subscriptions (scope.withVoice voice) =
          (outcomes, left.withVoice (voice.tellAll told)) := by
  induction subscriptions generalizing scope with
  | nil => exact ⟨[], [], scope, nofun, fun _voice => rfl⟩
  | cons subscription rest ih =>
      obtain ⟨first, others⟩ := List.forall_mem_cons.mp each
      obtain ⟨told, outcome, left, full, delivered⟩ :=
        deliver_tellsInFull limit event first scope
      obtain ⟨later, outcomes, last, laterFull, deliveredLater⟩ := ih others left
      refine ⟨told ++ later, outcome :: outcomes, last,
        List.forall_mem_append.mpr ⟨full, laterFull⟩, ?_⟩
      -- The rest is delivered with what the first delivery has told already, so both facts are
      -- needed for every voice.
      intro voice
      simp only [deliverAll, delivered, deliveredLater, Voice.tellAll_append]

theorem publish_tellsInFull {bus : EventBus}
    (each : ∀ subscription ∈ bus.subscriptions, subscription.handler.TellsInFull)
    (event : Event) (scope : Scope) :
    ∃ (told : List Utterance) (report : PublishReport) (left : Scope),
      (∀ utterance ∈ told, utterance.ShownInFull) ∧
        ∀ voice, bus.publish event (scope.withVoice voice) =
          (report, left.withVoice (voice.tellAll told)) := by
  have eachHere : ∀ subscription ∈ bus.subscriptionsTo event.eventType,
      subscription.handler.TellsInFull :=
    fun subscription member => each subscription (mem_subscriptions_of_mem member)
  obtain ⟨told, outcomes, left, full, delivered⟩ :=
    deliverAll_tellsInFull bus.settings.handlerTimeout event eachHere scope
  by_cases unheard : (bus.subscriptionsTo event.eventType).isEmpty
  · refine ⟨.note (unheardTrace event) :: told, ⟨event.id, event.eventType, outcomes⟩, left,
      List.forall_mem_cons.mpr ⟨trivial, full⟩, ?_⟩
    intro voice
    have opened : (scope.withVoice voice).mapServices (·.withTraces [unheardTrace event]) =
        scope.withVoice (voice.tell (.note (unheardTrace event))) := rfl
    simp only [publish_eq, if_pos unheard, opened, delivered]
    rfl
  · refine ⟨told, ⟨event.id, event.eventType, outcomes⟩, left, full, ?_⟩
    intro voice
    simp only [publish_eq, if_neg unheard, delivered]

end EventBus
end WorkflowBus
