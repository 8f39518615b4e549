/-
What the category handlers do.

Each handler works with one collaborator and tells something.  What it does depends on
the event and on that collaborator only: in all scopes that agree on it, the handler
fares the same and changes the same.
-/

import WorkflowBus.Bus.Publish
import WorkflowBus.Handler.Category
import WorkflowBus.Proofs.Scope.Filing
import WorkflowBus.Proofs.Scope.Telling

namespace WorkflowBus

theorem Handler.invoke_atomic (action : Event → Scope → Scope × Option Fault)
    (limit : Option Duration) (event : Event) (scope : Scope) :
    (Handler.atomic action).invoke limit event scope =
      ((action event scope).1, (action event scope).2.map Failure.ofFault) := by
  simp only [Handler.atomic, Handler.invoke, Handler.run]
  rcases action event scope with ⟨left, fault⟩
  cases fault <;> rfl

namespace Scope

def saying (scope : Scope) (told : List Utterance) : Scope :=
  { scope with
    services :=
      { scope.services with
        log := (scope.services.voice.tellAll told).1
        traces := (scope.services.voice.tellAll told).2 } }

theorem saying_saying (scope : Scope) (first second : List Utterance) :
    (scope.saying first).saying second = scope.saying (first ++ second) := by
  simp only [saying, Voice.tellAll_append]
  rfl

theorem files_saying (scope : Scope) (told : List Utterance) :
    Files [] scope (scope.saying told) :=
  Files.of_eq rfl rfl rfl rfl

theorem withTraces_eq_saying (scope : Scope) (traces : List Trace) :
    scope.mapServices (·.withTraces traces) = scope.saying (traces.map .note) := by
  simp only [saying, Voice.tellAll_traces]
  rfl

end Scope

/-! ### Handlers -/

theorem LoggingHandler.invoke_eq (limit : Option Duration) (event : Event) (scope : Scope) :
    LoggingHandler.handler.invoke limit event scope =
      (scope.saying [.line (recordFor event scope.operation?)], none) :=
  rfl

namespace AuditHandler

def recordOf (entry : Entry) (event : Event) : AuditRecord where
  eventId := event.id
  action := entry.auditActionFor event.eventType
  actorId := event.actorId?
  resourceType := event.resource.1.name
  resourceId := event.resource.2.map Uuid.text
  metadata := metadata event.fact
  correlationId := none
  clientIp := none
  userAgent := none
  occurredAt := event.occurredAt

theorem recordFor_eq_ok_iff (registry : Registry) (event : Event) (record : AuditRecord) :
    recordFor registry event = .ok record ↔
      ∃ entry, registry.owner? event.eventType = some entry ∧ entry.requires .audit = true ∧
        record = recordOf entry event := by
  unfold recordFor
  cases registry.owner? event.eventType with
  | none => exact iff_of_false nofun (fun ⟨_entry, owned, _rest⟩ => nomatch owned)
  | some entry =>
      cases audited : entry.requires .audit with
      | false =>
          simp only [audited, Bool.false_eq_true, if_false]
          refine iff_of_false nofun ?_
          intro ⟨owner, owned, requires, _same⟩
          cases owned
          rw [audited] at requires
          cases requires
      | true =>
          simp only [audited, if_true]
          constructor
          · intro classified
            cases classified
            exact ⟨entry, rfl, audited, rfl⟩
          · intro ⟨owner, owned, _requires, same⟩
            cases owned
            rw [same]
            rfl

/-- The record of an event before it is put into an operation, or why there is none: the
registry does not classify the event, or records are refused. -/
def due (registry : Registry) (event : Event) (refusal : Option AuditError) :
    Except HandlerError AuditRecord :=
  match recordFor registry event, refusal with
  | .error error, _ => .error error
  | .ok _, some error => .error (.audit error)
  | .ok record, none => .ok record

theorem due_eq_ok_iff (registry : Registry) (event : Event) (refusal : Option AuditError)
    (record : AuditRecord) :
    due registry event refusal = .ok record ↔
      recordFor registry event = .ok record ∧ refusal = none := by
  unfold due
  cases recordFor registry event with
  | error error => exact iff_of_false nofun (fun both => nomatch both.1)
  | ok classified =>
      cases refusal with
      | some error => exact iff_of_false nofun (fun both => nomatch both.2)
      | none => exact (and_iff_left rfl).symm

variable (registry : Registry) (limit : Option Duration) (event : Event) (scope : Scope)

theorem invoke_of_error {error : HandlerError}
    (nothing : due registry event scope.refusal? = .error error) :
    (handler registry).invoke limit event scope = (scope.saying [], some (.answered error)) := by
  simp only [handler, Handler.invoke_atomic]
  unfold due at nothing
  cases classified : recordFor registry event with
  | error unclassified =>
      rw [classified] at nothing
      cases nothing
      rfl
  | ok record =>
      rw [classified] at nothing
      cases refuses : scope.refusal? with
      | some reason =>
          rw [refuses] at nothing
          cases nothing
          simp only [Scope.recordAudit_of_refused refuses]
          rfl
      | none =>
          rw [refuses] at nothing
          cases nothing

theorem invoke_of_ok {record : AuditRecord}
    (found : due registry event scope.refusal? = .ok record) :
    (handler registry).invoke limit event scope =
      ((scope.recordAudit (inOperation record scope.operation?)).2.saying
        [.note (writtenTrace event scope.services.ids.draw.1)], none) := by
  obtain ⟨classified, accepts⟩ := (due_eq_ok_iff registry event _ record).mp found
  obtain ⟨answer, _files, _rest⟩ :=
    Scope.recordAudit_of_accepted accepts (inOperation record scope.operation?)
  simp only [handler, Handler.invoke_atomic, classified]
  rcases recorded : scope.recordAudit (inOperation record scope.operation?) with ⟨written, left⟩
  rw [recorded] at answer
  cases answer
  simp only [Scope.withTraces_eq_saying]
  rfl

end AuditHandler

theorem NotificationSender.isHeadline_of_send {sender left : NotificationSender} {now : Instant}
    {notification : Notification} {answer : Except NotificationError Unit} {shown : List Trace}
    (sent : sender.send now notification = (answer, left, shown)) (note : Trace)
    (member : note ∈ shown) : LoggingHandler.isHeadline note.message = false := by
  unfold send at sent
  cases delivery : sender.delivery with
  | down message =>
      rw [delivery] at sent
      cases sent
      cases member
  | traced =>
      rw [delivery] at sent
      dsimp only at sent
      split at sent
      · cases sent
        cases List.mem_singleton.mp member
        rfl
      · cases sent
        cases member
  | memory =>
      rw [delivery] at sent
      dsimp only at sent
      split at sent <;> cases sent <;> cases member

theorem NotificationHandler.invoke_spec (limit : Option Duration) (event : Event)
    (sender : NotificationSender) (now : Instant) :
    ∃ (failure : Option Failure) (left : NotificationSender) (notes : List Trace),
      (∀ note ∈ notes, LoggingHandler.isHeadline note.message = false) ∧
      ∀ scope : Scope, scope.services.notifications = sender → scope.services.now = now →
        NotificationHandler.handler.invoke limit event scope =
          (Scope.saying
            { scope with services := { scope.services with notifications := left } }
            (notes.map .note), failure) := by
  cases due : notificationFor? event with
  | none =>
      refine ⟨some (.answered (.unsupported Category.notification.name event.eventType)), sender,
        [], nofun, ?_⟩
      intro scope same _time
      subst same
      simp only [handler, Handler.invoke_atomic, due]
      rfl
  | some notification =>
      rcases sent : sender.send now notification with ⟨answer, left, shown⟩
      have plain := NotificationSender.isHeadline_of_send sent
      cases answer with
      | error error =>
          refine ⟨some (.answered (.notification error)), left, shown, plain, ?_⟩
          intro scope same time
          simp only [handler, Handler.invoke_atomic, due, Services.send, same, time, sent,
            Scope.saying, Voice.tellAll_traces]
          rfl
      | ok _sent =>
          refine ⟨none, left, shown ++ [sentTrace event notification], ?_, ?_⟩
          · intro note member
            rcases List.mem_append.mp member with earlier | last
            · exact plain note earlier
            · cases List.mem_singleton.mp last
              rfl
          · intro scope same time
            simp only [handler, Handler.invoke_atomic, due, Services.send, same, time, sent,
              Scope.saying, Voice.tellAll_traces, Services.withTraces, List.append_assoc]
            rfl

theorem InvalidationHandler.invoke_spec (limit : Option Duration) (event : Event)
    (store : SessionStore) :
    ∃ (failure : Option Failure) (left : SessionStore) (notes : List Trace),
      (∀ note ∈ notes, LoggingHandler.isHeadline note.message = false) ∧
      ∀ scope : Scope, scope.services.sessions = store →
        InvalidationHandler.handler.invoke limit event scope =
          (Scope.saying
            { scope with services := { scope.services with sessions := left } }
            (notes.map .note), failure) := by
  cases due : revocationFor? event with
  | none =>
      refine ⟨some (.answered (.unsupported Category.invalidation.name event.eventType)), store,
        [], nofun, ?_⟩
      intro scope same
      subst same
      simp only [handler, Handler.invoke_atomic, due]
      rfl
  | some revocation =>
      rcases revoked : store.revoke revocation with ⟨answer, left⟩
      cases answer with
      | error error =>
          refine ⟨some (.answered (.invalidation error)), left, [], nofun, ?_⟩
          intro scope same
          simp only [handler, Handler.invoke_atomic, due, Services.revoke, same, revoked]
          rfl
      | ok removed =>
          refine ⟨none, left, [revokedTrace event revocation removed], ?_, ?_⟩
          · intro note member
            cases List.mem_singleton.mp member
            rfl
          · intro scope same
            simp only [handler, Handler.invoke_atomic, due, Services.revoke, same, revoked,
              Scope.saying, Voice.tellAll_traces, Services.withTraces]
            rfl

namespace EventBus

def verdict (event : Event) (outcome : Outcome) : Utterance :=
  match outcome.failure with
  | some failure => .line (failureRecord event outcome.handler failure)
  | none => .note (completedTrace event outcome.handler)

theorem account_eq_saying (event : Event) (outcome : Outcome) (scope : Scope) :
    account event outcome scope = scope.saying [verdict event outcome] := by
  obtain ⟨id, failure⟩ := outcome
  cases failure <;> rfl

theorem deliver_eq {limit : Option Duration} {event : Event} {subscription : Subscription}
    {scope left : Scope} {told : List Utterance} {failure : Option Failure}
    (invoked : subscription.handler.invoke limit event scope = (left.saying told, failure)) :
    deliver limit event subscription scope =
      (⟨subscription.id, failure⟩,
        left.saying (told ++ [verdict event ⟨subscription.id, failure⟩])) := by
  simp only [deliver, invoked, account_eq_saying, Scope.saying_saying]

end EventBus
end WorkflowBus
