/-
Deliveries to category handlers.

A delivery touches the collaborator of its category and nothing else, and how it ends
depends on that collaborator only.  The audit handler files one record exactly when it
completes, and the logging handler tells one.
-/

import WorkflowBus.Proofs.Handler.Category
import WorkflowBus.Proofs.Handler.Id

namespace WorkflowBus

def Category.subscription (registry : Registry) (eventType : EventType) (category : Category) :
    Subscription :=
  ⟨eventType, .ofCategory category eventType, category.handler registry⟩

def Outcome.isOf (category : Category) (outcome : Outcome) : Bool :=
  outcome.handler.category? == some category

theorem Outcome.isOf_ofCategory (category other : Category) (eventType : EventType)
    (failure : Option Failure) :
    (⟨.ofCategory category eventType, failure⟩ : Outcome).isOf other = (category == other) := by
  rw [isOf, HandlerId.category?_ofCategory]
  rfl

def Outcome.hasFiled (outcome : Outcome) : Bool :=
  outcome.isOf .audit && outcome.isCompleted

namespace Wiring

open EventBus

def delivery (registry : Registry) (limit : Option Duration) (event : Event)
    (category : Category) (scope : Scope) : Outcome × Scope :=
  deliver limit event (category.subscription registry event.eventType) scope

variable {registry : Registry} {limit : Option Duration} {event : Event}

theorem delivery_eq (category : Category) {scope left : Scope} {told : List Utterance}
    {failure : Option Failure}
    (invoked : (category.handler registry).invoke limit event scope = (left.saying told, failure)) :
    delivery registry limit event category scope =
      (⟨.ofCategory category event.eventType, failure⟩,
        left.saying (told ++
          [verdict event ⟨.ofCategory category event.eventType, failure⟩])) := by
  have same : (category.subscription registry event.eventType).handler.invoke limit event scope =
      (left.saying told, failure) := invoked
  exact deliver_eq same

theorem delivery_audit_of_error {scope : Scope} {error : HandlerError}
    (nothing : AuditHandler.due registry event scope.refusal? = .error error) :
    let outcome : Outcome := ⟨.ofCategory .audit event.eventType, some (.answered error)⟩
    delivery registry limit event .audit scope = (outcome, scope.saying [verdict event outcome]) :=
  delivery_eq .audit (AuditHandler.invoke_of_error registry limit event scope nothing)

theorem delivery_audit_of_ok {scope : Scope} {record : AuditRecord}
    (due : AuditHandler.due registry event scope.refusal? = .ok record) :
    let outcome : Outcome := ⟨.ofCategory .audit event.eventType, none⟩
    delivery registry limit event .audit scope =
      (outcome, (scope.recordAudit (AuditHandler.inOperation record scope.operation?)).2.saying
        [.note (AuditHandler.writtenTrace event scope.services.ids.draw.1),
          verdict event outcome]) :=
  delivery_eq .audit (AuditHandler.invoke_of_ok registry limit event scope due)

/-- Of the collaborators, those of the given categories and the log have been touched
at most; in any case a scope refuses records as before. -/
structure Touches (categories : List Category) (before after : Scope) : Prop where
  now : after.services.now = before.services.now
  refusal : after.refusal? = before.refusal?
  sender : .notification ∉ categories →
    after.services.notifications = before.services.notifications
  store : .invalidation ∉ categories → after.services.sessions = before.services.sessions
  aside : after.services.aside = before.services.aside
  journal : after.services.journal = before.services.journal

theorem Touches.refl (categories : List Category) (scope : Scope) :
    Touches categories scope scope :=
  ⟨rfl, rfl, fun _ => rfl, fun _ => rfl, rfl, rfl⟩

theorem Touches.saying {categories : List Category} {before after : Scope}
    (touches : Touches categories before after) (told : List Utterance) :
    Touches categories before (after.saying told) :=
  ⟨touches.now, touches.refusal, touches.sender, touches.store, touches.aside, touches.journal⟩

theorem Touches.trans {first second : List Category} {before between after : Scope}
    (touches : Touches first before between) (later : Touches second between after) :
    Touches (first ++ second) before after where
  now := later.now.trans touches.now
  refusal := later.refusal.trans touches.refusal
  sender := by
    intro absent
    rw [List.mem_append, not_or] at absent
    exact (later.sender absent.2).trans (touches.sender absent.1)
  store := by
    intro absent
    rw [List.mem_append, not_or] at absent
    exact (later.store absent.2).trans (touches.store absent.1)
  aside := later.aside.trans touches.aside
  journal := later.journal.trans touches.journal

theorem delivery_touches (registry : Registry) (limit : Option Duration) (event : Event)
    (category : Category) (scope : Scope) :
    Touches [category] scope (delivery registry limit event category scope).2 := by
  cases category with
  | logging =>
      rw [delivery_eq .logging (LoggingHandler.invoke_eq limit event scope)]
      exact (Touches.refl _ scope).saying _
  | audit =>
      cases found : AuditHandler.due registry event scope.refusal? with
      | error error =>
          rw [delivery_audit_of_error found]
          exact (Touches.refl _ scope).saying _
      | ok record =>
          rw [delivery_audit_of_ok found]
          obtain ⟨_classified, accepts⟩ := (AuditHandler.due_eq_ok_iff _ _ _ _).mp found
          obtain ⟨_answer, files, rest⟩ := Scope.recordAudit_of_accepted accepts
            (AuditHandler.inOperation record scope.operation?)
          apply Touches.saying
          exact
            { now := files.now
              refusal := files.refusal?
              sender := fun _ => congrArg (·.notifications) rest
              store := fun _ => congrArg (·.sessions) rest
              aside := (congrArg Services.aside rest).trans rfl
              journal := (congrArg Services.journal rest).trans rfl }
  | notification =>
      obtain ⟨failure, left, notes, _plain, invoked⟩ := NotificationHandler.invoke_spec limit event
        scope.services.notifications scope.services.now
      rw [delivery_eq .notification (invoked scope rfl rfl)]
      apply Touches.saying
      exact ⟨rfl, rfl, fun absent => absurd List.mem_cons_self absent, fun _ => rfl, rfl, rfl⟩
  | invalidation =>
      obtain ⟨failure, left, notes, _plain, invoked⟩ := InvalidationHandler.invoke_spec limit event
        scope.services.sessions
      rw [delivery_eq .invalidation (invoked scope rfl)]
      apply Touches.saying
      exact ⟨rfl, rfl, fun _ => rfl, fun absent => absurd List.mem_cons_self absent, rfl, rfl⟩

/-! ### What a delivery depends on -/

/-- The collaborator of a category is the same in two scopes, as far as the outcomes of
its handler depend on it. -/
def Agree (left right : Scope) : Category → Prop
  | .logging => True
  | .audit => left.refusal? = right.refusal?
  | .notification => left.services.notifications = right.services.notifications
  | .invalidation => left.services.sessions = right.services.sessions

theorem Agree.refl (scope : Scope) (category : Category) : Agree scope scope category := by
  cases category with
  | logging => trivial
  | audit => rfl
  | notification => rfl
  | invalidation => rfl

theorem Agree.saying {left right : Scope} {category : Category} (agree : Agree left right category)
    (told : List Utterance) : Agree (left.saying told) (right.saying told) category := by
  cases category with
  | logging => trivial
  | audit => exact agree
  | notification => exact agree
  | invalidation => exact agree

theorem agree_delivery_of_ne {category other : Category} (different : category ≠ other)
    {left right : Scope} (agree : Agree left right other) :
    Agree (delivery registry limit event category left).2
      (delivery registry limit event category right).2 other := by
  have leftTouches : Touches [category] left (delivery registry limit event category left).2 :=
    delivery_touches registry limit event category left
  have rightTouches : Touches [category] right (delivery registry limit event category right).2 :=
    delivery_touches registry limit event category right
  have untouched : other ∉ [category] :=
    fun member => different (List.mem_singleton.mp member).symm
  cases other with
  | logging => trivial
  | audit => exact leftTouches.refusal.trans (agree.trans rightTouches.refusal.symm)
  | notification =>
      exact (leftTouches.sender untouched).trans
        (agree.trans (rightTouches.sender untouched).symm)
  | invalidation =>
      exact (leftTouches.store untouched).trans (agree.trans (rightTouches.store untouched).symm)

/-- Where the collaborator of a category is the same, a delivery to it ends the same
and leaves the collaborator the same. -/
theorem delivery_of_agree {category : Category} {left right : Scope}
    (time : left.services.now = right.services.now) (agree : Agree left right category) :
    (delivery registry limit event category left).1 =
        (delivery registry limit event category right).1 ∧
      Agree (delivery registry limit event category left).2
        (delivery registry limit event category right).2 category := by
  cases category with
  | logging => exact ⟨rfl, trivial⟩
  | audit =>
      have kept : Agree (delivery registry limit event .audit left).2
          (delivery registry limit event .audit right).2 .audit :=
        (delivery_touches registry limit event .audit left).refusal.trans
          (agree.trans (delivery_touches registry limit event .audit right).refusal.symm)
      refine ⟨?_, kept⟩
      have same : left.refusal? = right.refusal? := agree
      cases found : AuditHandler.due registry event right.refusal? with
      | error error =>
          rw [delivery_audit_of_error found, delivery_audit_of_error (same ▸ found)]
      | ok record => rw [delivery_audit_of_ok found, delivery_audit_of_ok (same ▸ found)]
  | notification =>
      obtain ⟨failure, after, notes, _plain, invoked⟩ := NotificationHandler.invoke_spec limit event
        right.services.notifications right.services.now
      rw [delivery_eq .notification (invoked left agree time),
        delivery_eq .notification (invoked right rfl rfl)]
      exact ⟨rfl, rfl⟩
  | invalidation =>
      obtain ⟨failure, after, notes, _plain, invoked⟩ := InvalidationHandler.invoke_spec limit event
        right.services.sessions
      rw [delivery_eq .invalidation (invoked left agree),
        delivery_eq .invalidation (invoked right rfl)]
      exact ⟨rfl, rfl⟩

theorem agree_delivery {category other : Category} {left right : Scope}
    (time : left.services.now = right.services.now) (agree : Agree left right other) :
    Agree (delivery registry limit event category left).2
      (delivery registry limit event category right).2 other := by
  by_cases same : category = other
  · subst same
    exact (delivery_of_agree time agree).2
  · exact agree_delivery_of_ne same agree

/-! ### What a delivery files -/

def filings (registry : Registry) (event : Event) (refusal : Option AuditError)
    (operation : Option OperationContext) : Category → List AuditRecord
  | .audit =>
      match AuditHandler.due registry event refusal with
      | .ok record => [AuditHandler.inOperation record operation]
      | .error _ => []
  | _ => []

theorem filings_of_ne {refusal : Option AuditError} {operation : Option OperationContext}
    {category : Category} (other : category ≠ .audit) :
    filings registry event refusal operation category = [] := by
  cases category with
  | audit => exact absurd rfl other
  | logging => rfl
  | notification => rfl
  | invalidation => rfl

theorem length_filings (refusal : Option AuditError) (left right : Option OperationContext)
    (category : Category) :
    (filings registry event refusal left category).length =
      (filings registry event refusal right category).length := by
  cases category with
  | audit =>
      simp only [filings]
      cases AuditHandler.due registry event refusal <;> rfl
  | logging => rfl
  | notification => rfl
  | invalidation => rfl

theorem mem_filings {refusal : Option AuditError} {operation : Option OperationContext}
    {category : Category} {record : AuditRecord}
    (member : record ∈ filings registry event refusal operation category) :
    ∃ classified, AuditHandler.recordFor registry event = .ok classified ∧
      record = AuditHandler.inOperation classified operation := by
  cases category with
  | audit =>
      simp only [filings] at member
      cases found : AuditHandler.due registry event refusal with
      | error error =>
          rw [found] at member
          cases member
      | ok classified =>
          rw [found] at member
          cases List.mem_singleton.mp member
          exact ⟨classified, ((AuditHandler.due_eq_ok_iff _ _ _ _).mp found).1, rfl⟩
  | logging => cases member
  | notification => cases member
  | invalidation => cases member

theorem delivery_files (registry : Registry) (limit : Option Duration) (event : Event)
    (category : Category) (scope : Scope) :
    Scope.Files (filings registry event scope.refusal? scope.operation? category) scope
      (delivery registry limit event category scope).2 := by
  cases category with
  | logging =>
      rw [delivery_eq .logging (LoggingHandler.invoke_eq limit event scope)]
      exact scope.files_saying _
  | audit =>
      simp only [filings]
      cases found : AuditHandler.due registry event scope.refusal? with
      | error error =>
          rw [delivery_audit_of_error found]
          exact scope.files_saying _
      | ok record =>
          rw [delivery_audit_of_ok found]
          obtain ⟨_classified, accepts⟩ := (AuditHandler.due_eq_ok_iff _ _ _ _).mp found
          obtain ⟨_answer, files, _rest⟩ := Scope.recordAudit_of_accepted accepts
            (AuditHandler.inOperation record scope.operation?)
          exact files.trans (Scope.files_saying _ _)
  | notification =>
      obtain ⟨failure, left, notes, _plain, invoked⟩ := NotificationHandler.invoke_spec limit event
        scope.services.notifications scope.services.now
      rw [delivery_eq .notification (invoked scope rfl rfl)]
      exact .of_eq rfl rfl rfl rfl
  | invalidation =>
      obtain ⟨failure, left, notes, _plain, invoked⟩ := InvalidationHandler.invoke_spec limit event
        scope.services.sessions
      rw [delivery_eq .invalidation (invoked scope rfl)]
      exact .of_eq rfl rfl rfl rfl

theorem delivery_counted (registry : Registry) (limit : Option Duration) (event : Event)
    (category : Category) (scope : Scope) :
    (filings registry event scope.refusal? scope.operation? category).length =
      if (delivery registry limit event category scope).1.hasFiled then 1 else 0 := by
  cases category with
  | audit =>
      simp only [filings]
      cases found : AuditHandler.due registry event scope.refusal? with
      | error error =>
          rw [delivery_audit_of_error found, Outcome.hasFiled]
          exact (if_neg (by simp [Outcome.isCompleted])).symm
      | ok record =>
          rw [delivery_audit_of_ok found, Outcome.hasFiled, Outcome.isOf,
            HandlerId.category?_ofCategory]
          rfl
  | logging => rfl
  | notification => rfl
  | invalidation => rfl

/-- A logging handler always completes, and an audit handler exactly if there is a record
to write. -/
structure Completes (registry : Registry) (event : Event) (refusal : Option AuditError)
    (outcome : Outcome) : Prop where
  logging : outcome.isOf .logging = true → outcome.isCompleted = true
  audit : outcome.isOf .audit = true → (outcome.isCompleted = true ↔
    ∃ record, AuditHandler.due registry event refusal = .ok record)

theorem delivery_completes (registry : Registry) (limit : Option Duration) (event : Event)
    (category : Category) (scope : Scope) :
    Completes registry event scope.refusal?
      (delivery registry limit event category scope).1 where
  logging := by
    intro logs
    cases category with
    | logging => rfl
    | audit => cases logs
    | notification => cases logs
    | invalidation => cases logs
  audit := by
    intro audits
    cases category with
    | logging => cases audits
    | audit =>
        cases found : AuditHandler.due registry event scope.refusal? with
        | error error =>
            rw [delivery_audit_of_error found]
            exact iff_of_false Bool.false_ne_true (fun ⟨_record, same⟩ => nomatch same)
        | ok record =>
            rw [delivery_audit_of_ok found]
            exact iff_of_true rfl ⟨record, rfl⟩
    | notification => cases audits
    | invalidation => cases audits

theorem speech_verdict (outcome : Outcome) : Speech event 0 fun _ => [verdict event outcome] := by
  apply Speech.fixed
  intro utterance member
  cases List.mem_singleton.mp member
  obtain ⟨id, failure⟩ := outcome
  cases failure with
  | none => exact ⟨rfl, rfl⟩
  | some failure => exact ⟨trivial, rfl⟩

theorem speech_notes (notes : List Trace)
    (plain : ∀ note ∈ notes, LoggingHandler.isHeadline note.message = false) :
    Speech event 0 fun _ => notes.map .note := by
  apply Speech.fixed
  intro utterance member
  obtain ⟨note, noted, same⟩ := List.mem_map.mp member
  subst same
  exact ⟨plain note noted, rfl⟩

theorem delivery_tells {category : Category} {left right : Scope}
    (time : left.services.now = right.services.now) (ids : left.services.ids = right.services.ids)
    (agree : Agree left right category) :
    ∃ told, Speech event ([category].count .logging) told ∧
      (delivery registry limit event category left).2.services.voice =
        left.services.voice.tellAll (told left.operation?) ∧
      (delivery registry limit event category right).2.services.voice =
        right.services.voice.tellAll (told right.operation?) := by
  cases category with
  | logging =>
      rw [delivery_eq .logging (LoggingHandler.invoke_eq limit event left),
        delivery_eq .logging (LoggingHandler.invoke_eq limit event right)]
      exact ⟨_, Speech.record.append (speech_verdict ⟨.ofCategory .logging event.eventType, none⟩),
        rfl, rfl⟩
  | audit =>
      have same : left.refusal? = right.refusal? := agree
      cases found : AuditHandler.due registry event right.refusal? with
      | error error =>
          rw [delivery_audit_of_error found, delivery_audit_of_error (same ▸ found)]
          exact ⟨_, speech_verdict ⟨.ofCategory .audit event.eventType, some (.answered error)⟩,
            rfl, rfl⟩
      | ok record =>
          rw [delivery_audit_of_ok found, delivery_audit_of_ok (same ▸ found), ids]
          obtain ⟨_classified, accepts⟩ := (AuditHandler.due_eq_ok_iff _ _ _ _).mp found
          -- The trace of a record shows its identifier, which the supplies have in common.
          have untold (scope : Scope) (takes : scope.refusal? = none) :
              let recorded :=
                scope.recordAudit (AuditHandler.inOperation record scope.operation?)
              recorded.2.services.voice = scope.services.voice := by
            obtain ⟨_answer, _files, rest⟩ := Scope.recordAudit_of_accepted takes
              (AuditHandler.inOperation record scope.operation?)
            exact (congrArg Services.voice rest).trans rfl
          have noted : Speech event 0 fun _ =>
              [AuditHandler.writtenTrace event right.services.ids.draw.1].map .note := by
            apply speech_notes
            intro note member
            cases List.mem_singleton.mp member
            rfl
          refine ⟨_, noted.append (speech_verdict ⟨.ofCategory .audit event.eventType, none⟩),
            ?_, ?_⟩
          · rw [← untold left (same.trans accepts)]
            rfl
          · rw [← untold right accepts]
            rfl
  | notification =>
      obtain ⟨failure, after, notes, plain, invoked⟩ := NotificationHandler.invoke_spec limit event
        right.services.notifications right.services.now
      rw [delivery_eq .notification (invoked left agree time),
        delivery_eq .notification (invoked right rfl rfl)]
      exact ⟨_, (speech_notes notes plain).append
        (speech_verdict ⟨.ofCategory .notification event.eventType, failure⟩), rfl, rfl⟩
  | invalidation =>
      obtain ⟨failure, after, notes, plain, invoked⟩ := InvalidationHandler.invoke_spec limit event
        right.services.sessions
      rw [delivery_eq .invalidation (invoked left agree),
        delivery_eq .invalidation (invoked right rfl)]
      exact ⟨_, (speech_notes notes plain).append
        (speech_verdict ⟨.ofCategory .invalidation event.eventType, failure⟩), rfl, rfl⟩

end Wiring
end WorkflowBus
