/-
What the audit handler records of an event.

Where the registry has an entry for the event that requires audit, one record is written, in
the lent session or in the trail, and its parts come from the event, the entry and the
operation.  The metadata is the object of the fact without the token of a registration, and
so it is read back as the fact unless that has a token.  Without such an entry the handler
fails and nothing is written.
-/

import WorkflowBus.Proofs.Event.Format
import WorkflowBus.Proofs.Handler.Category
import WorkflowBus.Proofs.Registry.Index

namespace WorkflowBus

namespace Fact

end Fact

namespace EventType

end EventType

namespace AuditHandler

variable {fact : Fact}

/-- A record has been filed and a trace tells of it; nothing else has changed. -/
structure Writes (event : Event) (record : AuditRecord) (before after : Scope) : Prop where
  files : Scope.Files [record] before after
  rest : after.services =
    { before.services with
      audit := after.services.audit
      ids := after.services.ids
      traces := before.services.traces ++ [writtenTrace event before.services.ids.draw.1] }

/-! ### Invocations -/

variable {registry : Registry} {event : Event} {scope : Scope}

theorem recordFor_of_owner {entry : Entry} (owned : registry.owner? event.eventType = some entry)
    (audited : entry.requires .audit = true) :
    recordFor registry event = .ok (recordOf entry event) :=
  (recordFor_eq_ok_iff registry event _).mpr ⟨entry, owned, audited, rfl⟩

theorem recordFor_of_unowned (unowned : registry.owner? event.eventType = none) :
    recordFor registry event = .error (.unregistered event.eventType) := by
  rw [recordFor, unowned]

theorem recordFor_of_unaudited {entry : Entry}
    (owned : registry.owner? event.eventType = some entry)
    (unaudited : entry.requires .audit = false) :
    recordFor registry event = .error (.unsupported Category.audit.name event.eventType) := by
  rw [recordFor, owned]
  simp only [unaudited, Bool.false_eq_true, if_false]

theorem invoke_of_unclassified (limit : Option Duration) {error : HandlerError}
    (unclassified : recordFor registry event = .error error) :
    (handler registry).invoke limit event scope = (scope, some (.answered error)) := by
  rw [handler, Handler.invoke_atomic, unclassified]
  rfl

theorem invoke_of_classified (limit : Option Duration) {record : AuditRecord}
    (classified : recordFor registry event = .ok record) (available : scope.refusal? = none) :
    ((handler registry).invoke limit event scope).2 = none ∧
      Writes event (inOperation record scope.operation?) scope
        ((handler registry).invoke limit event scope).1 := by
  have due := (due_eq_ok_iff registry event _ record).mpr ⟨classified, available⟩
  obtain ⟨_answer, files, rest⟩ :=
    Scope.recordAudit_of_accepted available (inOperation record scope.operation?)
  rw [invoke_of_ok registry limit event scope due]
  refine ⟨rfl, files.trans (Scope.files_saying _ _), ?_⟩
  have noted := Scope.withTraces_eq_saying
    (scope.recordAudit (inOperation record scope.operation?)).2
    [writtenTrace event scope.services.ids.draw.1]
  rw [List.map_singleton] at noted
  rw [← noted]
  exact congrArg (Services.withTraces · [writtenTrace event scope.services.ids.draw.1]) rest

theorem failure_invoke (limit : Option Duration) (available : scope.refusal? = none) :
    ((handler registry).invoke limit event scope).2 =
      match registry.owner? event.eventType with
      | none => some (.answered (.unregistered event.eventType))
      | some entry =>
          if entry.requires .audit then none
          else some (.answered (.unsupported Category.audit.name event.eventType)) := by
  cases owned : registry.owner? event.eventType with
  | none => rw [invoke_of_unclassified limit (recordFor_of_unowned owned)]
  | some entry =>
      cases audited : entry.requires .audit with
      | false =>
          rw [invoke_of_unclassified limit (recordFor_of_unaudited owned audited)]
          simp only [audited, Bool.false_eq_true, if_false]
      | true =>
          rw [(invoke_of_classified limit (recordFor_of_owner owned audited) available).1]
          simp only [audited, if_true]

end AuditHandler
end WorkflowBus
