/-
Where audit records go.

A scope files its records in the lent session if there is one, and else in the trail.
What is filed stands behind what was there before, under the next identifiers of the
supply.  Whether a scope refuses records does not depend on what has been filed.
-/

import WorkflowBus.Proofs.Audit.Chain
import WorkflowBus.Services

namespace WorkflowBus

namespace IdSupply

def skip (supply : IdSupply) (count : Nat) : IdSupply :=
  { supply with drawn := supply.drawn + count }

def stamp {α : Type} : IdSupply → List α → List (Uuid × α)
  | _, [] => []
  | supply, item :: rest => (supply.draw.1, item) :: stamp supply.draw.2 rest

theorem draw_skip (supply : IdSupply) (count : Nat) :
    supply.draw.2.skip count = supply.skip (count + 1) := by
  simp only [draw, skip, Nat.add_assoc, Nat.add_comm 1 count]

theorem skip_skip (supply : IdSupply) (first second : Nat) :
    (supply.skip first).skip second = supply.skip (first + second) := by
  simp only [skip, Nat.add_assoc]

theorem stamp_append {α : Type} (supply : IdSupply) (first second : List α) :
    supply.stamp (first ++ second) =
      supply.stamp first ++ (supply.skip first.length).stamp second := by
  induction first generalizing supply with
  | nil => rfl
  | cons item rest ih => simp only [stamp, List.cons_append, ih, draw_skip, List.length_cons]

theorem stamp_records {α : Type} (supply : IdSupply) (items : List α) :
    (supply.stamp items).map Prod.snd = items := by
  induction items generalizing supply with
  | nil => rfl
  | cons item rest ih => simp only [stamp, List.map_cons, ih]

end IdSupply

theorem AuditTrail.appendAll_append (trail : AuditTrail) (now : Instant)
    (first second : List (Uuid × AuditRecord)) :
    trail.appendAll now (first ++ second) = (trail.appendAll now first).appendAll now second :=
  List.foldl_append

def AuditSession.receive : AuditSession → List (Uuid × AuditRecord) → AuditSession
  | .buffering pending, written => .buffering (pending ++ written)
  | .down message, _written => .down message

namespace AuditSession

theorem receive_nil (session : AuditSession) : session.receive [] = session := by
  cases session with
  | buffering pending => exact congrArg buffering (List.append_nil pending)
  | down message => rfl

theorem receive_append (session : AuditSession) (first second : List (Uuid × AuditRecord)) :
    session.receive (first ++ second) = (session.receive first).receive second := by
  cases session with
  | buffering pending => exact congrArg buffering (List.append_assoc pending first second).symm
  | down message => rfl

theorem map_receive_nil (found : Option AuditSession) : found.map (·.receive []) = found := by
  cases found with
  | none => rfl
  | some session => exact congrArg some session.receive_nil

theorem map_receive_append (found : Option AuditSession)
    (first second : List (Uuid × AuditRecord)) :
    found.map (·.receive (first ++ second)) =
      (found.map (·.receive first)).map (·.receive second) := by
  cases found with
  | none => rfl
  | some session => exact congrArg some (session.receive_append first second)

def refusal? : AuditSession → Option AuditError
  | .buffering _ => none
  | .down message => some (.unavailable message)

theorem refusal?_receive (session : AuditSession) (written : List (Uuid × AuditRecord)) :
    (session.receive written).refusal? = session.refusal? := by
  cases session <;> rfl

theorem map_refusal?_receive (found : Option AuditSession)
    (written : List (Uuid × AuditRecord)) :
    (found.map (·.receive written)).map refusal? = found.map refusal? := by
  cases found with
  | none => rfl
  | some session => exact congrArg some (session.refusal?_receive written)

end AuditSession

def DispatchContext.receive (context : DispatchContext) (written : List (Uuid × AuditRecord)) :
    DispatchContext :=
  { context with session := context.session.receive written }

namespace Scope

def refusal? (scope : Scope) : Option AuditError :=
  match scope.context with
  | some context => context.session.refusal?
  | none => scope.services.audit.outage.map .unavailable

/-- Records have been filed under the next identifiers: in the lent session if there
is one, and else in the trail. -/
structure Files (records : List AuditRecord) (before after : Scope) : Prop where
  ids : after.services.ids = before.services.ids.skip records.length
  now : after.services.now = before.services.now
  context : after.context =
    before.context.map (·.receive (before.services.ids.stamp records))
  audit : after.services.audit =
    if before.context.isSome then before.services.audit
    else before.services.audit.appendAll before.services.now (before.services.ids.stamp records)

theorem Files.of_eq {before after : Scope} (ids : after.services.ids = before.services.ids)
    (now : after.services.now = before.services.now) (context : after.context = before.context)
    (audit : after.services.audit = before.services.audit) : Files [] before after where
  ids := ids
  now := now
  context := by
    have same : (fun context : DispatchContext => context.receive []) = id := by
      funext context
      exact congrArg (fun session => { context with session := session })
        context.session.receive_nil
    rw [context, IdSupply.stamp, same, Option.map_id, id]
  audit := by
    rw [audit]
    exact (ite_self _).symm

theorem Files.trans {first second : List AuditRecord} {before between after : Scope}
    (files : Files first before between) (later : Files second between after) :
    Files (first ++ second) before after where
  ids := by rw [later.ids, files.ids, IdSupply.skip_skip, List.length_append]
  now := later.now.trans files.now
  -- The second records take up the identifiers where the first ones have left off.
  context := by
    rw [later.context, files.context, files.ids, IdSupply.stamp_append, Option.map_map]
    congr 1
    funext context
    exact congrArg (fun session => { context with session := session })
      (context.session.receive_append _ _).symm
  audit := by
    rw [later.audit, files.context, files.audit, files.now, files.ids, Option.isSome_map,
      IdSupply.stamp_append]
    split
    · rfl
    · exact (before.services.audit.appendAll_append _ _ _).symm

theorem Files.operation? {records : List AuditRecord} {before after : Scope}
    (files : Files records before after) : after.operation? = before.operation? := by
  simp only [Scope.operation?, files.context]
  cases before.context <;> rfl

theorem Files.refusal? {records : List AuditRecord} {before after : Scope}
    (files : Files records before after) : after.refusal? = before.refusal? := by
  have audit := files.audit
  simp only [Scope.refusal?, files.context]
  cases lent : before.context with
  | none =>
      rw [lent] at audit
      rw [audit]
      exact congrArg (Option.map AuditError.unavailable)
        (before.services.audit.appendAll_outage before.services.now _)
  | some context => exact context.session.refusal?_receive _

theorem recordAudit_of_refused {scope : Scope} {error : AuditError}
    (refuses : scope.refusal? = some error) (record : AuditRecord) :
    scope.recordAudit record = (.error error, scope) := by
  obtain ⟨services, context⟩ := scope
  cases context with
  | none =>
      obtain ⟨message, broken, same⟩ := Option.map_eq_some_iff.mp refuses
      simp only [recordAudit, Services.recordAudit, AuditTrail.record]
      rw [broken, ← same]
  | some context =>
      obtain ⟨session, operation⟩ := context
      cases session with
      | buffering pending => cases refuses
      | down message =>
          cases refuses
          rfl

theorem recordAudit_of_accepted {scope : Scope} (accepts : scope.refusal? = none)
    (record : AuditRecord) :
    (scope.recordAudit record).1 = .ok scope.services.ids.draw.1 ∧
      Files [record] scope (scope.recordAudit record).2 ∧
      (scope.recordAudit record).2.services =
        { scope.services with
          audit := (scope.recordAudit record).2.services.audit
          ids := (scope.recordAudit record).2.services.ids } := by
  obtain ⟨services, context⟩ := scope
  cases context with
  | none =>
      have working : services.audit.outage = none := Option.map_eq_none_iff.mp accepts
      have computed : recordAudit ⟨services, none⟩ record =
          (.ok services.ids.draw.1,
            ⟨{ services with
                audit := services.audit.append services.now services.ids.draw.1 record
                ids := services.ids.draw.2 }, none⟩) := by
        simp only [recordAudit, Services.recordAudit, AuditTrail.record, working]
      rw [computed]
      exact ⟨rfl, ⟨rfl, rfl, rfl, rfl⟩, rfl⟩
  | some context =>
      obtain ⟨session, operation⟩ := context
      cases session with
      | buffering pending => exact ⟨rfl, ⟨rfl, rfl, rfl, rfl⟩, rfl⟩
      | down message => cases accepts

end Scope
end WorkflowBus
