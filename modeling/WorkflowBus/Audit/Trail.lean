/-
The audit trail and the sessions that write to it.

The trail is its list of entries; records are only ever added at its end.  A
session buffers records, each under the identifier drawn for it, until it is
committed or rolled back.  An outage makes direct writes fail; sessions do not
notice it.
-/

import WorkflowBus.Audit.Chain
import WorkflowBus.Trace

namespace WorkflowBus

inductive AuditError where
  | unavailable (message : String)
deriving DecidableEq

namespace AuditError

def message : AuditError → String
  | .unavailable message => "Audit store unavailable: " ++ message

end AuditError

structure AuditTrail where
  entries : List AuditEntry
  outage : Option String

namespace AuditTrail

def empty : AuditTrail where
  entries := []
  outage := none

def append (trail : AuditTrail) (now : Instant) (id : Uuid) (record : AuditRecord) : AuditTrail :=
  { trail with
    entries := trail.entries ++
      [.link id (trail.entries.length + 1) record (Chain.lastHash trail.entries) now] }

/-- Writes a record under a fresh identifier.  During an outage nothing is written
and no identifier is drawn. -/
def record (trail : AuditTrail) (now : Instant) (supply : IdSupply) (record : AuditRecord) :
    Except AuditError Uuid × AuditTrail × IdSupply :=
  match trail.outage with
  | some message => (.error (.unavailable message), trail, supply)
  | none =>
      let (id, supply) := supply.draw
      (.ok id, trail.append now id record, supply)

def actions (trail : AuditTrail) : List String :=
  trail.entries.map fun entry => entry.record.action

def verify (trail : AuditTrail) : Verification :=
  Chain.verify trail.entries

end AuditTrail

/-- A session over the trail: the records buffered so far, or a session that takes
no records. -/
inductive AuditSession where
  | buffering (pending : List (Uuid × AuditRecord))
  | down (message : String)

namespace AuditSession

def start : AuditSession :=
  .buffering []

def pendingCount? : AuditSession → Option Nat
  | .buffering pending => some pending.length
  | .down _ => none

def record (session : AuditSession) (supply : IdSupply) (record : AuditRecord) :
    Except AuditError Uuid × AuditSession × IdSupply :=
  match session with
  | .down message => (.error (.unavailable message), session, supply)
  | .buffering pending =>
      let (id, supply) := supply.draw
      (.ok id, .buffering (pending ++ [(id, record)]), supply)

/-- Appends the buffered records to the trail in their order; a session that takes
no records has nothing to commit.  Gives the identifiers of the new entries. -/
def commit? (session : AuditSession) (now : Instant) (trail : AuditTrail) :
    Option (List Uuid × AuditTrail) :=
  match session with
  | .buffering pending =>
      some (pending.map Prod.fst,
        pending.foldl (fun trail (id, record) => trail.append now id record) trail)
  | .down _ => none

def rollback? : AuditSession → Option Trace
  | .buffering pending =>
      some {
        level := .debug
        message := "Audit session rolled back"
        fields := [("discarded", toString pending.length)] }
  | .down _ => none

end AuditSession
end WorkflowBus
