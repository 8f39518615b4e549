/-
User sessions and cached credentials of provider connections, and their
revocation.
-/

import WorkflowBus.Uuid

namespace WorkflowBus

/-- What to revoke: every session of a user, one session, or the cached
credentials of a connection. -/
inductive Revocation where
  | allUserSessions (userId : Uuid)
  | session (sessionId : Uuid)
  | providerCredentials (connectionId : Uuid)
deriving DecidableEq

namespace Revocation

def text : Revocation → String
  | .allUserSessions userId => "user:" ++ userId.text ++ ":sessions"
  | .session sessionId => "session:" ++ sessionId.text
  | .providerCredentials connectionId =>
      "provider_connection:" ++ connectionId.text ++ ":credentials"

def toJson : Revocation → Json
  | .allUserSessions userId =>
      .obj [("kind", .str "all_user_sessions"), ("user_id", userId.toJson)]
  | .session sessionId => .obj [("kind", .str "session"), ("session_id", sessionId.toJson)]
  | .providerCredentials connectionId =>
      .obj [("kind", .str "provider_credentials"), ("connection_id", connectionId.toJson)]

end Revocation

inductive SessionStoreError where
  | unavailable (message : String)
deriving DecidableEq

namespace SessionStoreError

def message : SessionStoreError → String
  | .unavailable message => "Session store unavailable: " ++ message

end SessionStoreError

/-- Open sessions with their users, connections with cached credentials, and every
revocation asked for.  An outage makes revocations fail. -/
structure SessionStore where
  sessions : List (Uuid × Uuid)
  credentials : List Uuid
  revocations : List Revocation
  outage : Option String
  distinctSessions : (sessions.map Prod.fst).Nodup
  distinctCredentials : credentials.Nodup
deriving DecidableEq

namespace SessionStore

def empty : SessionStore where
  sessions := []
  credentials := []
  revocations := []
  outage := none
  distinctSessions := List.nodup_nil
  distinctCredentials := List.nodup_nil

theorem nodup_insert {sessions : List (Uuid × Uuid)} (distinct : (sessions.map Prod.fst).Nodup)
    (sessionId userId : Uuid) :
    ((sessions.filter (fun session => session.1 ≠ sessionId) ++
      [(sessionId, userId)]).map Prod.fst).Nodup := by
  rw [List.map_append, List.nodup_append]
  refine ⟨distinct.sublist (List.filter_sublist.map Prod.fst), List.pairwise_singleton _ _, ?_⟩
  intro kept inKept new inNew same
  obtain ⟨session, member, rfl⟩ := List.mem_map.mp inKept
  rw [List.map_singleton, List.mem_singleton] at inNew
  exact of_decide_eq_true (List.mem_filter.mp member).2 (same.trans inNew)

/-- Opens a session under an identifier; an open session of that identifier passes
to the new user. -/
def insertSession (store : SessionStore) (sessionId userId : Uuid) : SessionStore :=
  { store with
    sessions := store.sessions.filter (fun session => session.1 ≠ sessionId) ++
      [(sessionId, userId)]
    distinctSessions := nodup_insert store.distinctSessions sessionId userId }

def openSession (store : SessionStore) (supply : IdSupply) (userId : Uuid) :
    Uuid × SessionStore × IdSupply :=
  let (sessionId, supply) := supply.draw
  (sessionId, store.insertSession sessionId userId, supply)

def cacheCredentials (store : SessionStore) (connectionId : Uuid) : SessionStore :=
  if cached : connectionId ∈ store.credentials then store
  else
    { store with
      credentials := connectionId :: store.credentials
      distinctCredentials := List.nodup_cons.mpr ⟨cached, store.distinctCredentials⟩ }

def activeSessions (store : SessionStore) (userId : Uuid) : Nat :=
  store.sessions.countP fun session => session.2 == userId

def hasCredentials (store : SessionStore) (connectionId : Uuid) : Bool :=
  store.credentials.contains connectionId

def retainSessions (store : SessionStore) (keep : Uuid × Uuid → Bool) : SessionStore :=
  { store with
    sessions := store.sessions.filter keep
    distinctSessions := store.distinctSessions.sublist (List.filter_sublist.map Prod.fst) }

def takeSession (store : SessionStore) (sessionId : Uuid) : Option Uuid × SessionStore :=
  (store.sessions.lookup sessionId, store.retainSessions fun session => session.1 ≠ sessionId)

def takeCredentials (store : SessionStore) (connectionId : Uuid) : Bool × SessionStore :=
  (store.credentials.contains connectionId,
    { store with
      credentials := store.credentials.erase connectionId
      distinctCredentials := store.distinctCredentials.erase connectionId })

/-- Carries a revocation out.  The sessions of a user are counted before and after; a single
session and the credentials of a connection count once if they were there. -/
def remove (store : SessionStore) : Revocation → Nat × SessionStore
  | .allUserSessions userId =>
      let remaining := store.retainSessions fun session => session.2 ≠ userId
      (store.sessions.length - remaining.sessions.length, remaining)
  | .session sessionId =>
      let (user?, remaining) := store.takeSession sessionId
      (user?.isSome.toNat, remaining)
  | .providerCredentials connectionId =>
      let (cached, remaining) := store.takeCredentials connectionId
      (cached.toNat, remaining)

/-- Notes a revocation and carries it out; the answer is the number of entries
removed.  During an outage nothing is noted. -/
def revoke (store : SessionStore) (revocation : Revocation) :
    Except SessionStoreError Nat × SessionStore :=
  match store.outage with
  | some message => (.error (.unavailable message), store)
  | none =>
      let (removed, remaining) :=
        { store with revocations := store.revocations ++ [revocation] }.remove revocation
      (.ok removed, remaining)

end SessionStore
end WorkflowBus
