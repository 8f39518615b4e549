/-
Histories of the session store.

Sessions are opened, credentials are cached and events are published, in any order, while
everything but the store may fail or be exchanged at any time.  On the bus of the standard
catalog the store then always tells its history: a session is active from its opening until an
event revokes it, and credentials are cached from their last caching until an event drops
them.
-/

import WorkflowBus.Proofs.Since
import WorkflowBus.Proofs.Wiring.Standard

namespace WorkflowBus

/-- A call on the bus of the standard catalog or on the session store that it works with.
Between the calls all other services may become any others: the trail may fail, the sender may
be down, and either may work again. -/
inductive SessionCall where
  | openSession (userId : Uuid)
  | cacheCredentials (connectionId : Uuid)
  | publish (event : Event) (context : Option DispatchContext)
  | exchangeOthers (others : Services)

inductive SessionDeed where
  | opened (sessionId userId : Uuid)
  | cached (connectionId : Uuid)
  | published (event : Event)
  | exchangedOthers

structure SessionDesk where
  settings : BusSettings
  services : Services

namespace SessionDesk

def store (desk : SessionDesk) : SessionStore :=
  desk.services.sessions

def withServices (desk : SessionDesk) (services : Services) : SessionDesk :=
  { desk with services := services }

def carryOut (desk : SessionDesk) : SessionCall → SessionDeed × SessionDesk
  | .openSession userId =>
      let (sessionId, services) := desk.services.openSession userId
      (.opened sessionId userId, desk.withServices services)
  | .cacheCredentials connectionId =>
      (.cached connectionId,
        desk.withServices { desk.services with
          sessions := desk.store.cacheCredentials connectionId })
  | .publish event context =>
      let left := ((Wiring.bus Catalog.registry desk.settings).publish event
        ⟨desk.services, context⟩).2
      (.published event, desk.withServices left.services)
  | .exchangeOthers others =>
      (.exchangedOthers, desk.withServices { others with sessions := desk.store })

def run (desk : SessionDesk) : List SessionCall → List SessionDeed × SessionDesk
  | [] => ([], desk)
  | call :: rest =>
      let (deed, next) := desk.carryOut call
      let (deeds, after) := next.run rest
      (deed :: deeds, after)

end SessionDesk

namespace SessionDeed

/-- An event has been published that revokes the session of the user. -/
def EndsSession (sessionId userId : Uuid) : SessionDeed → Prop
  | .published event =>
      event.Revokes (.allUserSessions userId) ∨ event.Revokes (.session sessionId)
  | .opened _ _ | .cached _ | .exchangedOthers => False

/-- An event has been published that drops the credentials of the connection. -/
def DropsCredentials (connectionId : Uuid) : SessionDeed → Prop
  | .published event => event.Revokes (.providerCredentials connectionId)
  | .opened _ _ | .cached _ | .exchangedOthers => False

def openedSession? : SessionDeed → Option Uuid
  | .opened sessionId _ => some sessionId
  | .cached _ | .published _ | .exchangedOthers => none

end SessionDeed

/-! ### The store and its history -/

/-- The store works and tells its history.  An identifier that is drawn again passes from its
session to the new one. -/
structure SessionStore.Tells (store : SessionStore) (past : List SessionDeed) : Prop where
  working : store.outage = none
  sessions : ∀ sessionId userId, (sessionId, userId) ∈ store.sessions ↔
    Since (.opened sessionId userId) (fun deed => deed.EndsSession sessionId userId ∨
      deed.openedSession? = some sessionId) past
  credentials : ∀ connectionId, connectionId ∈ store.credentials ↔
    Since (.cached connectionId) (SessionDeed.DropsCredentials connectionId) past

namespace SessionStore

theorem tells_nothing : empty.Tells [] where
  working := rfl
  sessions _ _ := iff_of_false List.not_mem_nil (not_since_nil _ _)
  credentials _ := iff_of_false List.not_mem_nil (not_since_nil _ _)

variable {store after : SessionStore} {past : List SessionDeed}

theorem Tells.step (tells : store.Tells past) (deed : SessionDeed) (working : after.outage = none)
    (sessions : ∀ sessionId userId, (sessionId, userId) ∈ after.sessions ↔
      deed = .opened sessionId userId ∨ (sessionId, userId) ∈ store.sessions ∧
        ¬(deed.EndsSession sessionId userId ∨ deed.openedSession? = some sessionId))
    (credentials : ∀ connectionId, connectionId ∈ after.credentials ↔
      deed = .cached connectionId ∨
        connectionId ∈ store.credentials ∧ ¬deed.DropsCredentials connectionId) :
    after.Tells (past ++ [deed]) where
  working := working
  sessions sessionId userId := by
    rw [sessions, since_concat, tells.sessions]
  credentials connectionId := by
    rw [credentials, since_concat, tells.credentials]

theorem Tells.insertSession (tells : store.Tells past) (sessionId userId : Uuid) :
    (store.insertSession sessionId userId).Tells (past ++ [.opened sessionId userId]) := by
  refine tells.step _ tells.working ?_ ?_
  · intro otherId otherUser
    simp only [SessionStore.insertSession, List.mem_append, List.mem_filter, List.mem_singleton,
      decide_eq_true_eq, ne_eq, Prod.mk.injEq, SessionDeed.opened.injEq, SessionDeed.EndsSession,
      SessionDeed.openedSession?, Option.some.injEq, false_or, @eq_comm _ sessionId,
      @eq_comm _ userId]
    exact Or.comm
  · intro connectionId
    simp only [SessionStore.insertSession, SessionDeed.DropsCredentials, reduceCtorEq, false_or,
      not_false_eq_true, and_true]

theorem Tells.cacheCredentials (tells : store.Tells past) (connectionId : Uuid) :
    (store.cacheCredentials connectionId).Tells (past ++ [.cached connectionId]) := by
  have members (other : Uuid) : other ∈ (store.cacheCredentials connectionId).credentials ↔
      connectionId = other ∨ other ∈ store.credentials := by
    unfold SessionStore.cacheCredentials
    split
    · rename_i present
      exact (or_iff_right_of_imp fun same => same ▸ present).symm
    · rw [List.mem_cons, eq_comm]
  have others : (store.cacheCredentials connectionId).sessions = store.sessions ∧
      (store.cacheCredentials connectionId).outage = store.outage := by
    unfold SessionStore.cacheCredentials
    split <;> exact ⟨rfl, rfl⟩
  refine tells.step _ (others.2.trans tells.working) ?_ ?_
  · intro sessionId userId
    simp only [others.1, SessionDeed.EndsSession, SessionDeed.openedSession?, reduceCtorEq,
      false_or, not_false_eq_true, and_true]
  · intro other
    simp only [members, SessionDeed.cached.injEq, SessionDeed.DropsCredentials, not_false_eq_true,
      and_true]

theorem Tells.heed (tells : store.Tells past) (event : Event) :
    (store.heed event).Tells (past ++ [.published event]) := by
  refine tells.step _ ((store.outage_heed event).trans tells.working) ?_ ?_
  · intro sessionId userId
    simp only [mem_sessions_heed tells.working, SessionDeed.EndsSession,
      SessionDeed.openedSession?, reduceCtorEq, or_false, false_or]
  · intro connectionId
    simp only [mem_credentials_heed tells.working, SessionDeed.DropsCredentials, reduceCtorEq,
      false_or]

theorem Tells.exchangeOthers (tells : store.Tells past) :
    store.Tells (past ++ [.exchangedOthers]) := by
  refine tells.step _ tells.working ?_ ?_
  · intro sessionId userId
    simp only [SessionDeed.EndsSession, SessionDeed.openedSession?, reduceCtorEq, false_or,
      not_false_eq_true, and_true]
  · intro connectionId
    simp only [SessionDeed.DropsCredentials, reduceCtorEq, false_or, not_false_eq_true, and_true]

end SessionStore

theorem SessionDeed.since_opened_iff {past : List SessionDeed}
    (fresh : (past.filterMap openedSession?).Nodup) (sessionId userId : Uuid) :
    Since (.opened sessionId userId) (fun deed => deed.EndsSession sessionId userId ∨
        deed.openedSession? = some sessionId) past ↔
      Since (.opened sessionId userId) (EndsSession sessionId userId) past := by
  constructor
  · intro ⟨before, after, split, lasting⟩
    exact ⟨before, after, split, fun deed member ends => lasting deed member (Or.inl ends)⟩
  · intro ⟨before, after, split, lasting⟩
    refine ⟨before, after, split, ?_⟩
    intro deed member either
    rcases either with ends | again
    · exact lasting deed member ends
    · -- A later opening under the same identifier would be its second.
      have opening : openedSession? (.opened sessionId userId) = some sessionId := rfl
      rw [split, List.filterMap_append, List.filterMap_cons_some opening] at fresh
      have unopened := (List.nodup_cons.mp (List.nodup_append.mp fresh).2.1).1
      exact unopened (List.mem_filterMap.mpr ⟨deed, member, again⟩)

namespace SessionDesk

theorem store_publish (desk : SessionDesk) (event : Event) (context : Option DispatchContext) :
    (desk.carryOut (.publish event context)).2.store = desk.store.heed event := by
  simp only [carryOut, withServices, store]
  exact Catalog.sessions_publish_standard desk.settings event ⟨desk.services, context⟩

theorem carryOut_tells {desk : SessionDesk} {past : List SessionDeed}
    (tells : desk.store.Tells past) (call : SessionCall) :
    (desk.carryOut call).2.store.Tells (past ++ [(desk.carryOut call).1]) := by
  cases call with
  | openSession userId => exact tells.insertSession _ userId
  | cacheCredentials connectionId => exact tells.cacheCredentials connectionId
  | publish event context =>
      -- The handler of invalidation is called whatever became of those called before it.
      rw [store_publish]
      exact tells.heed event
  | exchangeOthers others => exact tells.exchangeOthers

theorem run_tells {desk : SessionDesk} {past : List SessionDeed} (tells : desk.store.Tells past)
    (calls : List SessionCall) :
    (desk.run calls).2.store.Tells (past ++ (desk.run calls).1) := by
  induction calls generalizing desk past with
  | nil =>
      rw [run, List.append_nil]
      exact tells
  | cons call rest ih =>
      have later := ih (carryOut_tells tells call)
      rw [List.append_assoc] at later
      exact later

/-- An event that revokes all sessions of a user leaves the user none, and to others theirs. -/
theorem publish_of_revokes {desk : SessionDesk} (working : desk.store.outage = none)
    {event : Event} {userId : Uuid} (revokes : event.Revokes (.allUserSessions userId))
    (context : Option DispatchContext) :
    let next := (desk.carryOut (.publish event context)).2
    next.store.activeSessions userId = 0 ∧
      ∀ other, other ≠ userId → next.store.sessions.filter (fun session => session.2 = other) =
        desk.store.sessions.filter fun session => session.2 = other := by
  have left : (desk.carryOut (.publish event context)).2.store.sessions =
      desk.store.sessions.filter fun session => session.2 ≠ userId := by
    rw [store_publish, SessionStore.heed_of_revokes working revokes]
    simp [SessionStore.revoked, SessionStore.without, Revocation.namesSession]
  generalize (desk.carryOut (.publish event context)).2 = next at left
  refine ⟨?_, ?_⟩
  · rw [SessionStore.activeSessions, left, List.countP_eq_zero]
    intro session member own
    exact of_decide_eq_true (List.mem_filter.mp member).2 (eq_of_beq own)
  · intro other different
    rw [left, List.filter_filter]
    congr 1
    funext session
    by_cases own : session.2 = other
    · simp only [own, different, ne_eq, not_false_eq_true, decide_true, Bool.and_self]
    · simp only [own, decide_false, Bool.false_and]

/-- Revocation holds over runs.  Let the store be empty at first, let calls come in any order
while the other services fail or not, and let every session be opened under an identifier of
its own.  Then a session of a user is active if and only if it has been opened for the user and
no event that revokes it has been published since; credentials are cached if and only if they
have been cached and no event that drops them has been published since; and right after an event
that revokes all sessions of a user the user has none, and the sessions of all others are as
before. -/
theorem run_revokes (desk : SessionDesk) (calls : List SessionCall) (empty : desk.store = .empty)
    (fresh : ((desk.run calls).1.filterMap SessionDeed.openedSession?).Nodup) :
    let past := (desk.run calls).1
    let after := (desk.run calls).2
    (∀ sessionId userId, (sessionId, userId) ∈ after.store.sessions ↔
        Since (.opened sessionId userId) (SessionDeed.EndsSession sessionId userId) past) ∧
      (∀ connectionId, after.store.hasCredentials connectionId = true ↔
        Since (.cached connectionId) (SessionDeed.DropsCredentials connectionId) past) ∧
      ∀ event context userId, event.Revokes (.allUserSessions userId) →
        let next := (after.carryOut (.publish event context)).2
        next.store.activeSessions userId = 0 ∧
          ∀ other, other ≠ userId →
            next.store.sessions.filter (fun session => session.2 = other) =
              after.store.sessions.filter fun session => session.2 = other := by
  intro past after
  have tells : after.store.Tells past :=
    run_tells (by rw [empty]; exact SessionStore.tells_nothing) calls
  refine ⟨?_, ?_, ?_⟩
  · intro sessionId userId
    rw [tells.sessions, SessionDeed.since_opened_iff fresh]
  · intro connectionId
    rw [SessionStore.hasCredentials, List.contains_iff_mem, tells.credentials]
  · intro event context userId revokes
    exact publish_of_revokes tells.working revokes context

/-- One user's password is changed while the trail and the sender are out of order: the session
of the user is revoked, and that of another user stays. -/
theorem password_change_revokes :
    let desk : SessionDesk := ⟨.default,
      .start ⟨⟨[], some "down"⟩, .ofDelivery (.down "down"), .empty, .memory []⟩ .numbered .epoch⟩
    let calls : List SessionCall := [.openSession (.numbered 7), .openSession (.numbered 8),
      .publish ⟨.numbered 9, .epoch,
        .lifecycle (.passwordChangeSucceeded (.numbered 7) "user@example.org" "user")⟩ none]
    desk.store = .empty ∧
      ((desk.run calls).1.filterMap SessionDeed.openedSession?).Nodup ∧
      (.numbered 1, .numbered 7) ∉ (desk.run calls).2.store.sessions ∧
      (.numbered 2, .numbered 8) ∈ (desk.run calls).2.store.sessions := by
  intro desk calls
  have past : (desk.run calls).1 = [.opened (.numbered 1) (.numbered 7),
      .opened (.numbered 2) (.numbered 8), .published ⟨.numbered 9, .epoch,
        .lifecycle (.passwordChangeSucceeded (.numbered 7) "user@example.org" "user")⟩] := rfl
  have fresh : ((desk.run calls).1.filterMap SessionDeed.openedSession?).Nodup := by
    rw [past]
    decide
  obtain ⟨sessions, _credentials, _afterwards⟩ := run_revokes desk calls rfl fresh
  refine ⟨rfl, fresh, ?_, ?_⟩
  · rw [sessions, past]
    intro active
    rcases (since_concat [_, _] _).mp active with opening | ⟨_opened, lasts⟩
    · cases opening
    · exact lasts (Or.inl (.passwordChange _ _ _ _ _))
  · rw [sessions, past]
    refine ⟨[_], [_], rfl, ?_⟩
    intro deed member ends
    cases List.mem_singleton.mp member
    have revokes := Event.Revokes.passwordChange (.numbered 9) .epoch (.numbered 7)
      "user@example.org" "user"
    rcases ends with all | one
    · exact absurd ((revokes.iff_eq _).mp all) (by decide)
    · exact absurd ((revokes.iff_eq _).mp one) (by decide)

end SessionDesk
end WorkflowBus
