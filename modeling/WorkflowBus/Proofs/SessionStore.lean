/-
Revoking one subject after the other.

A store that works removes what a revocation names and nothing else, so a list of revocations
leaves what none of them names.  Which of them removes an entry that several name depends on
their order, and with it each count; what is left and the sum of the counts do not.
-/

import Mathlib
import WorkflowBus.SessionStore

namespace WorkflowBus

namespace Revocation

def namesSession : Revocation → Uuid × Uuid → Bool
  | .allUserSessions userId, opened => opened.2 = userId
  | .session sessionId, opened => opened.1 = sessionId
  | .providerCredentials _, _ => false

def namesCredentials : Revocation → Uuid → Bool
  | .providerCredentials connectionId, cached => cached = connectionId
  | .allUserSessions _, _ | .session _, _ => false

end Revocation

namespace SessionStore

/-- The store without the sessions and credentials that any of the revocations names. -/
def without (store : SessionStore) (revocations : List Revocation) : SessionStore :=
  { store with
    sessions := store.sessions.filter fun session =>
      !revocations.any fun revocation => revocation.namesSession session
    credentials := store.credentials.filter fun cached =>
      !revocations.any fun revocation => revocation.namesCredentials cached
    distinctSessions := store.distinctSessions.sublist (List.filter_sublist.map Prod.fst)
    distinctCredentials := store.distinctCredentials.sublist List.filter_sublist }

theorem without_nil (store : SessionStore) : store.without [] = store := by
  simp only [without, List.any_nil, Bool.not_false, List.filter_true]

theorem without_without (store : SessionStore) (first second : List Revocation) :
    (store.without first).without second = store.without (first ++ second) := by
  simp only [without, List.filter_filter, List.any_append, Bool.not_or, Bool.and_comm]

theorem without_congr {first second : List Revocation}
    (same : ∀ revocation, revocation ∈ first ↔ revocation ∈ second) (store : SessionStore) :
    store.without first = store.without second := by
  have anyOf (test : Revocation → Bool) : first.any test = second.any test := by
    rw [Bool.eq_iff_iff, List.any_eq_true, List.any_eq_true]
    simp only [same]
  simp only [without, anyOf]

def size (store : SessionStore) : Nat :=
  store.sessions.length + store.credentials.length

theorem isSome_lookup_add_length {sessions : List (Uuid × Uuid)}
    (distinct : (sessions.map Prod.fst).Nodup) (sessionId : Uuid) :
    (sessions.lookup sessionId).isSome.toNat +
      (sessions.filter fun session => session.1 ≠ sessionId).length = sessions.length := by
  induction sessions with
  | nil => rfl
  | cons head rest ih =>
      obtain ⟨fresh, restDistinct⟩ := List.nodup_cons.mp distinct
      obtain ⟨opened, user⟩ := head
      by_cases here : opened = sessionId
      · subst here
        have others : rest.filter (fun session => session.1 ≠ opened) = rest := by
          rw [List.filter_eq_self]
          exact fun session member => decide_eq_true fun same =>
            fresh (List.mem_map.mpr ⟨session, member, same⟩)
        rw [List.lookup_cons_self, List.filter_cons_of_neg (by simp), others, List.length_cons]
        exact Nat.add_comm 1 rest.length
      · have elsewhere : (sessionId == opened) = false := beq_eq_false_iff_ne.mpr (Ne.symm here)
        rw [List.lookup_cons, elsewhere, List.filter_cons_of_pos (by simpa using here),
          List.length_cons, List.length_cons, ← Nat.add_assoc]
        exact congrArg Nat.succ (ih restDistinct)

theorem contains_add_length_erase (credentials : List Uuid) (connectionId : Uuid) :
    (credentials.contains connectionId).toNat + (credentials.erase connectionId).length =
      credentials.length := by
  by_cases cached : connectionId ∈ credentials
  · have some := List.length_pos_of_mem cached
    rw [List.contains_iff_mem.mpr cached, List.length_erase_of_mem cached, Bool.toNat_true]
    omega
  · rw [List.erase_of_not_mem cached, Bool.eq_false_iff.mpr (mt List.contains_iff_mem.mp cached)]
    exact Nat.zero_add _

theorem remove_eq_without (store : SessionStore) (revocation : Revocation) :
    (store.remove revocation).2 = store.without [revocation] := by
  cases revocation with
  | allUserSessions userId =>
      simp [remove, retainSessions, without, Revocation.namesSession,
        Revocation.namesCredentials]
  | session sessionId =>
      simp [remove, takeSession, retainSessions, without, Revocation.namesSession,
        Revocation.namesCredentials]
  | providerCredentials connectionId =>
      simp [remove, takeCredentials, without, Revocation.namesSession,
        Revocation.namesCredentials, store.distinctCredentials.erase_eq_filter, bne,
        beq_eq_decide]

/-- Of every kind, a revocation is answered by the number of entries that are gone.  That a
single session and the credentials of a connection are stored once is needed here. -/
theorem remove_count (store : SessionStore) (revocation : Revocation) :
    (store.remove revocation).1 + (store.remove revocation).2.size = store.size := by
  cases revocation with
  | allUserSessions userId =>
      have fewer := List.length_filter_le (fun session => decide (session.2 ≠ userId))
        store.sessions
      simp only [remove, retainSessions, size]
      omega
  | session sessionId =>
      have once := isSome_lookup_add_length store.distinctSessions sessionId
      simp only [remove, takeSession, retainSessions, size]
      omega
  | providerCredentials connectionId =>
      have once := contains_add_length_erase store.credentials connectionId
      simp only [remove, takeCredentials, size]
      omega

def revoked (store : SessionStore) (revocations : List Revocation) : SessionStore :=
  { store.without revocations with revocations := store.revocations ++ revocations }

theorem size_revoked (store : SessionStore) (revocations : List Revocation) :
    (store.revoked revocations).size = (store.without revocations).size :=
  rfl

theorem revoke_eq {store : SessionStore} (working : store.outage = none)
    (revocation : Revocation) :
    ∃ count, store.revoke revocation = (.ok count, store.revoked [revocation]) ∧
      count + (store.revoked [revocation]).size = store.size := by
  let noted : SessionStore := { store with revocations := store.revocations ++ [revocation] }
  have left : (noted.remove revocation).2 = store.revoked [revocation] :=
    noted.remove_eq_without revocation
  refine ⟨(noted.remove revocation).1, ?_, ?_⟩
  · rw [← left, revoke]
    split
    · rename_i outage
      cases working.symm.trans outage
    · rfl
  · rw [← left]
    exact noted.remove_count revocation

theorem outage_revoke (store : SessionStore) (revocation : Revocation) :
    (store.revoke revocation).2.outage = store.outage := by
  cases working : store.outage with
  | some message => simp only [revoke, working]
  | none =>
      obtain ⟨count, carriedOut, _removed⟩ := revoke_eq working revocation
      rw [carriedOut]
      exact working

/-! ### Revocations in a row -/

def revokeAll (store : SessionStore) :
    List Revocation → List (Except SessionStoreError Nat) × SessionStore
  | [] => ([], store)
  | revocation :: rest =>
      let (answer, next) := store.revoke revocation
      let (answers, after) := next.revokeAll rest
      (answer :: answers, after)

theorem revoked_cons (store : SessionStore) (revocation : Revocation)
    (rest : List Revocation) :
    (store.revoked [revocation]).revoked rest = store.revoked (revocation :: rest) := by
  have left := store.without_without [revocation] rest
  simp only [revoked, without, SessionStore.mk.injEq] at left ⊢
  exact ⟨left.1, left.2.1, List.append_assoc _ _ _, trivial⟩

/-- Every revocation is answered by a count, and the counts add up to what is gone. -/
theorem revokeAll_eq {store : SessionStore} (working : store.outage = none)
    (revocations : List Revocation) :
    ∃ counts : List Nat,
      store.revokeAll revocations = (counts.map .ok, store.revoked revocations) ∧
        counts.length = revocations.length ∧
        counts.sum + (store.revoked revocations).size = store.size := by
  induction revocations generalizing store with
  | nil =>
      refine ⟨[], ?_, rfl, ?_⟩
      · simp only [revokeAll, revoked, without_nil, List.append_nil, List.map_nil]
      · rw [size_revoked, without_nil, List.sum_nil, Nat.zero_add]
  | cons revocation rest ih =>
      obtain ⟨count, first, removed⟩ := revoke_eq working revocation
      have stillWorking : (store.revoked [revocation]).outage = none := working
      obtain ⟨counts, carriedOut, lengths, sum⟩ := ih stillWorking
      rw [revoked_cons] at carriedOut sum
      refine ⟨count :: counts, ?_, ?_, ?_⟩
      · simp only [revokeAll, first, carriedOut, List.map_cons]
      · rw [List.length_cons, List.length_cons, lengths]
      · rw [List.sum_cons]
        omega

theorem revokeAll_revoked {store : SessionStore} (working : store.outage = none)
    (revocations : List Revocation) :
    (store.revoked revocations).revokeAll revocations =
      (List.replicate revocations.length (.ok 0),
        { store.revoked revocations with
          revocations := store.revocations ++ revocations ++ revocations }) := by
  have twice : store.without (revocations ++ revocations) = store.without revocations :=
    without_congr (by simp) store
  have nothing : (store.revoked revocations).without revocations = store.revoked revocations := by
    have again := (store.without_without revocations revocations).trans twice
    simp only [revoked, without, SessionStore.mk.injEq] at again ⊢
    exact ⟨again.1, again.2.1, trivial, trivial⟩
  have stillWorking : (store.revoked revocations).outage = none := working
  obtain ⟨counts, carriedOut, lengths, sum⟩ := revokeAll_eq stillWorking revocations
  have zero : counts.sum = 0 := by
    rw [size_revoked, nothing] at sum
    omega
  have zeros : counts = List.replicate revocations.length 0 := by
    rw [List.eq_replicate_iff]
    exact ⟨lengths, fun count member => List.sum_eq_zero_iff.mp zero count member⟩
  rw [carriedOut, zeros, List.map_replicate, revoked, nothing]
  rfl

/-- Revocations are exact, and their order does not matter.  A store that works answers each of
them with a count, and the counts add up to the number of sessions and credentials that are
gone; it keeps exactly what no revocation names, and notes every revocation, whether it removed
anything or not.  In any other order they leave the same and remove as much, and carried out
once more they remove nothing. -/
theorem revokeAll_exact (store : SessionStore) (working : store.outage = none)
    (revocations : List Revocation) :
    ∃ (counts : List Nat) (after : SessionStore),
      store.revokeAll revocations = (counts.map .ok, after) ∧
        counts.sum + (after.sessions.length + after.credentials.length) =
          store.sessions.length + store.credentials.length ∧
        (after.sessions = store.sessions.filter fun session =>
          !revocations.any fun revocation => revocation.namesSession session) ∧
        (after.credentials = store.credentials.filter fun cached =>
          !revocations.any fun revocation => revocation.namesCredentials cached) ∧
        after.revocations = store.revocations ++ revocations ∧
        (∀ order : List Revocation, order.Perm revocations →
          ∃ (otherCounts : List Nat) (other : SessionStore),
            store.revokeAll order = (otherCounts.map .ok, other) ∧
              other.sessions = after.sessions ∧ other.credentials = after.credentials ∧
              otherCounts.sum = counts.sum) ∧
        after.revokeAll revocations =
          (List.replicate revocations.length (.ok 0),
            { after with revocations := after.revocations ++ revocations }) := by
  obtain ⟨counts, carriedOut, _lengths, sum⟩ := revokeAll_eq working revocations
  refine ⟨counts, store.revoked revocations, carriedOut, sum, rfl, rfl, rfl, ?_,
    revokeAll_revoked working revocations⟩
  intro order reordered
  obtain ⟨otherCounts, otherCarriedOut, _otherLengths, otherSum⟩ := revokeAll_eq working order
  have left : store.without order = store.without revocations :=
    without_congr (fun _ => reordered.mem_iff) store
  refine ⟨otherCounts, store.revoked order, otherCarriedOut, ?_, ?_, ?_⟩
  · show (store.without order).sessions = (store.without revocations).sessions
    rw [left]
  · show (store.without order).credentials = (store.without revocations).credentials
    rw [left]
  · rw [size_revoked, left, ← size_revoked] at otherSum
    omega

/-- A session is revoked with all others of its user and by itself: the counts tell which came
first, and their sum does not. -/
theorem overlapping_revocations :
    let store : SessionStore :=
      ⟨[(.numbered 1, .numbered 7), (.numbered 2, .numbered 7), (.numbered 3, .numbered 8)],
        [.numbered 9], [], none, by decide, by decide⟩
    let revocations : List Revocation :=
      [.session (.numbered 1), .allUserSessions (.numbered 7), .providerCredentials (.numbered 6)]
    store.outage = none ∧
      (store.revokeAll revocations).1 = [.ok 1, .ok 1, .ok 0] ∧
      (store.revokeAll revocations.reverse).1 = [.ok 0, .ok 2, .ok 0] ∧
      (store.revokeAll revocations).2.sessions = [(.numbered 3, .numbered 8)] ∧
      (store.revokeAll revocations.reverse).2.sessions = [(.numbered 3, .numbered 8)] := by
  intro store revocations
  have working : store.outage = none := rfl
  obtain ⟨counts, after, carriedOut, _sum, left, _credentials, _noted, anyOrder, _again⟩ :=
    revokeAll_exact store working revocations
  obtain ⟨otherCounts, other, otherCarriedOut, same, _⟩ :=
    anyOrder revocations.reverse (List.reverse_perm revocations)
  have kept : after.sessions = [(.numbered 3, .numbered 8)] := by
    rw [left]
    rfl
  refine ⟨working, rfl, rfl, ?_, ?_⟩
  · rw [carriedOut, kept]
  · rw [otherCarriedOut, same, kept]

end SessionStore
end WorkflowBus
