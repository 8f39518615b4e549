/-
Publishing by several tasks at once.

Tasks that share a bus and its services each publish their events one after the other, and
take turns in any order.  In one turn a task takes up its next event, has one handler
invoked, or files the report of the event.  If what becomes of an invocation is settled by
the event and the subscription, each task gets the reports that it would get by itself.
-/

import Mathlib.Logic.Function.Basic
import WorkflowBus.Bus.Publish

namespace WorkflowBus

open EventBus

/-- A publish call under way: what became of the handlers invoked so far, and the
subscriptions whose turn is still to come. -/
structure Publication where
  event : Event
  outcomes : List Outcome
  pending : List Subscription

structure HandlerCall where
  event : Event
  outcome : Outcome

/-- A task with the reports of the events that it has published, the event that it is
publishing, and the events that wait. -/
structure Task where
  reports : List PublishReport
  current : Option Publication
  waiting : List Event

namespace Task

def start (events : List Event) : Task where
  reports := []
  current := none
  waiting := events

/-- One turn of a task with the services as they stand: the invocation made in it, if there
is one, the task afterwards, and the services.  Nothing is lent to the handlers. -/
def advance (bus : EventBus) (task : Task) (services : Services) :
    Option HandlerCall × Task × Services :=
  match task.current with
  | none =>
      match task.waiting with
      | [] => (none, task, services)
      | event :: waiting =>
          let subscriptions := bus.subscriptionsTo event.eventType
          (none, { task with current := some ⟨event, [], subscriptions⟩, waiting := waiting },
            if subscriptions.isEmpty then services.withTraces [unheardTrace event] else services)
  | some ⟨event, outcomes, []⟩ =>
      (none, { task with
        reports := task.reports ++ [⟨event.id, event.eventType, outcomes⟩]
        current := none }, services)
  | some ⟨event, outcomes, subscription :: pending⟩ =>
      let (outcome, scope) :=
        deliver bus.settings.handlerTimeout event subscription ⟨services, none⟩
      (some ⟨event, outcome⟩,
        { task with current := some ⟨event, outcomes ++ [outcome], pending⟩ }, scope.services)

end Task

structure Turn where
  task : Nat
  time : Instant

structure TaskPool where
  tasks : Nat → Task
  services : Services

namespace TaskPool

def start (services : Services) (events : Nat → List Event) : TaskPool where
  tasks := fun task => .start (events task)
  services := services

/-- Lets one task take a turn: the invocation made in it, with the task that it was made
for, and the pool afterwards. -/
def take (bus : EventBus) (turn : Turn) (pool : TaskPool) : List (Nat × HandlerCall) × TaskPool :=
  let (call, task, services) :=
    (pool.tasks turn.task).advance bus { pool.services with now := turn.time }
  (call.toList.map fun call => (turn.task, call),
    ⟨Function.update pool.tasks turn.task task, services⟩)

def run (bus : EventBus) : List Turn → TaskPool → List (Nat × HandlerCall) × TaskPool
  | [], pool => ([], pool)
  | turn :: later, pool =>
      let (calls, next) := pool.take bus turn
      let (more, last) := run bus later next
      (calls ++ more, last)

theorem run_append (bus : EventBus) (first second : List Turn) (pool : TaskPool) :
    (run bus (first ++ second) pool).2 = (run bus second (run bus first pool).2).2 := by
  induction first generalizing pool with
  | nil => rfl
  | cons turn rest ih => exact ih (pool.take bus turn).2

def callsOf (task : Nat) (calls : List (Nat × HandlerCall)) : List HandlerCall :=
  (calls.filter fun call => call.1 = task).map Prod.snd

theorem callsOf_append (task : Nat) (first second : List (Nat × HandlerCall)) :
    callsOf task (first ++ second) = callsOf task first ++ callsOf task second := by
  rw [callsOf, List.filter_append, List.map_append, callsOf, callsOf]

theorem callsOf_own (task : Nat) (calls : List HandlerCall) :
    callsOf task (calls.map fun call => (task, call)) = calls := by
  rw [callsOf, List.filter_eq_self.mpr, List.map_map]
  · exact List.map_id calls
  · intro call member
    obtain ⟨_call, _member, rfl⟩ := List.mem_map.mp member
    exact decide_eq_true rfl

theorem callsOf_other {task other : Nat} (different : other ≠ task) (calls : List HandlerCall) :
    callsOf task (calls.map fun call => (other, call)) = [] := by
  rw [callsOf, List.filter_eq_nil_iff.mpr, List.map_nil]
  intro call member
  obtain ⟨_call, _member, rfl⟩ := List.mem_map.mp member
  exact fun same => different (of_decide_eq_true same)

end TaskPool

/-! ### Settled invocations -/

/-- What becomes of an invocation is settled as long as the services hold what they have to
hold after the invocations so far, and each invocation leaves them so. -/
structure EventBus.Settled (bus : EventBus) (ending : Event → Subscription → Outcome)
    (holds : List HandlerCall → Services → Prop) : Prop where
  outcome : ∀ event, ∀ subscription ∈ bus.subscriptionsTo event.eventType, ∀ past services,
    holds past services →
      (deliver bus.settings.handlerTimeout event subscription ⟨services, none⟩).1 =
        ending event subscription
  delivered : ∀ event, ∀ subscription ∈ bus.subscriptionsTo event.eventType, ∀ past services,
    holds past services → holds (past ++ [⟨event, ending event subscription⟩])
      (deliver bus.settings.handlerTimeout event subscription ⟨services, none⟩).2.services
  timed : ∀ past services time, holds past services → holds past { services with now := time }
  traced : ∀ past services traces, holds past services → holds past (services.withTraces traces)

section Settled

variable {bus : EventBus} {ending : Event → Subscription → Outcome}
  {holds : List HandlerCall → Services → Prop}

def settledCalls (bus : EventBus) (ending : Event → Subscription → Outcome) (event : Event) :
    List HandlerCall :=
  (bus.subscriptionsTo event.eventType).map fun subscription => ⟨event, ending event subscription⟩

def settledReport (bus : EventBus) (ending : Event → Subscription → Outcome) (event : Event) :
    PublishReport :=
  ⟨event.id, event.eventType, (bus.subscriptionsTo event.eventType).map (ending event)⟩

/-- How far a task has come with its events, and which invocations were made for it: each
event that it has published has its report, and of the event that it is publishing some
handlers have been invoked. -/
inductive Task.Reaches (bus : EventBus) (ending : Event → Subscription → Outcome)
    (events : List Event) : List HandlerCall → Task → Prop
  | idle (published waiting : List Event) (all : events = published ++ waiting) :
      Reaches bus ending events (published.flatMap (settledCalls bus ending))
        ⟨published.map (settledReport bus ending), none, waiting⟩
  | busy (published : List Event) (event : Event) (waiting : List Event)
      (invoked pending : List Subscription) (all : events = published ++ event :: waiting)
      (subscribed : bus.subscriptionsTo event.eventType = invoked ++ pending) :
      Reaches bus ending events
        (published.flatMap (settledCalls bus ending) ++
          invoked.map fun subscription => ⟨event, ending event subscription⟩)
        ⟨published.map (settledReport bus ending),
          some ⟨event, invoked.map (ending event), pending⟩, waiting⟩

theorem Task.Reaches.advance (settled : bus.Settled ending holds) {events : List Event}
    {own past : List HandlerCall} {task : Task} {services : Services}
    (reaches : Task.Reaches bus ending events own task) (held : holds past services) :
    let (call, next, left) := task.advance bus services
    Task.Reaches bus ending events (own ++ call.toList) next ∧
      holds (past ++ call.toList) left := by
  cases reaches with
  | idle published waiting all =>
      cases waiting with
      | nil =>
          simp only [Task.advance, Option.toList_none, List.append_nil]
          exact ⟨.idle published [] all, held⟩
      | cons event waiting =>
          simp only [Task.advance, Option.toList_none]
          constructor
          · exact .busy published event waiting [] _ all rfl
          · rw [List.append_nil]
            split
            · exact settled.traced past services _ held
            · exact held
  | busy published event waiting invoked pending all subscribed =>
      cases pending with
      | nil =>
          rw [List.append_nil] at subscribed
          simp only [Task.advance, Option.toList_none, List.append_nil]
          refine ⟨?_, held⟩
          have reached : Task.Reaches bus ending events _ _ := .idle (published ++ [event]) waiting
            (all.trans (List.append_cons published event waiting))
          simp only [List.flatMap_append, List.flatMap_singleton, List.map_append, List.map_cons,
            List.map_nil, settledCalls, settledReport, subscribed] at reached
          exact reached
      | cons subscription pending =>
          have member : subscription ∈ bus.subscriptionsTo event.eventType := by
            rw [subscribed]
            exact List.mem_append_right invoked List.mem_cons_self
          have outcome := settled.outcome event subscription member past services held
          have delivered := settled.delivered event subscription member past services held
          simp only [Task.advance, Option.toList_some, outcome]
          refine ⟨?_, delivered⟩
          have reached : Task.Reaches bus ending events _ _ := .busy published event waiting
            (invoked ++ [subscription]) pending all (subscribed.trans (List.append_cons _ _ _))
          simp only [List.map_append, List.map_cons, List.map_nil, ← List.append_assoc] at reached
          exact reached

theorem Task.Reaches.reports_first {events : List Event} {own : List HandlerCall} {task : Task}
    (reaches : Task.Reaches bus ending events own task) :
    task.reports <+: events.map (settledReport bus ending) := by
  cases reaches with
  | idle published waiting all =>
      rw [all, List.map_append]
      exact List.prefix_append _ _
  | busy published event waiting invoked pending all subscribed =>
      rw [all, List.map_append]
      exact List.prefix_append _ _

theorem Task.Reaches.calls_first {events : List Event} {own : List HandlerCall} {task : Task}
    (reaches : Task.Reaches bus ending events own task) :
    own <+: events.flatMap (settledCalls bus ending) := by
  cases reaches with
  | idle published waiting all =>
      rw [all, List.flatMap_append]
      exact List.prefix_append _ _
  | busy published event waiting invoked pending all subscribed =>
      rw [all, List.flatMap_append, List.flatMap_cons, settledCalls, subscribed, List.map_append,
        List.append_assoc, ← List.append_assoc _ (List.map _ invoked)]
      exact List.prefix_append _ _

/-- The turns that a task still takes: one to take an event up, one for each handler, and
one to file the report. -/
def Task.workload (bus : EventBus) (task : Task) : Nat :=
  (task.current.map fun publication => publication.pending.length + 1).getD 0 +
    (task.waiting.flatMap fun event => bus.subscriptionsTo event.eventType).length +
    2 * task.waiting.length

theorem Task.workload_advance (bus : EventBus) (task : Task) (services : Services) :
    (task.advance bus services).2.1.workload bus = task.workload bus - 1 := by
  obtain ⟨reports, current, waiting⟩ := task
  cases current with
  | none =>
      cases waiting with
      | nil => rfl
      | cons event waiting =>
          simp only [advance, workload, Option.map_some, Option.getD_some, Option.map_none,
            Option.getD_none, List.flatMap_cons, List.length_append, List.length_cons]
          omega
  | some publication =>
      obtain ⟨event, outcomes, pending⟩ := publication
      cases pending with
      | nil =>
          simp only [advance, workload, Option.map_some, Option.getD_some, Option.map_none,
            Option.getD_none, List.length_nil]
          omega
      | cons subscription pending =>
          simp only [advance, workload, Option.map_some, Option.getD_some, List.length_cons]
          omega

theorem Task.Reaches.of_done {events : List Event} {own : List HandlerCall} {task : Task}
    (reaches : Task.Reaches bus ending events own task) (done : task.workload bus = 0) :
    task.reports = events.map (settledReport bus ending) ∧
      own = events.flatMap (settledCalls bus ending) := by
  cases reaches with
  | idle published waiting all =>
      cases waiting with
      | nil =>
          rw [all, List.append_nil]
          exact ⟨rfl, rfl⟩
      | cons event waiting =>
          simp only [workload, List.length_cons] at done
          omega
  | busy published event waiting invoked pending all subscribed =>
      simp only [workload, Option.map_some, Option.getD_some] at done
      omega

/-! ### All tasks -/

namespace TaskPool

structure Reaches (bus : EventBus) (ending : Event → Subscription → Outcome)
    (holds : List HandlerCall → Services → Prop) (events : Nat → List Event)
    (calls : List (Nat × HandlerCall)) (pool : TaskPool) : Prop where
  tasks : ∀ task, Task.Reaches bus ending (events task) (callsOf task calls) (pool.tasks task)
  services : holds (calls.map Prod.snd) pool.services

theorem start_reaches {services : Services} (held : holds [] services)
    (events : Nat → List Event) :
    Reaches bus ending holds events [] (.start services events) where
  tasks := fun task => .idle [] (events task) rfl
  services := held

theorem Reaches.take (settled : bus.Settled ending holds) {events : Nat → List Event}
    {calls : List (Nat × HandlerCall)} {pool : TaskPool}
    (reaches : Reaches bus ending holds events calls pool) (turn : Turn) :
    Reaches bus ending holds events (calls ++ (pool.take bus turn).1) (pool.take bus turn).2 := by
  have timed := settled.timed _ _ turn.time reaches.services
  obtain ⟨own, held⟩ := (reaches.tasks turn.task).advance settled timed
  exact
    { tasks := by
        intro task
        simp only [TaskPool.take, callsOf_append]
        by_cases same : task = turn.task
        · subst same
          rw [callsOf_own, Function.update_self]
          exact own
        · rw [callsOf_other (Ne.symm same), List.append_nil, Function.update_of_ne same]
          exact reaches.tasks task
      services := by
        simp only [TaskPool.take, List.map_append, List.map_map]
        exact (List.map_id _).symm ▸ held }

theorem Reaches.run (settled : bus.Settled ending holds) {events : Nat → List Event}
    {calls : List (Nat × HandlerCall)} {pool : TaskPool}
    (reaches : Reaches bus ending holds events calls pool) (turns : List Turn) :
    Reaches bus ending holds events (calls ++ (TaskPool.run bus turns pool).1)
      (TaskPool.run bus turns pool).2 := by
  induction turns generalizing calls pool with
  | nil => exact (List.append_nil calls).symm ▸ reaches
  | cons turn later ih =>
      have last := ih (reaches.take settled turn)
      rw [List.append_assoc] at last
      exact last

theorem workload_take (bus : EventBus) (turn : Turn) (pool : TaskPool) (task : Nat) :
    ((pool.take bus turn).2.tasks task).workload bus =
      (pool.tasks task).workload bus - if turn.task = task then 1 else 0 := by
  simp only [take]
  by_cases same : turn.task = task
  · subst same
    rw [Function.update_self, if_pos rfl]
    exact Task.workload_advance bus _ _
  · rw [Function.update_of_ne (Ne.symm same), if_neg same, Nat.sub_zero]

theorem workload_run (bus : EventBus) (turns : List Turn) (pool : TaskPool) (task : Nat) :
    ((run bus turns pool).2.tasks task).workload bus =
      (pool.tasks task).workload bus - turns.countP fun turn => turn.task = task := by
  induction turns generalizing pool with
  | nil => rfl
  | cons turn later ih =>
      refine (ih (pool.take bus turn).2).trans ?_
      rw [workload_take, List.countP_cons, Nat.sub_sub]
      simp only [decide_eq_true_eq, Nat.add_comm]

end TaskPool

end Settled

end WorkflowBus
