/-
What the operations interface shows of the table of subscriptions.

The page of all subscriptions shows the live ones, by event type and then by position, and
the handler that it shows at a position of an event type is the one that stands there in the
report of any event of that type.  The pages of the entries of a registry that the check
finds nothing against show the same once more, cut up by entries: no subscription is shown
twice, and none is on no page unless no entry declares its event type.
-/

import WorkflowBus.Handler.Category
import WorkflowBus.Proofs.Api.Routing
import WorkflowBus.Proofs.Bus.History
import WorkflowBus.Proofs.Compliance.Findings
import WorkflowBus.Proofs.Registry.WellFormed

namespace WorkflowBus

namespace EventBus

theorem map_handler_deliverAll (limit : Option Duration) (event : Event)
    (subscriptions : List Subscription) (scope : Scope) :
    (deliverAll limit event subscriptions scope).1.map Outcome.handler =
      subscriptions.map Subscription.id := by
  induction subscriptions generalizing scope with
  | nil => rfl
  | cons subscription rest ih => exact congrArg (subscription.id :: ·) (ih _)

theorem invoked_publish (bus : EventBus) (event : Event) (scope : Scope) :
    (bus.publish event scope).1.invoked = bus.handlersFor event.eventType := by
  rw [bus.publish_eq, handlersFor_eq_map]
  exact map_handler_deliverAll _ event _ _

end EventBus

namespace SubscriptionView

/-- A view stands before another if its event type does, or if they show one event type
and its handler is invoked first. -/
def Before (left right : SubscriptionView) : Prop :=
  left.eventType.rank < right.eventType.rank ∨
    left.eventType = right.eventType ∧ left.position < right.position

theorem eventType_of_mem {bus : EventBus} {eventType : EventType} {view : SubscriptionView}
    (member : view ∈ ofEventType bus eventType) : view.eventType = eventType := by
  obtain ⟨_numbered, _member, rfl⟩ := List.mem_map.mp member
  rfl

theorem ofEventType_of_unheard {bus : EventBus} {eventType : EventType}
    (unheard : eventType ∉ bus.eventTypes) : ofEventType bus eventType = [] := by
  have nobody : bus.handlersFor eventType = [] :=
    Decidable.not_not.mp fun some => unheard ((bus.mem_eventTypes eventType).mpr some)
  rw [ofEventType, nobody]
  rfl

theorem map_ofEventType (bus : EventBus) (eventType : EventType) :
    (ofEventType bus eventType).map (fun view => (view.eventType, view.id)) =
      (bus.handlersFor eventType).map fun id => (eventType, id) := by
  have unnumbered := List.zipIdx_map_fst 0 (bus.handlersFor eventType)
  rw [ofEventType, List.map_map]
  conv => rhs; rw [← unnumbered, List.map_map]
  rfl

theorem before_ofEventType (bus : EventBus) (eventType : EventType) :
    (ofEventType bus eventType).Pairwise Before := by
  rw [ofEventType, List.pairwise_map]
  have ascending : ((bus.handlersFor eventType).zipIdx.map Prod.snd).Pairwise (· < ·) := by
    rw [List.zipIdx_map_snd]
    exact List.pairwise_lt_range'
  exact (List.pairwise_map.mp ascending).imp fun before => Or.inr ⟨rfl, before⟩

theorem map_all (bus : EventBus) :
    (all bus).map (fun view => (view.eventType, view.id)) = bus.listing := by
  rw [all, List.map_flatMap]
  simp only [map_ofEventType]
  rfl

theorem before_all (bus : EventBus) : (all bus).Pairwise Before := by
  rw [all, List.pairwise_flatMap]
  constructor
  · intro eventType _listed
    exact before_ofEventType bus eventType
  · refine bus.ascending_eventTypes.imp ?_
    intro left right before view inLeft other inRight
    rw [← eventType_of_mem inLeft, ← eventType_of_mem inRight] at before
    exact Or.inl before

theorem filter_all (bus : EventBus) (eventType : EventType) :
    (all bus).filter (fun view => view.eventType = eventType) = ofEventType bus eventType := by
  have own (other : EventType) :
      (ofEventType bus other).filter (fun view => view.eventType = eventType) =
        if other = eventType then ofEventType bus eventType else [] := by
    split
    · next same =>
        subst same
        exact List.filter_eq_self.mpr fun view member => decide_eq_true (eventType_of_mem member)
    · next different =>
        refine List.filter_eq_nil_iff.mpr fun view member shown => different ?_
        exact (eventType_of_mem member).symm.trans (of_decide_eq_true shown)
  rw [all, List.filter_flatMap]
  simp only [own]
  by_cases listed : eventType ∈ bus.eventTypes
  · rw [flatMap_of_nodup bus.nodup_eventTypes _ listed fun other _ different => if_neg different,
      if_pos rfl]
  · simp only [ofEventType_of_unheard listed, ite_self, List.flatMap_eq_nil_iff, implies_true]

/-- Views show a table: the live subscriptions and no others, by event type and then by
position; and for each event, its handlers in the report at the positions from zero on. -/
structure ShowTable (views : List SubscriptionView) (bus : EventBus)
    (live : List Subscription) : Prop where
  subscriptions : (views.map fun view => (view.eventType, view.id)).Perm
    (live.map fun subscription => (subscription.eventType, subscription.id))
  ascending : views.Pairwise Before
  count : views.length = bus.subscriptionCount
  invoked : ∀ (event : Event) (scope : Scope),
    views.filter (fun view => view.eventType = event.eventType) =
      (bus.publish event scope).1.invoked.zipIdx.map fun (id, position) =>
        ⟨event.eventType, position, id⟩

theorem all_showTable {bus : EventBus} {live : List Subscription} (holds : bus.table.Holds live) :
    ShowTable (all bus) bus live where
  subscriptions := by
    rw [map_all, EventBus.listing, holds.listing_eq_mergeSort]
    exact List.mergeSort_perm _ _
  ascending := before_all bus
  count := by
    rw [← List.length_map (fun view : SubscriptionView => (view.eventType, view.id)), map_all,
      EventBus.length_listing]
  invoked := by
    intro event scope
    rw [filter_all, EventBus.invoked_publish]
    rfl

end SubscriptionView

/-! ### The pages of entries -/

theorem Registry.Regular.nodup_declared {registry : Registry} (regular : registry.Regular) :
    (registry.entries.flatMap Entry.eventTypes).Nodup := by
  rw [List.nodup_flatMap]
  constructor
  · intro entry member
    exact entry.nodup_eventTypes (regular.right entry member)
  · have distinct : registry.entries.Nodup := regular.names.of_map
    refine distinct.imp_of_mem ?_
    intro left right inLeft inRight different eventType byLeft byRight
    exact different (regular.eq_of_declared inLeft inRight byLeft byRight)

theorem Registry.Regular.find?_eq {registry : Registry} (regular : registry.Regular)
    {entry : Entry} (member : entry ∈ registry.entries) :
    registry.find? entry.name = some entry := by
  cases found : registry.find? entry.name with
  | none => exact absurd (decide_eq_true rfl) (List.find?_eq_none.mp found entry member)
  | some other =>
      have matching := List.find?_some found
      have named : other.name = entry.name := of_decide_eq_true matching
      have listed : other ∈ registry.entries := List.mem_of_find?_eq_some found
      rw [List.inj_on_of_nodup_map regular.names listed member named]

/-- When each event type is declared once at most, and those with subscribers are declared,
the entries have the subscriptions among them. -/
theorem SubscriptionView.flatMap_ofEntry_perm {registry : Registry} {bus : EventBus}
    (regular : registry.Regular)
    (declared : ∀ eventType ∈ bus.eventTypes, registry.Declares eventType) :
    (registry.entries.flatMap (ofEntry bus)).Perm (all bus) := by
  have heard : ((registry.entries.flatMap Entry.eventTypes).filter (· ∈ bus.eventTypes)).Perm
      bus.eventTypes := by
    apply (List.perm_ext_iff_of_nodup (regular.nodup_declared.filter _) bus.nodup_eventTypes).mpr
    intro eventType
    rw [List.mem_filter, decide_eq_true_iff, and_iff_right_iff_imp, List.mem_flatMap]
    exact declared eventType
  have pages : registry.entries.flatMap (ofEntry bus) =
      (registry.entries.flatMap Entry.eventTypes).flatMap (ofEventType bus) :=
    List.flatMap_assoc.symm
  have unheard : (registry.entries.flatMap Entry.eventTypes).flatMap (ofEventType bus) =
      ((registry.entries.flatMap Entry.eventTypes).filter (· ∈ bus.eventTypes)).flatMap
        (ofEventType bus) := by
    rw [flatMap_filter]
    congr 1
    funext eventType
    split
    · rfl
    · next absent =>
        exact ofEventType_of_unheard fun member => absent (decide_eq_true member)
  rw [pages, unheard]
  exact heard.flatMap_right (ofEventType bus)

theorem Compliance.declares_of_no_orphans {entries : List Entry} {bus : EventBus}
    {expected : Option Nat}
    (none : ∀ eventType id, .orphanedSubscription eventType id ∉
      (check (.ofEntries entries) bus expected).violations) :
    ∀ eventType ∈ bus.eventTypes, (Registry.ofEntries entries).Declares eventType := by
  intro eventType listed
  obtain ⟨id, subscribed⟩ := List.exists_mem_of_ne_nil _ ((bus.mem_eventTypes eventType).mp listed)
  apply Classical.byContradiction
  intro undeclared
  have once := (orphaned_reportedOnceIff entries bus expected eventType id).1
    ⟨subscribed, undeclared⟩
  exact none eventType id (List.count_pos_iff.mp (once ▸ Nat.zero_lt_one))

namespace Api

/-- The request gets a path. -/
structure Gets (request : Request) (path : String) : Prop where
  method : request.method = "GET"
  path : request.uri.path = path.toList

/-- Requests that get a path are answered with a JSON value. -/
def Shows (state : State) (path : String) (body : Json) : Prop :=
  ∀ request services, Gets request path →
    (answer state request services).1.status = .ok ∧
      (answer state request services).1.received = body

theorem answer_of_gets {state : State} {request : Request} {path : String} {route : Route}
    (gets : Gets request path) (routed : Route.ofPath? path.toList = some route)
    (versioned : route ≠ .health) (services : Services) :
    ∃ context requestId, (answer state request services).1 =
      { (routeAnswer state context route).1 with requestId := requestId } := by
  rw [← gets.path] at routed
  rw [answer_eq_versionedAnswer routed versioned]
  simp only [versionedAnswer, methodAnswer, if_pos gets.method]
  exact ⟨_, _, rfl⟩

theorem shows_of_route {state : State} {path : String} {route : Route} {body : Json}
    (routed : Route.ofPath? path.toList = some route) (versioned : route ≠ .health)
    (answered : ∀ context, (routeAnswer state context route).1 = .ofBody .ok (.json body)) :
    Shows state path body := by
  intro request services gets
  obtain ⟨context, requestId, response⟩ := answer_of_gets gets routed versioned services
  rw [response, answered context]
  exact ⟨rfl, rfl⟩

def subscriptionsPath : String :=
  Route.base ++ "/events/subscriptions"

def entryPath (name : String) : String :=
  Route.base ++ ("/events/registry/" ++ name)

theorem shows_subscriptions (state : State) :
    Shows state subscriptionsPath (subscriptionsJson state.bus) := by
  have routed : Route.ofPath? subscriptionsPath.toList = some .subscriptions := by decide
  exact shows_of_route routed nofun fun _context => rfl

theorem shows_entry {state : State} {entry : Entry}
    (routed : Route.ofPath? (entryPath entry.name).toList = some (.entry entry.name))
    (plain : Percent.decode? entry.name = some entry.name)
    (found : state.registry.find? entry.name = some entry) :
    Shows state (entryPath entry.name) (entryJson state.bus entry) := by
  apply shows_of_route routed nofun
  intro context
  rw [routeAnswer, entryAnswer, plain]
  simp only [found]

/-- The names of well-formed entries stand for themselves in a path. -/
theorem route_of_wellFormed {entry : Entry} (formed : entry.WellFormed) :
    Route.ofPath? (entryPath entry.name).toList = some (.entry entry.name) ∧
      Percent.decode? entry.name = some entry.name := by
  cases family : entry.family with
  | workflow =>
      obtain ⟨workflow, named, _types⟩ := formed.workflow family
      rw [named]
      constructor
      · apply Route.ofPath?_entry
        all_goals cases workflow <;> decide
      · cases workflow <;> decide +kernel
  | operational =>
      obtain ⟨kind, named, _types⟩ := formed.operational family
      rw [named]
      constructor
      · apply Route.ofPath?_entry
        all_goals cases kind <;> decide
      · cases kind <;> decide +kernel

/-- The interface shows what dispatch does.  After any calls on the table of a new bus, the
page of all subscriptions shows that table; and if nothing is found against the registry and
no subscription is orphaned, the pages of its entries, one after the other, show the same
views in another order. -/
theorem pages_show_table (settings : BusSettings) (calls : List TableCall) (entries : List Entry)
    (expected : Option Nat) :
    let bus := ((EventBus.empty settings).carryOutAll calls).2
    let registry := Registry.ofEntries entries
    let state : State := ⟨registry, bus, expected⟩
    let shown (views : List SubscriptionView) : Json := .arr (views.map fun view =>
      .obj [("event_type", .str view.eventType.className), ("position", .int view.position),
        ("handler", .str view.id.handler), ("method", .str view.id.method)])
    ∃ views : List SubscriptionView,
      SubscriptionView.ShowTable views bus (TableCall.live calls) ∧
      Shows state subscriptionsPath
        (.obj [("total", .int bus.subscriptionCount), ("subscriptions", shown views)]) ∧
      (Compliance.checkRegistry registry = [] →
        (∀ eventType id, .orphanedSubscription eventType id ∉
          (Compliance.check registry bus expected).violations) →
        ∃ page : Entry → List SubscriptionView,
          (∀ entry ∈ entries, Shows state (entryPath entry.name)
            (.obj (entry.members ++ [("subscriptions", shown (page entry))]))) ∧
          (entries.flatMap page).Perm views) := by
  intro bus registry state shown
  have holds : bus.table.Holds (TableCall.live calls) := by
    rw [(EventBus.carryOutAll_table (.empty settings) calls).2.1]
    exact SubscriptionTable.holds_history calls
  have table := SubscriptionView.all_showTable holds
  refine ⟨SubscriptionView.all bus, table, ?_, ?_⟩
  · rw [← table.count]
    exact shows_subscriptions state
  · intro nothing orphans
    have regular := Compliance.regular_of_checkRegistry_eq_nil registry nothing
    refine ⟨SubscriptionView.ofEntry bus, ?_, ?_⟩
    · intro entry member
      have formed := entry.problems_eq_nil_iff.mp (regular.right entry member)
      obtain ⟨routed, plain⟩ := route_of_wellFormed formed
      exact shows_entry routed plain (regular.find?_eq member)
    · exact SubscriptionView.flatMap_ofEntry_perm regular
        (Compliance.declares_of_no_orphans orphans)

/-- The pages when two handlers have been subscribed to the logins and one has left. -/
theorem pages_show_login :
    let login := EventType.lifecycle .userLogin .succeeded
    let entry := Entry.ofWorkflow .userLogin "auth.login"
    let calls : List TableCall :=
      [.subscribe ⟨login, ⟨"greeting", "on_login"⟩, LoggingHandler.handler⟩,
        .subscribe ⟨login, .ofCategory .logging login, LoggingHandler.handler⟩,
        .unsubscribe login ⟨"greeting", "on_login"⟩]
    let bus := ((EventBus.empty .default).carryOutAll calls).2
    let registry := Registry.ofEntries [entry]
    let state : State := ⟨registry, bus, none⟩
    let shown : Json := .arr [.obj [("event_type", .str "UserLoginSucceeded"),
      ("position", .int 0), ("handler", .str "logging"),
      ("method", .str "on_user_login_succeeded")]]
    Compliance.checkRegistry registry = [] ∧
      Shows state subscriptionsPath (.obj [("total", .int 1), ("subscriptions", shown)]) ∧
      Shows state (entryPath "user_login")
        (.obj (entry.members ++ [("subscriptions", shown)])) := by
  intro login entry calls bus registry state shown
  have nothing : Compliance.checkRegistry registry = [] := by decide +kernel
  have orphans (eventType : EventType) (id : HandlerId) : .orphanedSubscription eventType id ∉
      (Compliance.check registry bus none).violations := by
    rw [← List.count_eq_zero]
    refine (Compliance.orphaned_reportedOnceIff [entry] bus none eventType id).2 ?_
    rintro ⟨subscribed, undeclared⟩
    have declared : ∀ eventType ∈ EventType.all, bus.handlersFor eventType ≠ [] →
        eventType ∈ entry.eventTypes := by
      decide +kernel
    exact undeclared ⟨entry, List.mem_singleton_self entry,
      declared eventType eventType.mem_all (List.ne_nil_of_mem subscribed)⟩
  obtain ⟨views, table, listed, paged⟩ := pages_show_table .default calls [entry] none
  obtain ⟨page, pages, order⟩ := paged nothing orphans
  have all : views = [⟨login, 0, .ofCategory .logging login⟩] := by
    have shownAs := table.invoked
      ⟨.numbered 1, .epoch,
        .lifecycle (.userLoginSucceeded (.numbered 2) "user@example.org" (.numbered 3))⟩
      ⟨Services.start .inProcess .numbered .epoch, none⟩
    rw [EventBus.invoked_publish] at shownAs
    have single : views.length = 1 := table.count
    have kept := List.filter_sublist.eq_of_length ((congrArg List.length shownAs).trans single.symm)
    exact kept.symm.trans shownAs
  subst all
  have own : page entry = [⟨login, 0, .ofCategory .logging login⟩] :=
    List.perm_singleton.mp ((List.append_nil (page entry)).symm ▸ order)
  have shownPage := pages entry (List.mem_singleton_self entry)
  rw [own] at shownPage
  exact ⟨nothing, listed, shownPage⟩

end Api
end WorkflowBus
