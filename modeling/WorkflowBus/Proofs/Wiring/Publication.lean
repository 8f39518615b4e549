/-
Publishing on a wired bus.

A wired bus delivers an event to the handlers of the categories that the registry calls
for, one after the other.  What each delivery touches, files and tells adds up over a
call; and what a call does to the collaborator of one category does not depend on the
collaborators of the others.
-/

import WorkflowBus.Proofs.Wiring.Delivery
import WorkflowBus.Proofs.Wiring.Table

namespace WorkflowBus

/-- Two outcomes are of the same handler, and the same if the category of the handler is
kept. -/
structure Outcome.Matches (kept : Category → Prop) (left right : Outcome) : Prop where
  handler : left.handler = right.handler
  ending : ∀ category, left.handler.category? = some category → kept category → left = right

theorem Outcome.eq_of_matches {left right : List Outcome}
    (matching : List.Forall₂ (Matches fun _ => True) left right)
    (known : ∀ outcome ∈ left, ∃ category, outcome.handler.category? = some category) :
    left = right := by
  induction matching with
  | nil => rfl
  | cons head _rest ih =>
      obtain ⟨own, later⟩ := List.forall_mem_cons.mp known
      obtain ⟨category, found⟩ := own
      rw [head.ending category found trivial, ih later]

theorem Outcome.countP_isOf (category : Category) {outcomes : List Outcome}
    {eventType : EventType} {categories : List Category}
    (invoked : outcomes.map Outcome.handler =
      categories.map fun category => .ofCategory category eventType) :
    outcomes.countP (Outcome.isOf category) = categories.count category := by
  have byHandler := congrArg
    (List.countP fun id : HandlerId => id.category? == some category) invoked
  rw [List.countP_map, List.countP_map] at byHandler
  refine byHandler.trans (List.countP_congr fun other _member => ?_)
  simp only [Function.comp_apply, HandlerId.category?_ofCategory, beq_iff_eq, Option.some.injEq]

namespace Wiring

open EventBus

variable {registry : Registry} {limit : Option Duration} {event : Event}

def deliveries (registry : Registry) (limit : Option Duration) (event : Event)
    (categories : List Category) (scope : Scope) : List Outcome × Scope :=
  deliverAll limit event (categories.map (Category.subscription registry event.eventType)) scope

theorem deliveries_cons (category : Category) (rest : List Category) (scope : Scope) :
    deliveries registry limit event (category :: rest) scope =
      ((delivery registry limit event category scope).1 ::
          (deliveries registry limit event rest
            (delivery registry limit event category scope).2).1,
        (deliveries registry limit event rest
          (delivery registry limit event category scope).2).2) :=
  rfl

theorem deliveries_invoked (registry : Registry) (limit : Option Duration) (event : Event)
    (categories : List Category) (scope : Scope) :
    (deliveries registry limit event categories scope).1.map Outcome.handler =
      categories.map fun category => .ofCategory category event.eventType := by
  induction categories generalizing scope with
  | nil => rfl
  | cons category rest ih =>
      rw [deliveries_cons, List.map_cons, List.map_cons, ih]
      rfl

theorem deliveries_touches (registry : Registry) (limit : Option Duration) (event : Event)
    (categories : List Category) (scope : Scope) :
    Touches categories scope (deliveries registry limit event categories scope).2 := by
  induction categories generalizing scope with
  | nil => exact .refl [] scope
  | cons category rest ih =>
      exact (delivery_touches registry limit event category scope).trans (ih _)

theorem deliveries_files (registry : Registry) (limit : Option Duration) (event : Event)
    (categories : List Category) (scope : Scope) :
    Scope.Files (categories.flatMap (filings registry event scope.refusal? scope.operation?))
      scope (deliveries registry limit event categories scope).2 := by
  induction categories generalizing scope with
  | nil => exact .of_eq rfl rfl rfl rfl
  | cons category rest ih =>
      have first := delivery_files registry limit event category scope
      have later := ih (delivery registry limit event category scope).2
      rw [first.operation?, first.refusal?] at later
      exact first.trans later

theorem deliveries_counted (registry : Registry) (limit : Option Duration) (event : Event)
    (categories : List Category) (scope : Scope) :
    (categories.flatMap (filings registry event scope.refusal? scope.operation?)).length =
      (deliveries registry limit event categories scope).1.countP Outcome.hasFiled := by
  induction categories generalizing scope with
  | nil => rfl
  | cons category rest ih =>
      have first := delivery_files registry limit event category scope
      have later := ih (delivery registry limit event category scope).2
      rw [first.operation?, first.refusal?] at later
      rw [deliveries_cons, List.flatMap_cons, List.length_append, List.countP_cons, later,
        delivery_counted registry limit event, Nat.add_comm]

theorem deliveries_complete (registry : Registry) (limit : Option Duration) (event : Event)
    (categories : List Category) (scope : Scope) :
    ∀ outcome ∈ (deliveries registry limit event categories scope).1,
      Completes registry event scope.refusal? outcome := by
  induction categories generalizing scope with
  | nil => nofun
  | cons category rest ih =>
      have first := delivery_completes registry limit event category scope
      have later := ih (delivery registry limit event category scope).2
      rw [(delivery_touches registry limit event category scope).refusal] at later
      rw [deliveries_cons]
      exact List.forall_mem_cons.mpr ⟨first, later⟩

theorem agree_deliveries {other : Category} (categories : List Category) {left right : Scope}
    (time : left.services.now = right.services.now) (agree : Agree left right other) :
    Agree (deliveries registry limit event categories left).2
      (deliveries registry limit event categories right).2 other := by
  induction categories generalizing left right with
  | nil => exact agree
  | cons category rest ih =>
      have leftTouches := delivery_touches registry limit event category left
      have rightTouches := delivery_touches registry limit event category right
      exact ih (leftTouches.now.trans (time.trans rightTouches.now.symm))
        (agree_delivery time agree)

theorem deliveries_match (registry : Registry) (limit : Option Duration) (event : Event)
    (categories : List Category) (left right : Scope)
    (time : left.services.now = right.services.now) {kept : Category → Prop}
    (agree : ∀ category, kept category → Agree left right category) :
    List.Forall₂ (Outcome.Matches kept) (deliveries registry limit event categories left).1
      (deliveries registry limit event categories right).1 := by
  induction categories generalizing left right with
  | nil => exact .nil
  | cons category rest ih =>
      have leftTouches := delivery_touches registry limit event category left
      have rightTouches := delivery_touches registry limit event category right
      refine .cons ⟨rfl, ?_⟩ (ih _ _ (leftTouches.now.trans (time.trans rightTouches.now.symm)) ?_)
      · intro own found isKept
        have same : some category = some own :=
          (HandlerId.category?_ofCategory category event.eventType).symm.trans found
        cases same
        exact (delivery_of_agree time (agree category isKept)).1
      · exact fun other isKept => agree_delivery time (agree other isKept)

theorem deliveries_tell (registry : Registry) (limit : Option Duration) (event : Event)
    (categories : List Category) (left right : Scope)
    (time : left.services.now = right.services.now) (ids : left.services.ids = right.services.ids)
    (agree : ∀ category, Agree left right category) :
    ∃ told, Speech event (categories.count .logging) told ∧
      (deliveries registry limit event categories left).2.services.voice =
        left.services.voice.tellAll (told left.operation?) ∧
      (deliveries registry limit event categories right).2.services.voice =
        right.services.voice.tellAll (told right.operation?) := by
  induction categories generalizing left right with
  | nil => exact ⟨fun _ => [], .fixed [] nofun, rfl, rfl⟩
  | cons category rest ih =>
      have leftFiles := delivery_files registry limit event category left
      have rightFiles := delivery_files registry limit event category right
      -- Both sides file as many records, so the supplies stay level for the rest.
      have sameIds : (delivery registry limit event category left).2.services.ids =
          (delivery registry limit event category right).2.services.ids := by
        have refusals : left.refusal? = right.refusal? := agree .audit
        rw [leftFiles.ids, rightFiles.ids, ids, refusals,
          length_filings _ left.operation? right.operation? category]
      obtain ⟨told, speech, leftTells, rightTells⟩ := delivery_tells time ids (agree category)
      obtain ⟨later, further, leftLater, rightLater⟩ :=
        ih _ _ (leftFiles.now.trans (time.trans rightFiles.now.symm)) sameIds
          fun other => agree_delivery time (agree other)
      refine ⟨fun operation => told operation ++ later operation, ?_, ?_, ?_⟩
      · rw [← List.singleton_append, List.count_append]
        exact speech.append further
      · rw [deliveries_cons, Voice.tellAll_append, ← leftTells, ← leftFiles.operation?]
        exact leftLater
      · rw [deliveries_cons, Voice.tellAll_append, ← rightTells, ← rightFiles.operation?]
        exact rightLater

/-! ### The wired bus -/

theorem settings_bus (registry : Registry) (settings : BusSettings) :
    (bus registry settings).settings = settings := by
  have kept (bus : EventBus) (wanted : List (EventType × Category)) :
      (wanted.foldl (wirePair registry) bus).settings = bus.settings := by
    induction wanted generalizing bus with
    | nil => rfl
    | cons pair rest ih => exact ih (wirePair registry bus pair)
  exact kept (.empty settings) (pairs registry)

/-- The categories whose handlers the bus of a registry calls for an event type, in the
order of the calls. -/
def called (registry : Registry) (eventType : EventType) : List Category :=
  ((pairs registry).filter fun pair => pair.1 = eventType).map Prod.snd

theorem subscriptionsTo_bus (registry : Registry) (settings : BusSettings)
    (eventType : EventType) :
    (bus registry settings).subscriptionsTo eventType =
      (called registry eventType).map (Category.subscription registry eventType) := by
  rw [EventBus.subscriptionsTo_of_holds (holds_bus registry settings), wanted, List.filter_map,
    called, List.map_map]
  apply List.map_congr_left
  intro pair member
  have here : pair.1 = eventType := of_decide_eq_true (List.mem_filter.mp member).2
  subst here
  rfl

def unheard (registry : Registry) (event : Event) : List Utterance :=
  if (called registry event.eventType).isEmpty then [.note (unheardTrace event)] else []

theorem speech_unheard (registry : Registry) (event : Event) :
    Speech event 0 fun _ => unheard registry event := by
  apply Speech.fixed
  intro utterance member
  rw [unheard] at member
  split at member
  · cases List.mem_singleton.mp member
    exact ⟨rfl, rfl⟩
  · cases member

theorem publish_bus (registry : Registry) (settings : BusSettings) (event : Event) (scope : Scope) :
    (bus registry settings).publish event scope =
      (⟨event.id, event.eventType,
          (deliveries registry settings.handlerTimeout event (called registry event.eventType)
            (scope.saying (unheard registry event))).1⟩,
        (deliveries registry settings.handlerTimeout event (called registry event.eventType)
          (scope.saying (unheard registry event))).2) := by
  have heard : (if (called registry event.eventType).isEmpty then
      scope.mapServices (·.withTraces [unheardTrace event]) else scope) =
        scope.saying (unheard registry event) := by
    rw [unheard]
    split
    · exact scope.withTraces_eq_saying [unheardTrace event]
    · rfl
  simp only [EventBus.publish_eq, subscriptionsTo_bus, settings_bus, List.isEmpty_map, heard]
  rfl

/-- What a call comes to on a wired bus: the handlers of the categories that are called
for have been invoked, the audit handlers that completed have filed a record each, and
the logging handlers have completed and told theirs. -/
structure Published (registry : Registry) (event : Event) (before : Scope)
    (report : PublishReport) (after : Scope) : Prop where
  eventId : report.eventId = event.id
  eventType : report.eventType = event.eventType
  invoked : report.invoked =
    (called registry event.eventType).map fun category => .ofCategory category event.eventType
  completes : ∀ outcome ∈ report.outcomes, Completes registry event before.refusal? outcome
  touches : Touches (called registry event.eventType) before after
  files : Scope.Files ((called registry event.eventType).flatMap
    (filings registry event before.refusal? before.operation?)) before after
  counted : ((called registry event.eventType).flatMap
      (filings registry event before.refusal? before.operation?)).length =
    report.outcomes.countP Outcome.hasFiled
  gains : Voice.Gains
    (List.replicate ((called registry event.eventType).count .logging)
      (LoggingHandler.recordFor event before.operation?))
    before.services.voice after.services.voice

theorem publish_tells (registry : Registry) (settings : BusSettings) (event : Event)
    {left right : Scope} (time : left.services.now = right.services.now)
    (ids : left.services.ids = right.services.ids)
    (agree : ∀ category, Agree left right category) :
    ∃ told, Speech event ((called registry event.eventType).count .logging) told ∧
      ((bus registry settings).publish event left).2.services.voice =
        left.services.voice.tellAll (told left.operation?) ∧
      ((bus registry settings).publish event right).2.services.voice =
        right.services.voice.tellAll (told right.operation?) := by
  rw [publish_bus, publish_bus]
  obtain ⟨told, speech, leftTells, rightTells⟩ :=
    deliveries_tell registry settings.handlerTimeout event (called registry event.eventType)
      (left.saying (unheard registry event)) (right.saying (unheard registry event)) time ids
      fun category => (agree category).saying (unheard registry event)
  have whole := (speech_unheard registry event).append speech
  rw [Nat.zero_add] at whole
  refine ⟨_, whole, ?_, ?_⟩
  · rw [Voice.tellAll_append]
    exact leftTells
  · rw [Voice.tellAll_append]
    exact rightTells

theorem publish_spec (registry : Registry) (settings : BusSettings) (event : Event)
    (scope : Scope) :
    Published registry event scope ((bus registry settings).publish event scope).1
      ((bus registry settings).publish event scope).2 := by
  obtain ⟨told, speech, tells, _tells⟩ :=
    publish_tells registry settings event rfl rfl (Agree.refl scope)
  have gains := scope.services.voice.gains_tellAll _ (speech.plain scope.operation?)
  rw [speech.logged, ← tells] at gains
  rw [publish_bus] at gains ⊢
  have opened := scope.files_saying (unheard registry event)
  have completed := deliveries_complete registry settings.handlerTimeout event
    (called registry event.eventType) (scope.saying (unheard registry event))
  have touched := deliveries_touches registry settings.handlerTimeout event
    (called registry event.eventType) (scope.saying (unheard registry event))
  have filed := deliveries_files registry settings.handlerTimeout event
    (called registry event.eventType) (scope.saying (unheard registry event))
  have counted := deliveries_counted registry settings.handlerTimeout event
    (called registry event.eventType) (scope.saying (unheard registry event))
  exact
    { eventId := rfl
      eventType := rfl
      invoked := deliveries_invoked registry settings.handlerTimeout event _ _
      completes := completed
      touches := ⟨touched.now, touched.refusal, touched.sender, touched.store, touched.aside,
        touched.journal⟩
      files := opened.trans filed
      counted := counted
      gains := gains }

theorem agree_publish (registry : Registry) (settings : BusSettings) (event : Event)
    {left right : Scope} (time : left.services.now = right.services.now) {category : Category}
    (agree : Agree left right category) :
    Agree ((bus registry settings).publish event left).2
      ((bus registry settings).publish event right).2 category := by
  rw [publish_bus, publish_bus]
  exact agree_deliveries _ time (agree.saying (unheard registry event))

theorem publish_matches (registry : Registry) (settings : BusSettings) (event : Event)
    {left right : Scope} (time : left.services.now = right.services.now)
    {kept : Category → Prop} (agree : ∀ category, kept category → Agree left right category) :
    List.Forall₂ (Outcome.Matches kept)
      ((bus registry settings).publish event left).1.outcomes
      ((bus registry settings).publish event right).1.outcomes := by
  rw [publish_bus, publish_bus]
  exact deliveries_match registry settings.handlerTimeout event (called registry event.eventType)
    (left.saying (unheard registry event)) (right.saying (unheard registry event)) time
    fun category isKept => (agree category isKept).saying (unheard registry event)

theorem publish_report_congr (registry : Registry) (settings : BusSettings) (event : Event)
    {left right : Scope} (time : left.services.now = right.services.now)
    (agree : ∀ category, Agree left right category) :
    ((bus registry settings).publish event left).1 =
      ((bus registry settings).publish event right).1 := by
  have leftSpec := publish_spec registry settings event left
  have rightSpec := publish_spec registry settings event right
  have outcomes := Outcome.eq_of_matches
    (publish_matches registry settings event time fun category _kept => agree category) (by
      intro outcome member
      have invoked : outcome.handler ∈ ((bus registry settings).publish event left).1.invoked :=
        List.mem_map_of_mem member
      rw [leftSpec.invoked] at invoked
      obtain ⟨category, _called, same⟩ := List.mem_map.mp invoked
      exact ⟨category, same ▸ HandlerId.category?_ofCategory category event.eventType⟩)
  have ids := leftSpec.eventId.trans rightSpec.eventId.symm
  have types := leftSpec.eventType.trans rightSpec.eventType.symm
  generalize ((bus registry settings).publish event left).1 = leftReport at *
  generalize ((bus registry settings).publish event right).1 = rightReport at *
  cases leftReport
  cases rightReport
  cases ids
  cases types
  cases outcomes
  rfl

end Wiring
end WorkflowBus
