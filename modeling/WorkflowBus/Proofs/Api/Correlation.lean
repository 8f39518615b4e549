/-
One identifier for all that belongs to a request.

The context of an operation is told by the first header fields of three names, each on its own.
A request to a route below `/api/v1/events` is answered under the identifier that its context
tells, or under one that is drawn for it.  The handler finds it in the context, all traces of
the request name it, and the response carries it in the written form, however the request
spelled it.
-/

import WorkflowBus.Proofs.Api.Header
import WorkflowBus.Proofs.Api.Routing

namespace WorkflowBus

namespace OperationContext

/-- The context holds what the first fields of the names tell.  The place of a first field that
spells nothing is taken by no other. -/
structure IsTold (context : OperationContext) (headers : List Header) : Prop where
  correlationId : ∀ id, context.correlationId = some id ↔ Header.TellsId headers "x-request-id" id
  requestUserId : ∀ id,
    context.requestUserId = some id ↔ Header.TellsId headers "x-request-user-id" id
  userAgent : ∀ text, context.userAgent = some text ↔ Header.TellsText headers "user-agent" text
  sessionId : context.sessionId = none
  clientIp : context.clientIp = none
  noCorrelationId : ∀ header, Header.First headers "x-request-id" header →
    header.SpellsNothing → context.correlationId = none
  noRequestUserId : ∀ header, Header.First headers "x-request-user-id" header →
    header.SpellsNothing → context.requestUserId = none
  noUserAgent : ∀ header, Header.First headers "user-agent" header →
    (∀ text, ¬header.Holds text) → context.userAgent = none

theorem isTold (headers : List Header) : (Header.operationContext headers).IsTold headers where
  correlationId _id := Header.firstUuid?_eq_some_iff
  requestUserId _id := Header.firstUuid?_eq_some_iff
  userAgent _text := Header.firstText?_eq_some_iff
  sessionId := rfl
  clientIp := rfl
  noCorrelationId _header first nothing := Header.firstUuid?_eq_none first nothing
  noRequestUserId _header first nothing := Header.firstUuid?_eq_none first nothing
  noUserAgent _header first nothing := Header.firstText?_eq_none first nothing

theorem ensureCorrelationId_spec (context : OperationContext) (supply : IdSupply) :
    ∃ id rest,
      context.ensureCorrelationId supply = (id, { context with correlationId := some id }, rest) ∧
        (context.correlationId = some id ∧ rest = supply ∨
          context.correlationId = none ∧ (id, rest) = supply.draw) := by
  unfold ensureCorrelationId
  split
  · next id known =>
      refine ⟨id, supply, ?_, Or.inl ⟨known, rfl⟩⟩
      rw [← known]
  · next unknown => exact ⟨supply.draw.1, supply.draw.2, rfl, Or.inr ⟨unknown, rfl⟩⟩

end OperationContext

/-- The trace has one correlation identifier among its fields, and it is this one. -/
def Trace.Correlated (trace : Trace) (id : Uuid) : Prop :=
  ∃ value, trace.fields.filter (fun field => field.1 = "correlation_id") =
      [("correlation_id", value)] ∧
    (value = id.text ∨ value = "Some(" ++ id.text ++ ")")

namespace Api

theorem correlated_incomingTrace (request : Request) (id : Uuid) :
    (incomingTrace request id).Correlated id :=
  ⟨id.text, rfl, Or.inl rfl⟩

theorem correlated_completedTrace (request : Request) (status : Status) (id : Uuid) :
    (completedTrace request status id).Correlated id :=
  ⟨id.text, rfl, Or.inl rfl⟩

theorem correlated_routeAnswer {state : State} {context : OperationContext} {id : Uuid}
    (known : context.correlationId = some id) {route : Route} :
    ∀ trace ∈ (routeAnswer state context route).2, trace.Correlated id := by
  cases route with
  | compliance =>
      intro trace member
      simp only [routeAnswer, complianceAnswer] at member
      split at member
      · exact absurd member List.not_mem_nil
      · rw [List.mem_singleton.mp member]
        refine ⟨_, rfl, Or.inr ?_⟩
        rw [known]
        rfl
  | _ => exact fun trace member => absurd member List.not_mem_nil

theorem correlated_methodAnswer {state : State} {context : OperationContext} {id : Uuid}
    (known : context.correlationId = some id) (method : String) (route : Route) :
    ∀ trace ∈ (methodAnswer state context method route).2, trace.Correlated id := by
  unfold methodAnswer
  split
  · exact correlated_routeAnswer known
  split
  · exact correlated_routeAnswer known
  · exact fun trace member => absurd member List.not_mem_nil

/-- The request is answered under the identifier: the one that its first field tells, or else
one that is drawn from the supply. -/
structure AnsweredUnder (state : State) (request : Request) (services : Services) (id : Uuid) :
    Prop where
  own : ∀ told, Header.TellsId request.headers "x-request-id" told →
    id = told ∧ (answer state request services).2.ids = services.ids
  drawn : (∀ told, ¬Header.TellsId request.headers "x-request-id" told) →
    (id, (answer state request services).2.ids) = services.ids.draw
  attached : ∃ route context, Route.ofPath? request.uri.path = some route ∧
    context = { Header.operationContext request.headers with correlationId := some id } ∧
    (answer state request services).1 =
      { (methodAnswer state context request.method route).1 with requestId := some id }
  traced : ∃ traces, (answer state request services).2.traces = services.traces ++ traces ∧
    traces ≠ [] ∧ ∀ trace ∈ traces, trace.Correlated id
  written : ∃ chars, id.Hyphenated chars ∧
    (answer state request services).1.requestId.map Uuid.text = some (String.ofList chars)

theorem exists_answeredUnder {request : Request} (events : Route.EventsPath request.uri.path)
    (state : State) (services : Services) : ∃ id, AnsweredUnder state request services id := by
  obtain ⟨route, routed, versioned⟩ := Route.eventsPath_iff.mp events
  obtain ⟨id, rest, ensured, origin⟩ :=
    (Header.operationContext request.headers).ensureCorrelationId_spec services.ids
  have told := OperationContext.isTold request.headers
  have answered := answer_eq_versionedAnswer routed versioned state services
  rw [versionedAnswer, ensured] at answered
  refine ⟨id, ?_⟩
  constructor
  · intro own tells
    rw [answered]
    rcases origin with ⟨known, rfl⟩ | ⟨unknown, _drawn⟩
    · exact ⟨Option.some.inj (known.symm.trans ((told.correlationId own).mpr tells)), rfl⟩
    · cases unknown.symm.trans ((told.correlationId own).mpr tells)
  · intro nothing
    rw [answered]
    rcases origin with ⟨known, _same⟩ | ⟨_unknown, drawn⟩
    · exact absurd ((told.correlationId id).mp known) (nothing id)
    · exact drawn
  · refine ⟨route, _, routed, rfl, ?_⟩
    rw [answered]
  · rw [answered]
    refine ⟨_, rfl, ?_, ?_⟩
    · exact List.cons_ne_nil _ _
    · intro trace member
      rcases List.mem_append.mp member with begun | completed
      · rcases List.mem_append.mp begun with incoming | handled
        · rw [List.mem_singleton.mp incoming]
          exact correlated_incomingTrace request id
        · exact correlated_methodAnswer rfl request.method route trace handled
      · rw [List.mem_singleton.mp completed]
        exact correlated_completedTrace request _ id
  · rw [answered]
    exact ⟨id.toChars, id.hyphenated_toChars, rfl⟩

theorem AnsweredUnder.requestId {state : State} {request : Request} {services : Services}
    {id : Uuid} (under : AnsweredUnder state request services id) :
    (answer state request services).1.requestId = some id := by
  obtain ⟨_route, _context, _routed, _same, response⟩ := under.attached
  rw [response]

theorem requestId_of_tellsId {request : Request} (events : Route.EventsPath request.uri.path)
    {told : Uuid} (tells : Header.TellsId request.headers "x-request-id" told) (state : State)
    (services : Services) : (answer state request services).1.requestId = some told := by
  obtain ⟨id, under⟩ := exists_answeredUnder events state services
  rw [under.requestId, (under.own told tells).1]

/-- Contexts are told by first fields alone, and a request to a route below `/api/v1/events` is
answered under one identifier.  Two such requests that spell one identifier, each in a form and
letter case of its own, get the same one back, whatever else they ask for and of whom. -/
theorem answer_correlated {request : Request} (events : Route.EventsPath request.uri.path)
    (state : State) (services : Services) :
    (∀ headers, (Header.operationContext headers).IsTold headers) ∧
      (∃ id, AnsweredUnder state request services id) ∧
      ∀ (other : Request) (otherState : State) (otherServices : Services),
        Route.EventsPath other.uri.path →
        (∃ told, Header.TellsId request.headers "x-request-id" told ∧
          Header.TellsId other.headers "x-request-id" told) →
        (answer otherState other otherServices).1.requestId =
          (answer state request services).1.requestId := by
  refine ⟨OperationContext.isTold, exists_answeredUnder events state services, ?_⟩
  rintro other otherState otherServices otherEvents ⟨told, tells, otherTells⟩
  rw [requestId_of_tellsId events tells state services,
    requestId_of_tellsId otherEvents otherTells otherState otherServices]

def compliancePage (headers : List Header) : Request where
  method := "GET"
  uri := ⟨none, none, "/api/v1/events/compliance".toList, none⟩
  headers := headers

/-- A field in capital letters, and the same identifier without hyphens behind a value that is
no text. -/
theorem compliancePage_correlated :
    let services := Services.start .inProcess .numbered .epoch
    let state : State := ⟨.ofEntries [], .empty .default, some 19⟩
    let capital := compliancePage
      [⟨"X-Request-ID", "URN:UUID:00000000-0000-4000-8000-000000ABCDEF".toUTF8.toList⟩]
    let plain := compliancePage [⟨"x-request-user-id", [0xc3, 0xa9]⟩,
      ⟨"x-request-id", "00000000000040008000000000abcdef".toUTF8.toList⟩]
    (answer state plain services).1.requestId = (answer state capital services).1.requestId := by
  intro services state capital plain
  have capitalTells : Header.TellsId capital.headers "x-request-id" (.numbered 0xabcdef) :=
    Header.firstUuid?_eq_some_iff.mp (by decide +kernel)
  have plainTells : Header.TellsId plain.headers "x-request-id" (.numbered 0xabcdef) :=
    Header.firstUuid?_eq_some_iff.mp (by decide +kernel)
  have events : Route.EventsPath capital.uri.path := .compliance
  have agreed := (answer_correlated events state services).2.2
  exact agreed plain state services .compliance ⟨_, capitalTells, plainTells⟩

end Api
end WorkflowBus
