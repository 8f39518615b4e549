/-
Which wired handlers have a behaviour.

The handlers of logging and of audit treat every event for whose sake they are called;
those of notification and of invalidation treat a few workflows only.  Strict wiring does
not look at this: on a bus that it hands out, a handler is called in vain exactly for the
event types that its category does not treat.
-/

import WorkflowBus.Proofs.Workbench.Agreement

namespace WorkflowBus

/-- The handler of the category has a behaviour for events of the type. -/
def Category.treats : Category → EventType → Bool
  | .logging, _ | .audit, _ => true
  | .notification, .lifecycle workflow .succeeded =>
      workflow ∈ [Workflow.userRegistration, .emailVerification, .passwordChange, .passwordReset]
  | .invalidation, .lifecycle workflow .succeeded =>
      workflow ∈ [Workflow.userLogout, .passwordChange, .passwordReset, .providerDisconnection]
  | _, _ => false

theorem NotificationHandler.isSome_notificationFor? (event : Event) :
    (notificationFor? event).isSome = Category.notification.treats event.eventType := by
  obtain ⟨id, occurredAt, fact⟩ := event
  cases fact with
  | lifecycle fact => cases fact <;> rfl
  | telemetry fact => cases fact <;> rfl

theorem InvalidationHandler.isSome_revocationFor? (event : Event) :
    (revocationFor? event).isSome = Category.invalidation.treats event.eventType := by
  obtain ⟨id, occurredAt, fact⟩ := event
  cases fact with
  | lifecycle fact => cases fact <;> rfl
  | telemetry fact => cases fact <;> rfl

/-- The handler had no behaviour for the event, or found no entry for it. -/
def Outcome.isMiswired (outcome : Outcome) : Bool :=
  match outcome.failure with
  | some (.answered (.unsupported ..)) | some (.answered (.unregistered ..)) => true
  | _ => false

namespace Wiring

variable {registry : Registry} {entries : List Entry} {limit : Option Duration} {event : Event}

theorem delivery_fst (category : Category) (scope : Scope) :
    (delivery registry limit event category scope).1 =
      ⟨.ofCategory category event.eventType,
        ((category.handler registry).invoke limit event scope).2⟩ :=
  rfl

theorem isMiswired_notification (scope : Scope) :
    (delivery registry limit event .notification scope).1.isMiswired =
      !Category.notification.treats event.eventType := by
  rw [delivery_fst, ← NotificationHandler.isSome_notificationFor?]
  simp only [Category.handler, NotificationHandler.handler, Handler.invoke_atomic]
  cases NotificationHandler.notificationFor? event with
  | none => rfl
  | some notification =>
      rcases sent : scope.services.send notification with ⟨answer, services⟩
      cases answer <;> simp only [sent] <;> rfl

theorem isMiswired_invalidation (scope : Scope) :
    (delivery registry limit event .invalidation scope).1.isMiswired =
      !Category.invalidation.treats event.eventType := by
  rw [delivery_fst, ← InvalidationHandler.isSome_revocationFor?]
  simp only [Category.handler, InvalidationHandler.handler, Handler.invoke_atomic]
  cases InvalidationHandler.revocationFor? event with
  | none => rfl
  | some revocation =>
      rcases revoked : scope.services.revoke revocation with ⟨answer, services⟩
      cases answer <;> simp only [revoked] <;> rfl

theorem isMiswired_audit {record : AuditRecord}
    (classified : AuditHandler.recordFor registry event = .ok record) (scope : Scope) :
    (delivery registry limit event .audit scope).1.isMiswired = false := by
  cases found : AuditHandler.due registry event scope.refusal? with
  | ok record =>
      rw [delivery_audit_of_ok found]
      rfl
  | error error =>
      rw [delivery_audit_of_error found]
      unfold AuditHandler.due at found
      rw [classified] at found
      cases refuses : scope.refusal? with
      | none =>
          rw [refuses] at found
          cases found
      | some reason =>
          rw [refuses] at found
          cases found
          rfl

theorem isMiswired_delivery (regular : (Registry.ofEntries entries).Regular) {category : Category}
    (member : category ∈ called (.ofEntries entries) event.eventType) (scope : Scope) :
    (delivery (.ofEntries entries) limit event category scope).1.isMiswired =
      !category.treats event.eventType := by
  cases category with
  | logging => rfl
  | audit =>
      obtain ⟨_record, classified⟩ := recordFor_of_called regular member
      exact isMiswired_audit classified scope
  | notification => exact isMiswired_notification scope
  | invalidation => exact isMiswired_invalidation scope

def wirings (outcomes : List Outcome) : List (HandlerId × Bool) :=
  outcomes.map fun outcome => (outcome.handler, outcome.isMiswired)

theorem wirings_deliveries (categories : List Category) (scope : Scope)
    (each : ∀ category ∈ categories, ∀ scope : Scope,
      (delivery registry limit event category scope).1.isMiswired =
        !category.treats event.eventType) :
    wirings (deliveries registry limit event categories scope).1 =
      categories.map fun category =>
        (.ofCategory category event.eventType, !category.treats event.eventType) := by
  induction categories generalizing scope with
  | nil => rfl
  | cons category rest ih =>
      obtain ⟨first, later⟩ := List.forall_mem_cons.mp each
      have others := ih (delivery registry limit event category scope).2 later
      unfold wirings at others ⊢
      rw [deliveries_cons, List.map_cons, List.map_cons, others, first scope]
      rfl

/-! ### Publishing -/

/-- The handlers that a registry calls for are called for every event, and in vain exactly
those whose category does not treat it. -/
def CallsInVain (registry : Registry) (wired : EventBus) (scope : Scope) : Prop :=
  ∀ event : Event, wirings (wired.publish event scope).1.outcomes =
    (called registry event.eventType).map fun category =>
      (.ofCategory category event.eventType, !category.treats event.eventType)

theorem callsInVain_bus (regular : (Registry.ofEntries entries).Regular)
    (settings : BusSettings) (scope : Scope) :
    CallsInVain (.ofEntries entries) (bus (.ofEntries entries) settings) scope := by
  intro event
  rw [publish_bus]
  apply wirings_deliveries
  intro category member
  exact isMiswired_delivery regular member

theorem mem_called {eventType : EventType} {category : Category} :
    category ∈ called registry eventType ↔ (eventType, category) ∈ pairs registry := by
  unfold called
  constructor
  · intro member
    obtain ⟨⟨other, own⟩, wanted, rfl⟩ := List.mem_map.mp member
    obtain ⟨listed, here⟩ := List.mem_filter.mp wanted
    cases of_decide_eq_true here
    exact listed
  · intro wanted
    apply List.mem_map.mpr
    exact ⟨(eventType, category), List.mem_filter.mpr ⟨wanted, decide_eq_true rfl⟩, rfl⟩

theorem exists_succeeded (workflow : Workflow) :
    ∃ fact : WorkflowFact, fact.eventType = .lifecycle workflow .succeeded := by
  let id := Uuid.numbered 1
  cases workflow with
  | userRegistration => exact ⟨.userRegistrationSucceeded id "" "", rfl⟩
  | userLogin => exact ⟨.userLoginSucceeded id "" id, rfl⟩
  | userLogout => exact ⟨.userLogoutSucceeded id id, rfl⟩
  | emailVerification => exact ⟨.emailVerificationSucceeded id "", rfl⟩
  | passwordChange => exact ⟨.passwordChangeSucceeded id "" "", rfl⟩
  | passwordReset => exact ⟨.passwordResetSucceeded id "", rfl⟩
  | providerConnection => exact ⟨.providerConnectionSucceeded id id "", rfl⟩
  | providerDisconnection => exact ⟨.providerDisconnectionSucceeded id id "", rfl⟩
  | providerTokenRefresh => exact ⟨.providerTokenRefreshSucceeded id id "", rfl⟩
  | accountSync => exact ⟨.accountSyncSucceeded id id 0, rfl⟩

theorem exists_operational (kind : OperationalKind) :
    ∃ fact : OperationalFact, fact.eventType = .telemetry kind := by
  let id := Uuid.numbered 1
  cases kind with
  | sessionActivityUpdated => exact ⟨.sessionActivityUpdated id id none, rfl⟩
  | suspiciousSessionActivity => exact ⟨.suspiciousSessionActivity id id "", rfl⟩
  | providerTokenExpiring => exact ⟨.providerTokenExpiring id id "" .epoch, rfl⟩

/-- There are events of every type that a category applies to without treating it. -/
theorem exists_event_of_untreated {category : Category} {eventType : EventType}
    (applies : category.appliesTo eventType = true)
    (untreated : category.treats eventType = false) :
    ∃ event : Event, event.eventType = eventType := by
  cases eventType with
  | lifecycle workflow stage =>
      have succeeded : stage = .succeeded := by
        cases category with
        | logging => cases untreated
        | audit => cases untreated
        | notification => exact eq_of_beq applies
        | invalidation => exact eq_of_beq applies
      subst succeeded
      obtain ⟨fact, same⟩ := exists_succeeded workflow
      exact ⟨⟨.numbered 1, .epoch, .lifecycle fact⟩, same⟩
  | telemetry kind =>
      obtain ⟨fact, same⟩ := exists_operational kind
      exact ⟨⟨.numbered 1, .epoch, .telemetry fact⟩, same⟩

variable {wired : EventBus} {scope : Scope}

theorem treats_of_never
    (told : CallsInVain registry wired scope)
    (never : ∀ event : Event, ∀ outcome ∈ (wired.publish event scope).1.outcomes,
      outcome.isMiswired = false) {eventType : EventType} {category : Category}
    (wanted : (eventType, category) ∈ pairs registry) : category.treats eventType = true := by
  by_contra untreated
  rw [Bool.not_eq_true] at untreated
  obtain ⟨_entry, _member, _declared, _required, applies⟩ := (mem_pairs _ _ _).mp wanted
  obtain ⟨event, rfl⟩ := exists_event_of_untreated applies untreated
  have listed : (HandlerId.ofCategory category event.eventType, true) ∈
      wirings (wired.publish event scope).1.outcomes := by
    rw [told event]
    apply List.mem_map.mpr
    exact ⟨category, mem_called.mpr wanted, by rw [untreated]; rfl⟩
  obtain ⟨outcome, member, same⟩ := List.mem_map.mp listed
  have vain : outcome.isMiswired = true := congrArg Prod.snd same
  rw [never event outcome member] at vain
  cases vain

theorem never_of_treats
    (told : CallsInVain registry wired scope)
    (treated : ∀ pair ∈ pairs registry, pair.2.treats pair.1 = true) (event : Event) :
    ∀ outcome ∈ (wired.publish event scope).1.outcomes, outcome.isMiswired = false := by
  intro outcome member
  have listed : (outcome.handler, outcome.isMiswired) ∈
      wirings (wired.publish event scope).1.outcomes := List.mem_map_of_mem member
  rw [told event] at listed
  obtain ⟨category, present, same⟩ := List.mem_map.mp listed
  have vain : (!category.treats event.eventType) = outcome.isMiswired := congrArg Prod.snd same
  rw [← vain, treated _ (mem_called.mp present)]
  rfl

/-- On a bus that strict wiring hands out, a handler is called in vain exactly when its
category does not treat the event's type.  So none ever is exactly if every category treats
all event types for which it is called. -/
theorem build_calls_untreated (entries : List Entry) (settings : BusSettings)
    (wired : EventBus) (strict : settings.strictWiring = true)
    (built : build (.ofEntries entries) settings = .ok wired) (scope : Scope) :
    CallsInVain (.ofEntries entries) wired scope ∧
      ((∀ event : Event, ∀ outcome ∈ (wired.publish event scope).1.outcomes,
          outcome.isMiswired = false) ↔
        ∀ pair ∈ pairs (.ofEntries entries), pair.2.treats pair.1 = true) := by
  obtain ⟨rfl, regular⟩ := regular_of_build strict built
  have told := callsInVain_bus regular settings scope
  refine ⟨told, ?_⟩
  constructor
  · intro never (eventType, category) wanted
    exact treats_of_never told never wanted
  · intro treated event
    exact never_of_treats told treated event

def freshScope : Scope :=
  ⟨Services.start .inProcess .numbered .epoch, none⟩

theorem registration_is_treated :
    BusSettings.default.strict.strictWiring = true ∧
      build Catalog.registry BusSettings.default.strict =
        .ok (bus Catalog.registry BusSettings.default.strict) ∧
      wirings ((bus Catalog.registry BusSettings.default.strict).publish
        ⟨.numbered 1, .epoch,
          .lifecycle (.userRegistrationSucceeded (.numbered 2) "user@example.org" "secret")⟩
        freshScope).1.outcomes =
          [(.ofCategory .logging (.lifecycle .userRegistration .succeeded), false),
            (.ofCategory .audit (.lifecycle .userRegistration .succeeded), false),
            (.ofCategory .notification (.lifecycle .userRegistration .succeeded), false)] := by
  have built : build Catalog.registry BusSettings.default.strict =
      .ok (bus Catalog.registry BusSettings.default.strict) :=
    build_strict_of_nothing rfl (by decide +kernel) rfl
  have told := (build_calls_untreated Catalog.entries BusSettings.default.strict _ rfl built
    freshScope).1
  exact ⟨rfl, built, (told _).trans (by decide +kernel)⟩

/-- A registry that has logins notified passes strict wiring, and every login that succeeds
makes the notification handler fail. -/
theorem login_is_untreated :
    let registry := Registry.ofEntries
      [(Entry.ofWorkflow .userLogin "auth.login").requiring .notification]
    build registry BusSettings.default.strict = .ok (bus registry BusSettings.default.strict) ∧
      ((bus registry BusSettings.default.strict).publish
        ⟨.numbered 1, .epoch,
          .lifecycle (.userLoginSucceeded (.numbered 2) "user@example.org" (.numbered 3))⟩
        freshScope).1.outcomes =
          [⟨.ofCategory .notification (.lifecycle .userLogin .succeeded),
            some (.answered (.unsupported "notification" (.lifecycle .userLogin .succeeded)))⟩] :=
  ⟨build_strict_of_nothing rfl (by decide +kernel) rfl, by rfl⟩

/-- No handler of the standard catalog is ever called in vain. -/
theorem catalog_treats (settings : BusSettings) (event : Event) (scope : Scope) :
    let wired := bus (.ofEntries Catalog.entries) settings
    ∀ outcome ∈ (wired.publish event scope).1.outcomes, outcome.isMiswired = false := by
  have regular : (Registry.ofEntries Catalog.entries).Regular :=
    Compliance.regular_of_checkRegistry_eq_nil _ (by decide +kernel)
  have told : CallsInVain (.ofEntries Catalog.entries)
      (bus (.ofEntries Catalog.entries) settings) scope :=
    callsInVain_bus regular settings scope
  have treated : ∀ pair ∈ pairs (.ofEntries Catalog.entries), pair.2.treats pair.1 = true := by
    decide +kernel
  exact never_of_treats told treated event

end Wiring
end WorkflowBus
