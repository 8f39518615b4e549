/-
The findings of the compliance check.

A bus is found compliant exactly when the registry is, the count fits, and every
event type is subscribed as its owner calls for.  Each fault of a subscription is
reported once, whatever else is wrong.
-/

import WorkflowBus.Proofs.Bus.Table
import WorkflowBus.Proofs.Handler.Id
import WorkflowBus.Proofs.Registry.Regular

namespace WorkflowBus

/-- The owner of the event type requires a category that applies to it, and the
identity is that category's. -/
def Registry.CallsFor (registry : Registry) (eventType : EventType) (id : HandlerId) : Prop :=
  ∃ entry category, registry.owner? eventType = some entry ∧ entry.requires category = true ∧
    category.appliesTo eventType = true ∧ id = .ofCategory category eventType

theorem Registry.CallsFor.namesCategory {registry : Registry} {eventType : EventType}
    {id : HandlerId} (calls : registry.CallsFor eventType id) : id.NamesCategory := by
  obtain ⟨_entry, category, _owned, _required, _applies, rfl⟩ := calls
  exact ⟨category, rfl⟩

/-- The subscription that a violation finds fault with, if there is one. -/
def Violation.subscription? : Violation → Option (EventType × HandlerId)
  | .orphanedSubscription eventType id | .unexpectedSubscription _ eventType id
  | .duplicateSubscription eventType id _ => some (eventType, id)
  | .malformedEntry .. | .duplicateWorkflow .. | .missingSubscription ..
  | .entryCountMismatch .. => none

namespace Compliance

theorem foldl_distinct {α : Type} [DecidableEq α] (seen items : List α) (unlike : seen.Nodup) :
    let found :=
      items.foldl (fun seen item => if item ∈ seen then seen else seen ++ [item]) seen
    found.Nodup ∧ ∀ item, item ∈ found ↔ item ∈ seen ∨ item ∈ items := by
  induction items generalizing seen with
  | nil => exact ⟨unlike, fun item => (or_iff_left List.not_mem_nil).symm⟩
  | cons head rest ih =>
      simp only [List.foldl_cons]
      by_cases known : head ∈ seen
      · rw [if_pos known]
        obtain ⟨nodup, mem⟩ := ih seen unlike
        refine ⟨nodup, fun item => ?_⟩
        rw [mem, List.mem_cons]
        constructor
        · exact Or.imp_right Or.inr
        · intro either
          rcases either with before | rfl | later
          · exact Or.inl before
          · exact Or.inl known
          · exact Or.inr later
      · rw [if_neg known]
        have longer : (seen ++ [head]).Nodup := by
          rw [List.nodup_append]
          refine ⟨unlike, List.nodup_singleton head, ?_⟩
          intro item before other last same
          subst same
          exact known (List.mem_singleton.mp last ▸ before)
        obtain ⟨nodup, mem⟩ := ih (seen ++ [head]) longer
        refine ⟨nodup, fun item => ?_⟩
        rw [mem, List.mem_append, List.mem_singleton, List.mem_cons, or_assoc]

theorem nodup_distinct {α : Type} [DecidableEq α] (items : List α) : (distinct items).Nodup :=
  (foldl_distinct [] items List.nodup_nil).1

theorem mem_distinct {α : Type} [DecidableEq α] (items : List α) (item : α) :
    item ∈ distinct items ↔ item ∈ items :=
  ((foldl_distinct [] items List.nodup_nil).2 item).trans (or_iff_right List.not_mem_nil)

theorem distinct_of_nodup {α : Type} [DecidableEq α] {items : List α} (once : items.Nodup) :
    distinct items = items := by
  have after (seen : List α) (apart : (seen ++ items).Nodup) :
      items.foldl (fun seen item => if item ∈ seen then seen else seen ++ [item]) seen =
        seen ++ items := by
    clear once
    induction items generalizing seen with
    | nil => exact (List.append_nil seen).symm
    | cons head rest ih =>
        have fresh : head ∉ seen := fun known =>
          (List.nodup_append.mp apart).2.2 head known head List.mem_cons_self rfl
        rw [List.foldl_cons, if_neg fresh, ih _ (by simpa using apart), List.append_assoc]
        rfl
  exact after [] once

theorem isCalledFor_iff (entry : Entry) (eventType : EventType) (id : HandlerId)
    (category : Category) (named : id.category? = some category) :
    isCalledFor entry eventType id category = true ↔
      ∃ other, entry.requires other = true ∧ other.appliesTo eventType = true ∧
        id = .ofCategory other eventType := by
  rw [isCalledFor, Bool.and_eq_true, Bool.and_eq_true, beq_iff_eq]
  constructor
  · intro called
    obtain ⟨⟨required, applies⟩, method⟩ := called
    exact ⟨category, required, applies, (id.eq_ofCategory_iff _ _).mpr ⟨named, method⟩⟩
  · intro called
    obtain ⟨other, required, applies, same⟩ := called
    obtain ⟨otherNamed, method⟩ := (id.eq_ofCategory_iff _ _).mp same
    cases named.symm.trans otherNamed
    exact ⟨⟨required, applies⟩, method⟩

theorem disallowed_cases (registry : Registry) (eventType : EventType) (id : HandlerId) :
    registry.owner? eventType = none ∧
        disallowed registry eventType id = [.orphanedSubscription eventType id] ∨
      (∃ entry, registry.owner? eventType = some entry) ∧
        (id.NamesCategory → registry.CallsFor eventType id) ∧
          disallowed registry eventType id = [] ∨
      ∃ entry, registry.owner? eventType = some entry ∧ id.NamesCategory ∧
        ¬registry.CallsFor eventType id ∧
          disallowed registry eventType id = [.unexpectedSubscription entry.name eventType id] := by
  unfold disallowed
  cases owned : registry.owner? eventType with
  | none => exact Or.inl ⟨rfl, rfl⟩
  | some entry =>
      refine Or.inr ?_
      cases named : id.category? with
      | none =>
          have unnamed := id.category?_eq_none_iff.mp named
          exact Or.inl ⟨⟨entry, rfl⟩, fun names => absurd names unnamed, rfl⟩
      | some category =>
          have names : id.NamesCategory := ⟨category, (id.category?_eq_some_iff _).mp named⟩
          have called : registry.CallsFor eventType id ↔
              isCalledFor entry eventType id category = true := by
            rw [isCalledFor_iff entry eventType id category named]
            constructor
            · intro calls
              obtain ⟨owner, other, owns, required⟩ := calls
              cases owned.symm.trans owns
              exact ⟨other, required⟩
            · intro required
              obtain ⟨other, required⟩ := required
              exact ⟨entry, other, owned, required⟩
          by_cases calls : isCalledFor entry eventType id category = true
          · exact Or.inl ⟨⟨entry, rfl⟩, fun _ => called.mpr calls, if_pos calls⟩
          · exact Or.inr ⟨entry, rfl, names, fun callsFor => calls (called.mp callsFor),
              if_neg calls⟩

theorem subscription?_of_mem {registry : Registry} {count : Nat} {eventType : EventType}
    {id : HandlerId} {violation : Violation}
    (member : violation ∈ subscriptionViolations registry count eventType id) :
    violation.subscription? = some (eventType, id) := by
  rcases List.mem_append.mp member with repeated | disallowed
  · split at repeated
    · cases List.mem_singleton.mp repeated
      rfl
    · cases repeated
  · rcases disallowed_cases registry eventType id with
      ⟨_unowned, found⟩ | ⟨_owned, _allowed, found⟩ | ⟨entry, _owned, _named, _uncalled, found⟩
    · rw [found] at disallowed
      cases List.mem_singleton.mp disallowed
      rfl
    · rw [found] at disallowed
      cases disallowed
    · rw [found] at disallowed
      cases List.mem_singleton.mp disallowed
      rfl

/-! ### All findings -/

theorem shape_of_mem_entryViolations (names : List String) (declarations : Declarations)
    (entries : List Entry) {violation : Violation}
    (member : violation ∈ entryViolations names declarations entries) :
    (∃ name problem, violation = .malformedEntry name problem) ∨
      ∃ name, violation = .duplicateWorkflow name := by
  induction entries generalizing names declarations with
  | nil => cases member
  | cons entry rest ih =>
      rcases List.mem_append.mp member with own | later
      · rcases List.mem_append.mp own with repeated | malformed
        · split at repeated
          · exact Or.inr ⟨entry.name, List.mem_singleton.mp repeated⟩
          · cases repeated
        · obtain ⟨problem, _member, same⟩ := List.mem_map.mp malformed
          exact Or.inl ⟨entry.name, problem, same.symm⟩
      · exact ih _ _ later

theorem shape_of_mem_countViolations {registry : Registry} {expected : Option Nat}
    {violation : Violation} (member : violation ∈ countViolations registry expected) :
    ∃ expected actual, violation = .entryCountMismatch expected actual := by
  cases expected with
  | none => cases member
  | some expected =>
      simp only [countViolations] at member
      split at member
      · exact ⟨expected, registry.size, List.mem_singleton.mp member⟩
      · cases member

theorem mem_missingSubscriptions {registry : Registry} {bus : EventBus} {violation : Violation} :
    violation ∈ missingSubscriptions registry bus ↔
      ∃ entry ∈ registry.entries, ∃ eventType category,
        (eventType, category) ∈ entry.expectedSubscriptions ∧
          .ofCategory category eventType ∉ bus.handlersFor eventType ∧
            violation =
              .missingSubscription entry.name eventType (.ofCategory category eventType) := by
  simp only [missingSubscriptions, List.mem_flatMap, List.mem_filterMap]
  constructor
  · intro missing
    obtain ⟨entry, member, ⟨eventType, category⟩, expected, found⟩ := missing
    split at found
    · cases found
    · rename_i absent
      exact ⟨entry, member, eventType, category, expected, absent, (Option.some.inj found).symm⟩
  · intro missing
    obtain ⟨entry, member, eventType, category, expected, absent, rfl⟩ := missing
    exact ⟨entry, member, (eventType, category), expected, if_neg absent⟩

/-- Of a bus on which nothing is subscribed twice, only what is not allowed is reported. -/
theorem presentViolations_of_nodup (registry : Registry) {bus : EventBus}
    (once : bus.listing.Nodup) :
    presentViolations registry bus =
      bus.listing.flatMap fun pair => disallowed registry pair.1 pair.2 := by
  rw [presentViolations, distinct_of_nodup once]
  apply List.flatMap_congr
  intro (eventType, id) listed
  have single : bus.listing.count (eventType, id) ≤ 1 := List.nodup_iff_count.mp once _
  simp only [subscriptionViolations, if_neg (Nat.not_lt.mpr single), List.nil_append]

theorem count_of_subscription (registry : Registry) (bus : EventBus) (expected : Option Nat)
    (violation : Violation) (eventType : EventType) (id : HandlerId)
    (about : violation.subscription? = some (eventType, id)) :
    (check registry bus expected).violations.count violation =
      if id ∈ bus.handlersFor eventType then
        (subscriptionViolations registry ((bus.handlersFor eventType).count id) eventType
          id).count violation
      else 0 := by
  have elsewhere {violations : List Violation}
      (others : ∀ other ∈ violations, other.subscription? = none) :
      violations.count violation = 0 := by
    rw [List.count_eq_zero]
    intro member
    rw [others violation member] at about
    cases about
  have shapes : ∀ other ∈ checkRegistry registry, other.subscription? = none := by
    intro other member
    rcases shape_of_mem_entryViolations [] [] registry.entries member with
      ⟨_name, _problem, rfl⟩ | ⟨_name, rfl⟩ <;> rfl
  have counts : ∀ other ∈ countViolations registry expected, other.subscription? = none := by
    intro other member
    obtain ⟨_expected, _actual, rfl⟩ := shape_of_mem_countViolations member
    rfl
  have missing : ∀ other ∈ missingSubscriptions registry bus, other.subscription? = none := by
    intro other member
    obtain ⟨_entry, _member, _eventType, _category, _expected, _absent, rfl⟩ :=
      mem_missingSubscriptions.mp member
    rfl
  have own (pair : EventType × HandlerId) (different : pair ≠ (eventType, id)) :
      violation ∉ subscriptionViolations registry (bus.listing.count pair) pair.1 pair.2 := by
    intro member
    exact different (Option.some.inj ((subscription?_of_mem member).symm.trans about))
  simp only [check, List.count_append]
  rw [elsewhere shapes, elsewhere counts, elsewhere missing]
  simp only [Nat.zero_add, presentViolations]
  rw [count_flatMap_of_nodup (nodup_distinct bus.listing) _ (eventType, id) violation own]
  simp only [mem_distinct, EventBus.mem_listing, EventBus.count_listing]

/-- The condition makes the difference between one report of a violation and none. -/
def ReportedOnceIff (violations : List Violation) (violation : Violation) (condition : Prop) :
    Prop :=
  (condition → violations.count violation = 1) ∧ (¬condition → violations.count violation = 0)

theorem duplicate_reportedOnceIff (registry : Registry) (bus : EventBus) (expected : Option Nat)
    (eventType : EventType) (id : HandlerId) (count : Nat) :
    ReportedOnceIff (check registry bus expected).violations
      (.duplicateSubscription eventType id count)
      (1 < count ∧ (bus.handlersFor eventType).count id = count) := by
  have allowed :
      (disallowed registry eventType id).count (.duplicateSubscription eventType id count) = 0 := by
    rw [List.count_eq_zero]
    rcases disallowed_cases registry eventType id with
      ⟨_, found⟩ | ⟨_, _, found⟩ | ⟨_, _, _, _, found⟩ <;> simp [found]
  unfold ReportedOnceIff
  rw [count_of_subscription registry bus expected _ eventType id rfl, subscriptionViolations,
    List.count_append, allowed, Nat.add_zero]
  constructor
  · intro repeated
    obtain ⟨several, rfl⟩ := repeated
    have subscribed : id ∈ bus.handlersFor eventType :=
      List.count_pos_iff.mp (Nat.lt_of_succ_lt several)
    rw [if_pos subscribed, if_pos several]
    exact List.count_singleton_self
  · intro otherwise
    split
    · split
      · rename_i several
        rw [List.count_eq_zero, List.mem_singleton]
        intro same
        cases same
        exact otherwise ⟨several, rfl⟩
      · rfl
    · rfl

theorem orphaned_reportedOnceIff (entries : List Entry) (bus : EventBus) (expected : Option Nat)
    (eventType : EventType) (id : HandlerId) :
    ReportedOnceIff (check (.ofEntries entries) bus expected).violations
      (.orphanedSubscription eventType id)
      (id ∈ bus.handlersFor eventType ∧ ¬(Registry.ofEntries entries).Declares eventType) := by
  have single (count : Nat) : (if 1 < count then
      [Violation.duplicateSubscription eventType id count] else []).count
        (.orphanedSubscription eventType id) = 0 := by
    split <;> simp
  unfold ReportedOnceIff
  rw [count_of_subscription _ bus expected _ eventType id rfl, subscriptionViolations,
    List.count_append, single, Nat.zero_add, ← Registry.owner?_eq_none_iff]
  rcases disallowed_cases (.ofEntries entries) eventType id with
    ⟨unowned, found⟩ | ⟨⟨entry, owned⟩, _, found⟩ | ⟨entry, owned, _, _, found⟩ <;> rw [found]
  · constructor
    · intro orphaned
      obtain ⟨subscribed, _unowned⟩ := orphaned
      rw [if_pos subscribed]
      exact List.count_singleton_self
    · intro otherwise
      rw [if_neg (fun subscribed => otherwise ⟨subscribed, unowned⟩)]
  · refine ⟨fun ⟨_, unowned⟩ => ?_, fun _ => ite_self 0⟩
    cases owned.symm.trans unowned
  · refine ⟨fun ⟨_, unowned⟩ => ?_, fun _ => by simp⟩
    cases owned.symm.trans unowned

theorem unexpected_reportedOnceIff (registry : Registry) (bus : EventBus) (expected : Option Nat)
    (name : String) (eventType : EventType) (id : HandlerId) :
    ReportedOnceIff (check registry bus expected).violations
      (.unexpectedSubscription name eventType id)
      (id ∈ bus.handlersFor eventType ∧ id.NamesCategory ∧
        (∃ entry, registry.owner? eventType = some entry ∧ entry.name = name) ∧
          ¬registry.CallsFor eventType id) := by
  have single (count : Nat) : (if 1 < count then
      [Violation.duplicateSubscription eventType id count] else []).count
        (.unexpectedSubscription name eventType id) = 0 := by
    split <;> simp
  unfold ReportedOnceIff
  rw [count_of_subscription _ bus expected _ eventType id rfl, subscriptionViolations,
    List.count_append, single, Nat.zero_add]
  rcases disallowed_cases registry eventType id with
    ⟨unowned, found⟩ | ⟨_, allowed, found⟩ | ⟨entry, owned, named, uncalled, found⟩ <;> rw [found]
  · refine ⟨fun ⟨_, _, ⟨_, owned, _⟩, _⟩ => ?_, fun _ => by simp⟩
    cases unowned.symm.trans owned
  · exact ⟨fun ⟨_, named, _, uncalled⟩ => absurd (allowed named) uncalled, fun _ => ite_self 0⟩
  · constructor
    · intro unexpected
      obtain ⟨subscribed, _named, ⟨owner, owns, rfl⟩, _uncalled⟩ := unexpected
      cases owned.symm.trans owns
      rw [if_pos subscribed]
      exact List.count_singleton_self
    · intro otherwise
      by_cases subscribed : id ∈ bus.handlersFor eventType
      · rw [if_pos subscribed, List.count_eq_zero, List.mem_singleton]
        intro same
        cases same
        exact otherwise ⟨subscribed, named, ⟨entry, owned, rfl⟩, uncalled⟩
      · exact if_neg subscribed

end Compliance
end WorkflowBus
