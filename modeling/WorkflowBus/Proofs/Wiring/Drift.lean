/-
Drift between a registry and the bus of another.

One registry has the entries of the other but for some that are deleted.  Against the bus
of the larger one, the smaller registry finds orphaned what the deleted entries call for;
against the bus of the smaller one, the larger registry finds that missing.  Nothing is
found wrong with the entries that stay.
-/

import WorkflowBus.Proofs.Registry.WellFormed
import WorkflowBus.Proofs.Wiring.Owner
import WorkflowBus.Registry.Catalog

namespace WorkflowBus

theorem Registry.Regular.filter {entries : List Entry} (regular : (ofEntries entries).Regular)
    (keep : Entry → Bool) : (ofEntries (entries.filter keep)).Regular where
  names := regular.names.sublist (List.filter_sublist.map Entry.name)
  right := fun entry member => regular.right entry (List.mem_filter.mp member).1

namespace Wiring

open Compliance

variable {entries : List Entry}

theorem pairs_undeclared (regular : (Registry.ofEntries entries).Regular) (keep : Entry → Bool) :
    (pairs (.ofEntries entries)).filter (fun pair =>
        ((Registry.ofEntries (entries.filter keep)).owner? pair.1).isNone) =
      pairs (.ofEntries (entries.filter fun entry => !keep entry)) := by
  have each (entry : Entry) (member : entry ∈ entries) :
      entry.expectedSubscriptions.filter (fun pair =>
          ((Registry.ofEntries (entries.filter keep)).owner? pair.1).isNone) =
        if !keep entry then entry.expectedSubscriptions else [] := by
    have undeclared (pair : EventType × Category) (expected : pair ∈ entry.expectedSubscriptions) :
        ((Registry.ofEntries (entries.filter keep)).owner? pair.1).isNone = true ↔
          keep entry = false := by
      have declared := ((entry.mem_expectedSubscriptions pair.1 pair.2).mp expected).1
      rw [Option.isNone_iff_eq_none, Registry.owner?_eq_none_iff, ← Bool.not_eq_true,
        not_iff_not]
      constructor
      · intro ⟨other, remains, alsoDeclares⟩
        obtain ⟨inEntries, kept⟩ := List.mem_filter.mp remains
        rwa [← regular.eq_of_declared inEntries member alsoDeclares declared]
      · intro kept
        exact ⟨entry, List.mem_filter.mpr ⟨member, kept⟩, declared⟩
    cases kept : keep entry with
    | true =>
        refine List.filter_eq_nil_iff.mpr fun pair expected unowned => ?_
        rw [(undeclared pair expected).mp unowned] at kept
        cases kept
    | false =>
        exact List.filter_eq_self.mpr fun pair expected => (undeclared pair expected).mpr kept
  rw [pairs, pairs, List.filter_flatMap]
  exact (List.flatMap_congr each).trans (flatMap_filter _ _ entries).symm

def listed (pair : EventType × Category) : EventType × HandlerId :=
  (pair.1, .ofCategory pair.2 pair.1)

theorem listing_bus (registry : Registry) (settings : BusSettings) :
    (bus registry settings).listing =
      ((pairs registry).map listed).mergeSort (isOrdered EventType.rank Prod.fst) := by
  rw [EventBus.listing, (holds_bus registry settings).listing_eq_mergeSort, wanted, List.map_map]
  rfl

theorem nodup_listing (regular : (Registry.ofEntries entries).Regular) (settings : BusSettings) :
    (bus (.ofEntries entries) settings).listing.Nodup := by
  rw [List.nodup_iff_count]
  intro (eventType, id)
  rw [EventBus.count_listing]
  exact List.nodup_iff_count.mp (bus_subscribedAsCalled regular settings eventType).once id

theorem callsFor_of_listed (regular : (Registry.ofEntries entries).Regular)
    {settings : BusSettings} {eventType : EventType} {id : HandlerId}
    (subscribed : (eventType, id) ∈ (bus (.ofEntries entries) settings).listing) :
    (Registry.ofEntries entries).CallsFor eventType id := by
  have member := (EventBus.mem_listing _ _ _).mp subscribed
  obtain ⟨category, _wanted, rfl⟩ := (mem_handlersFor_bus _ _ _ _).mp member
  exact ((bus_subscribedAsCalled regular settings eventType).called _).mp
    ⟨member, category, rfl⟩

theorem owner?_filter (regular : (Registry.ofEntries entries).Regular) (keep : Entry → Bool)
    {eventType : EventType} {entry : Entry}
    (owned : (Registry.ofEntries (entries.filter keep)).owner? eventType = some entry) :
    (Registry.ofEntries entries).owner? eventType = some entry := by
  obtain ⟨member, declared⟩ := Registry.mem_of_owner? owned
  exact regular.owner?_eq (List.mem_filter.mp member).1 declared

theorem disallowed_of_listed (regular : (Registry.ofEntries entries).Regular)
    (keep : Entry → Bool) {settings : BusSettings} {pair : EventType × HandlerId}
    (subscribed : pair ∈ (bus (.ofEntries entries) settings).listing) :
    disallowed (.ofEntries (entries.filter keep)) pair.1 pair.2 =
      if ((Registry.ofEntries (entries.filter keep)).owner? pair.1).isNone then
        [.orphanedSubscription pair.1 pair.2] else [] := by
  rcases disallowed_cases (.ofEntries (entries.filter keep)) pair.1 pair.2 with
    ⟨unowned, found⟩ | ⟨⟨entry, owned⟩, _allowed, found⟩ | ⟨entry, owned, _named, uncalled, _found⟩
  · rw [unowned]
    exact found
  · rw [owned]
    exact found
  · obtain ⟨owner, category, owns, calls⟩ := callsFor_of_listed regular subscribed
    cases (owner?_filter regular keep owned).symm.trans owns
    exact absurd ⟨entry, category, owned, calls⟩ uncalled

def sortedPairs (registry : Registry) : List (EventType × Category) :=
  (pairs registry).mergeSort (isOrdered EventType.rank Prod.fst)

theorem sortedPairs_ascending (regular : (Registry.ofEntries entries).Regular) :
    (sortedPairs (.ofEntries entries)).Pairwise fun left right =>
      left.1.rank < right.1.rank ∨ left.1 = right.1 ∧ left.2.rank < right.2.rank := by
  apply pairwise_of_filters EventType.rank_injective
    (List.pairwise_mergeSort isOrdered_trans isOrdered_total _)
  intro eventType
  rw [filter_key_mergeSort]
  cases owned : (Registry.ofEntries entries).owner? eventType with
  | none =>
      rw [pairs_of_unowned owned]
      exact List.Pairwise.nil
  | some entry =>
      have ascending : Category.all.Pairwise fun left right => left.rank < right.rank := by
        decide
      rw [pairs_of_owner regular owned, List.pairwise_map]
      exact ascending.sublist List.filter_sublist

theorem listing_undeclared (regular : (Registry.ofEntries entries).Regular) (keep : Entry → Bool)
    (settings : BusSettings) :
    (bus (.ofEntries entries) settings).listing.filter (fun pair =>
        ((Registry.ofEntries (entries.filter keep)).owner? pair.1).isNone) =
      (sortedPairs (.ofEntries (entries.filter fun entry => !keep entry))).map listed := by
  rw [listing_bus, filter_mergeSort EventType.rank_injective, List.filter_map, sortedPairs,
    ← pairs_undeclared regular keep]
  exact (List.map_mergeSort (f := listed) fun _left _inLeft _right _inRight => rfl).symm

theorem missingSubscriptions_fewer (regular : (Registry.ofEntries entries).Regular)
    (keep : Entry → Bool) (settings : BusSettings) :
    missingSubscriptions (.ofEntries (entries.filter keep)) (bus (.ofEntries entries) settings) =
      [] := by
  rw [missingSubscriptions_eq_nil_iff (regular.filter keep)]
  intro eventType id calls
  obtain ⟨entry, category, owned, calls⟩ := calls
  exact (((bus_subscribedAsCalled regular settings eventType).called id).mpr
    ⟨entry, category, owner?_filter regular keep owned, calls⟩).1

theorem check_fewer (regular : (Registry.ofEntries entries).Regular) (keep : Entry → Bool)
    (settings : BusSettings) :
    (check (.ofEntries (entries.filter keep)) (bus (.ofEntries entries) settings) none).violations =
      (sortedPairs (.ofEntries (entries.filter fun entry => !keep entry))).map
        fun (eventType, category) =>
          .orphanedSubscription eventType (.ofCategory category eventType) := by
  have inOrder := (checkRegistry_eq_nil_iff_regular _).mpr (regular.filter keep)
  have orphaned : presentViolations (.ofEntries (entries.filter keep))
      (bus (.ofEntries entries) settings) =
        ((bus (.ofEntries entries) settings).listing.filter fun pair =>
          ((Registry.ofEntries (entries.filter keep)).owner? pair.1).isNone).map
            fun pair => .orphanedSubscription pair.1 pair.2 := by
    rw [presentViolations_of_nodup _ (nodup_listing regular settings),
      List.flatMap_congr fun pair listed => disallowed_of_listed regular keep listed,
      ← flatMap_filter, List.map_eq_flatMap]
  simp only [check, inOrder, countViolations, missingSubscriptions_fewer regular, orphaned,
    listing_undeclared regular, List.nil_append, List.map_map]
  rfl

theorem mem_handlersFor_fewer (regular : (Registry.ofEntries entries).Regular)
    (keep : Entry → Bool) (settings : BusSettings) {entry : Entry} (member : entry ∈ entries)
    {eventType : EventType} {category : Category}
    (expected : (eventType, category) ∈ entry.expectedSubscriptions) :
    .ofCategory category eventType ∈
        (bus (.ofEntries (entries.filter keep)) settings).handlersFor eventType ↔
      keep entry = true := by
  have declared := ((entry.mem_expectedSubscriptions eventType category).mp expected).1
  rw [mem_handlersFor_bus]
  constructor
  · intro ⟨other, wanted, _same⟩
    obtain ⟨owner, remains, alsoDeclares, _calls⟩ := (mem_pairs _ _ _).mp wanted
    obtain ⟨inEntries, kept⟩ := List.mem_filter.mp remains
    rwa [← regular.eq_of_declared inEntries member alsoDeclares declared]
  · intro kept
    exact ⟨category, List.mem_flatMap.mpr ⟨entry, List.mem_filter.mpr ⟨member, kept⟩, expected⟩,
      rfl⟩

theorem presentViolations_more (regular : (Registry.ofEntries entries).Regular)
    (keep : Entry → Bool) (settings : BusSettings) :
    presentViolations (.ofEntries entries) (bus (.ofEntries (entries.filter keep)) settings) =
      [] := by
  rw [presentViolations_eq_nil_iff]
  intro eventType
  refine ⟨(bus_subscribedAsCalled (regular.filter keep) settings eventType).once, ?_⟩
  intro id member
  obtain ⟨entry, category, owned, calls⟩ :=
    callsFor_of_listed (regular.filter keep) ((EventBus.mem_listing _ _ _).mpr member)
  have owner := owner?_filter regular keep owned
  obtain ⟨inEntries, declared⟩ := Registry.mem_of_owner? owner
  exact (disallowed_eq_nil_iff _ _ _).mpr
    ⟨⟨entry, inEntries, declared⟩, fun _named => ⟨entry, category, owner, calls⟩⟩

theorem missingSubscriptions_more (regular : (Registry.ofEntries entries).Regular)
    (keep : Entry → Bool) (settings : BusSettings) :
    missingSubscriptions (.ofEntries entries) (bus (.ofEntries (entries.filter keep)) settings) =
      (entries.filter fun entry => !keep entry).flatMap fun entry =>
        entry.expectedSubscriptions.map fun (eventType, category) =>
          .missingSubscription entry.name eventType (.ofCategory category eventType) := by
  rw [missingSubscriptions, flatMap_filter]
  apply List.flatMap_congr
  intro entry member
  cases kept : keep entry with
  | true =>
      refine List.filterMap_eq_nil_iff.mpr ?_
      rintro ⟨eventType, category⟩ expected
      exact if_pos ((mem_handlersFor_fewer regular keep settings member expected).mpr kept)
  | false =>
      rw [← List.filterMap_eq_map]
      apply List.filterMap_congr
      rintro ⟨eventType, category⟩ expected
      refine if_neg fun subscribed => ?_
      rw [(mem_handlersFor_fewer regular keep settings member expected).mp subscribed] at kept
      cases kept

theorem check_more (regular : (Registry.ofEntries entries).Regular) (keep : Entry → Bool)
    (settings : BusSettings) :
    (check (.ofEntries entries) (bus (.ofEntries (entries.filter keep)) settings) none).violations =
      (entries.filter fun entry => !keep entry).flatMap fun entry =>
        entry.expectedSubscriptions.map fun (eventType, category) =>
          .missingSubscription entry.name eventType (.ofCategory category eventType) := by
  have inOrder := (checkRegistry_eq_nil_iff_regular _).mpr regular
  simp only [check, inOrder, countViolations, missingSubscriptions_more regular,
    presentViolations_more regular, List.nil_append, List.append_nil]

/-! ### Drift in both directions -/

/-- Drift is found exactly.  Let a registry that is in order lose any of its entries.
Checking what is left against a bus wired from the whole reports as orphaned each pair that
the deleted entries call for, once, by event type and then by category; checking the whole
against a bus wired from what is left reports each of these pairs as missing, once, in the
order of the entries and of what each calls for.  Nothing else is reported. -/
theorem check_finds_drift (entries : List Entry) (keep : Entry → Bool)
    (settings fewerSettings : BusSettings) (wired fewerWired : EventBus)
    (inOrder : checkRegistry (.ofEntries entries) = [])
    (built : build (.ofEntries entries) settings = .ok wired)
    (fewerBuilt : build (.ofEntries (entries.filter keep)) fewerSettings = .ok fewerWired) :
    let registry := Registry.ofEntries entries
    let fewer := Registry.ofEntries (entries.filter keep)
    let deleted := entries.filter fun entry => !keep entry
    (∃ orphans : List (EventType × Category),
      orphans.Perm (deleted.flatMap Entry.expectedSubscriptions) ∧
      orphans.Pairwise (fun left right =>
        left.1.rank < right.1.rank ∨ left.1 = right.1 ∧ left.2.rank < right.2.rank) ∧
      (check fewer wired none).violations = orphans.map fun (eventType, category) =>
        .orphanedSubscription eventType (.ofCategory category eventType)) ∧
    (deleted.flatMap Entry.expectedSubscriptions).Nodup ∧
    (check registry fewerWired none).violations = deleted.flatMap fun entry =>
      entry.expectedSubscriptions.map fun (eventType, category) =>
        .missingSubscription entry.name eventType (.ofCategory category eventType) := by
  intro registry fewer deleted
  have regular := regular_of_checkRegistry_eq_nil registry inOrder
  have deletedRegular := regular.filter fun entry => !keep entry
  cases eq_bus_of_build built
  cases eq_bus_of_build fewerBuilt
  refine ⟨⟨sortedPairs (.ofEntries deleted), List.mergeSort_perm _ _,
    sortedPairs_ascending deletedRegular, check_fewer regular keep settings⟩,
    nodup_pairs deletedRegular, check_more regular keep fewerSettings⟩

/-- Without the entry of logouts, the catalog drifts from its bus by seven subscriptions. -/
theorem logout_drifts :
    let keep : Entry → Bool := fun entry => entry.name ≠ "user_logout"
    let registry := Registry.ofEntries Catalog.entries
    let fewer := Registry.ofEntries (Catalog.entries.filter keep)
    let settings := BusSettings.default
    let wanted := [(EventType.lifecycle .userLogout .attempted, Category.logging),
      (.lifecycle .userLogout .attempted, .audit), (.lifecycle .userLogout .succeeded, .logging),
      (.lifecycle .userLogout .succeeded, .audit),
      (.lifecycle .userLogout .succeeded, .invalidation),
      (.lifecycle .userLogout .failed, .logging), (.lifecycle .userLogout .failed, .audit)]
    checkRegistry registry = [] ∧
      build registry settings = .ok (bus registry settings) ∧
      build fewer settings = .ok (bus fewer settings) ∧
      (check fewer (bus registry settings) none).violations =
        wanted.map (fun (eventType, category) =>
          .orphanedSubscription eventType (.ofCategory category eventType)) ∧
      (check registry (bus fewer settings) none).violations =
        wanted.map fun (eventType, category) =>
          .missingSubscription "user_logout" eventType (.ofCategory category eventType) := by
  intro keep registry fewer settings wanted
  have inOrder : checkRegistry registry = [] := by decide +kernel
  have built := build_lenient registry settings rfl
  have fewerBuilt := build_lenient fewer settings rfl
  obtain ⟨⟨orphans, same, ascending, orphaned⟩, _once, missing⟩ :=
    check_finds_drift Catalog.entries keep settings settings _ _ inOrder built fewerBuilt
  have deleted : (Catalog.entries.filter fun entry => !keep entry).flatMap
      Entry.expectedSubscriptions = wanted := by decide +kernel
  have ordered : orphans = wanted := by
    refine List.Perm.eq_of_pairwise ?_ ascending (by decide) (deleted ▸ same)
    intro left right _inOrphans _inWanted before after
    rcases before with before | ⟨level, before⟩
    · rcases after with after | ⟨level, _after⟩
      · omega
      · rw [level] at before
        omega
    · rcases after with after | ⟨_level, after⟩
      · rw [level] at after
        omega
      · omega
  refine ⟨inOrder, built, fewerBuilt, ordered ▸ orphaned, missing.trans ?_⟩
  decide +kernel

end Wiring
end WorkflowBus
