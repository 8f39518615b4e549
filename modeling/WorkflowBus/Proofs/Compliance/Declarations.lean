/-
Event types that several entries declare.

The check of a registry goes through the entries and keeps, for each event type, the name of
the entry that has declared it last.  An entry that declares the event type under another name
is reported with the name that is kept, which is not that of the owner: the owner is the first
entry that declares the event type.  The two are the same as long as all but the last of the
entries that declare it bear the owner's name.
-/

import Mathlib.Data.List.Basic
import Mathlib.Data.List.Induction
import WorkflowBus.Compliance.Check
import WorkflowBus.Lookup
import WorkflowBus.Proofs.Registry.Index

namespace WorkflowBus
namespace Compliance

def declaring (entries : List Entry) (eventType : EventType) : List Entry :=
  entries.filter fun entry => eventType ∈ entry.eventTypes

/-- The last entry that declares an event type. -/
def latest? (entries : List Entry) (eventType : EventType) : Option Entry :=
  (declaring entries eventType).getLast?

/-- The declarations that are known after some entries. -/
def declarationsOf (entries : List Entry) : Declarations :=
  entries.foldl (fun declarations entry => (declare entry.name declarations entry.eventTypes).2) []

theorem declarationsOf_append_singleton (entries : List Entry) (entry : Entry) :
    declarationsOf (entries ++ [entry]) =
      (declare entry.name (declarationsOf entries) entry.eventTypes).2 :=
  List.foldl_append

/-- What is reported of an entry that declares an event type under its name, when the event
type is kept under the given one. -/
def conflict (name : String) (eventType : EventType) : (kept : Option String) → List EntryProblem
  | some owner => if owner = name then [] else [.alreadyDeclared eventType owner]
  | none => []

theorem declare_cons (name : String) (declarations : Declarations) (declared : EventType)
    (rest : List EventType) :
    declare name declarations (declared :: rest) =
      (conflict name declared (declarations.lookup declared) ++
          (declare name ((declared, name) :: declarations) rest).1,
        (declare name ((declared, name) :: declarations) rest).2) := by
  rw [declare]
  cases declarations.lookup declared with
  | none => rfl
  | some owner =>
      by_cases same : owner = name
      · simp only [conflict, if_pos same, List.nil_append]
      · simp only [conflict, if_neg same, List.cons_append, List.nil_append]

theorem lookup_declare (name : String) (declarations : Declarations)
    (eventTypes : List EventType) (eventType : EventType) :
    (declare name declarations eventTypes).2.lookup eventType =
      if eventType ∈ eventTypes then some name else declarations.lookup eventType := by
  induction eventTypes generalizing declarations with
  | nil => rfl
  | cons declared rest ih =>
      rw [declare_cons, ih, lookup_cons]
      by_cases later : eventType ∈ rest
      · rw [if_pos later, if_pos (List.mem_cons_of_mem declared later)]
      · rw [if_neg later]
        simp only [List.mem_cons, later, or_false]

theorem declaring_append_singleton (entries : List Entry) (entry : Entry)
    (eventType : EventType) :
    declaring (entries ++ [entry]) eventType =
      declaring entries eventType ++ if eventType ∈ entry.eventTypes then [entry] else [] := by
  rw [declaring, List.filter_append]
  congr 1
  by_cases declared : eventType ∈ entry.eventTypes
  · rw [if_pos declared, List.filter_cons_of_pos (by simpa using declared), List.filter_nil]
  · rw [if_neg declared, List.filter_cons_of_neg (by simpa using declared), List.filter_nil]

theorem latest?_append_singleton (entries : List Entry) (entry : Entry) (eventType : EventType) :
    latest? (entries ++ [entry]) eventType =
      if eventType ∈ entry.eventTypes then some entry else latest? entries eventType := by
  rw [latest?, declaring_append_singleton]
  split
  · exact List.getLast?_concat
  · rw [List.append_nil, latest?]

theorem lookup_declarationsOf (entries : List Entry) (eventType : EventType) :
    (declarationsOf entries).lookup eventType = (latest? entries eventType).map Entry.name := by
  induction entries using List.reverseRecOn with
  | nil => rfl
  | append_singleton entries entry ih =>
      rw [declarationsOf_append_singleton, lookup_declare, latest?_append_singleton, ih]
      split <;> rfl

theorem alreadyDeclared_mem_conflict {name owner : String} {declared eventType : EventType}
    {kept : Option String} :
    .alreadyDeclared eventType owner ∈ conflict name declared kept ↔
      eventType = declared ∧ owner ≠ name ∧ kept = some owner := by
  cases kept with
  | none => simp [conflict]
  | some known =>
      by_cases same : known = name
      · simp only [conflict, if_pos same, List.not_mem_nil, Option.some.injEq, false_iff]
        rintro ⟨_declared, other, rfl⟩
        exact other same
      · simp only [conflict, if_neg same, List.mem_singleton, EntryProblem.alreadyDeclared.injEq,
          Option.some.injEq]
        constructor
        · rintro ⟨rfl, rfl⟩
          exact ⟨rfl, same, rfl⟩
        · rintro ⟨rfl, _other, rfl⟩
          exact ⟨rfl, rfl⟩

theorem alreadyDeclared_mem_declare {name owner : String} {declarations : Declarations}
    {eventTypes : List EventType} {eventType : EventType} :
    .alreadyDeclared eventType owner ∈ (declare name declarations eventTypes).1 ↔
      eventType ∈ eventTypes ∧ owner ≠ name ∧ declarations.lookup eventType = some owner := by
  induction eventTypes generalizing declarations with
  | nil => simp [declare]
  | cons declared rest ih =>
      rw [declare_cons, List.mem_append, alreadyDeclared_mem_conflict, ih, lookup_cons,
        List.mem_cons]
      by_cases here : eventType = declared
      · subst here
        rw [if_pos rfl, Option.some.injEq]
        constructor
        · rintro (⟨_here, other, kept⟩ | ⟨_later, other, rfl⟩)
          · exact ⟨Or.inl rfl, other, kept⟩
          · exact absurd rfl other
        · intro ⟨_here, other, kept⟩
          exact Or.inl ⟨rfl, other, kept⟩
      · simp only [here, false_and, false_or, if_false]

/-- What the check finds of an entry that stands behind others. -/
def entryFindings (before : List Entry) (entry : Entry) : List Violation :=
  (if entry.name ∈ before.map Entry.name then [.duplicateWorkflow entry.name] else []) ++
    (entry.problems ++ (declare entry.name (declarationsOf before) entry.eventTypes).1).map
      (.malformedEntry entry.name)

theorem entryViolations_eq_flatMap (before entries : List Entry) :
    entryViolations (before.map Entry.name).reverse (declarationsOf before) entries =
      (entries.zipIdx before.length).flatMap fun (entry, position) =>
        entryFindings ((before ++ entries).take position) entry := by
  induction entries generalizing before with
  | nil => rfl
  | cons entry rest ih =>
      have later := ih (before ++ [entry])
      rw [List.map_append, List.reverse_append, declarationsOf_append_singleton,
        List.length_append, List.append_assoc] at later
      rw [List.zipIdx_cons, List.flatMap_cons]
      simp only [List.take_left, entryViolations, entryFindings, List.mem_reverse]
      congr 1

/-- The check of a registry finds fault with one entry after the other, each with regard to
those before it. -/
theorem checkRegistry_eq_flatMap (entries : List Entry) :
    checkRegistry (.ofEntries entries) =
      entries.zipIdx.flatMap fun (entry, position) =>
        entryFindings (entries.take position) entry :=
  entryViolations_eq_flatMap [] entries

/-- The check reports of an entry behind others that the event type is already declared by an
entry with the given name. -/
def Reports (before : List Entry) (entry : Entry) (eventType : EventType) (name : String) : Prop :=
  .malformedEntry entry.name (.alreadyDeclared eventType name) ∈ entryFindings before entry

theorem alreadyDeclared_not_mem_problems (entry : Entry) (eventType : EventType) (name : String) :
    .alreadyDeclared eventType name ∉ entry.problems := by
  intro member
  rcases List.mem_append.mp member with shape | count
  · rcases List.mem_append.mp shape with naming | membership
    · unfold Entry.namingProblems at naming
      rcases List.mem_append.mp naming with empty | unaudited
      · split at empty
        · cases List.mem_singleton.mp empty
        · cases empty
      · split at unaudited
        · cases List.mem_singleton.mp unaudited
        · cases unaudited
    · obtain ⟨declared, _listed, found⟩ := List.mem_filterMap.mp membership
      unfold Entry.membershipProblem? at found
      split at found
      · cases found
      · split at found <;> cases found
  · unfold Entry.countProblems at count
    split at count
    · obtain ⟨stage, _listed, found⟩ := List.mem_filterMap.mp count
      split at found <;> cases found
    · split at count
      · cases List.mem_singleton.mp count
      · cases count

theorem reports_iff {before : List Entry} {entry : Entry} {eventType : EventType} {name : String} :
    Reports before entry eventType name ↔
      eventType ∈ entry.eventTypes ∧ name ≠ entry.name ∧
        ∃ other, latest? before eventType = some other ∧ other.name = name := by
  have found : Reports before entry eventType name ↔
      .alreadyDeclared eventType name ∈
        (declare entry.name (declarationsOf before) entry.eventTypes).1 := by
    unfold Reports entryFindings
    constructor
    · intro member
      rcases List.mem_append.mp member with repeated | malformed
      · split at repeated
        · cases List.mem_singleton.mp repeated
        · cases repeated
      · obtain ⟨problem, listed, same⟩ := List.mem_map.mp malformed
        cases same
        exact (List.mem_append.mp listed).resolve_left
          (alreadyDeclared_not_mem_problems entry eventType name)
    · intro claimed
      exact List.mem_append_right _ (List.mem_map_of_mem (List.mem_append_right _ claimed))
  rw [found, alreadyDeclared_mem_declare, lookup_declarationsOf, Option.map_eq_some_iff]

/-! ### Owners -/

theorem owner?_eq_head?_declaring (entries : List Entry) (eventType : EventType) :
    (Registry.ofEntries entries).owner? eventType = (declaring entries eventType).head? := by
  rw [Registry.owner?_ofEntries, declaring, List.head?_filter]

/-- The reports of an event type name its owner, and each entry that declares the event type
under a name other than the owner's is reported. -/
structure NamesOwner (entries : List Entry) (eventType : EventType) : Prop where
  owner : ∀ before entry after name, entries = before ++ entry :: after →
    Reports before entry eventType name →
      ∃ owner, (Registry.ofEntries entries).owner? eventType = some owner ∧ owner.name = name
  every : ∀ before entry after owner, entries = before ++ entry :: after →
    eventType ∈ entry.eventTypes → (Registry.ofEntries entries).owner? eventType = some owner →
      entry.name ≠ owner.name → Reports before entry eventType owner.name

/-- All entries that declare an event type, but for the last of them, bear the owner's name. -/
def OwnedButLast (entries : List Entry) (eventType : EventType) : Prop :=
  ∀ other ∈ (declaring entries eventType).dropLast, ∀ owner,
    (Registry.ofEntries entries).owner? eventType = some owner → other.name = owner.name

theorem declaring_split (before : List Entry) (entry : Entry) (after : List Entry)
    {eventType : EventType} (declared : eventType ∈ entry.eventTypes) :
    declaring (before ++ entry :: after) eventType =
      declaring before eventType ++ entry :: declaring after eventType := by
  rw [declaring, List.filter_append, List.filter_cons_of_pos (by simpa using declared)]
  rfl

theorem mem_dropLast_of_latest? {before : List Entry} {entry other : Entry}
    {eventType : EventType} (after : List Entry) (declared : eventType ∈ entry.eventTypes)
    (latest : latest? before eventType = some other) :
    other ∈ (declaring (before ++ entry :: after) eventType).dropLast := by
  rw [declaring_split before entry after declared,
    List.dropLast_append_of_ne_nil (List.cons_ne_nil _ _)]
  exact List.mem_append_left _ (List.mem_of_getLast? latest)

theorem NamesOwner.of_ownedButLast {entries : List Entry} {eventType : EventType}
    (owned : OwnedButLast entries eventType) : NamesOwner entries eventType where
  owner := by
    rintro before entry after name rfl reports
    obtain ⟨declared, _unlike, other, latest, rfl⟩ := reports_iff.mp reports
    have among := mem_dropLast_of_latest? after declared latest
    cases found : (Registry.ofEntries (before ++ entry :: after)).owner? eventType with
    | none =>
        exact absurd ⟨entry, List.mem_append_right _ List.mem_cons_self, declared⟩
          ((Registry.owner?_eq_none_iff _ _).mp found)
    | some owner => exact ⟨owner, rfl, (owned other among owner found).symm⟩
  every := by
    rintro before entry after owner rfl declared found unlike
    cases latest : latest? before eventType with
    | none =>
        rw [owner?_eq_head?_declaring, declaring_split before entry after declared,
          List.getLast?_eq_none_iff.mp latest] at found
        cases found
        exact absurd rfl unlike
    | some other =>
        have named := owned other (mem_dropLast_of_latest? after declared latest) owner found
        exact reports_iff.mpr ⟨declared, unlike.symm, other, latest, named⟩

theorem exists_split_of_mem_dropLast {entries : List Entry} {other : Entry}
    {eventType : EventType} (among : other ∈ (declaring entries eventType).dropLast) :
    ∃ before entry after, entries = before ++ entry :: after ∧ eventType ∈ entry.eventTypes ∧
      latest? before eventType = some other := by
  induction entries using List.reverseRecOn with
  | nil => cases among
  | append_singleton entries entry ih =>
      have further (earlier : other ∈ (declaring entries eventType).dropLast) :
          ∃ before inner after, entries ++ [entry] = before ++ inner :: after ∧
            eventType ∈ inner.eventTypes ∧ latest? before eventType = some other := by
        obtain ⟨before, inner, after, rfl, declared, latest⟩ := ih earlier
        refine ⟨before, inner, after ++ [entry], ?_, declared, latest⟩
        rw [List.append_assoc, List.cons_append]
      rw [declaring_append_singleton] at among
      split at among
      · next declared =>
          rw [List.dropLast_concat] at among
          by_cases latest : latest? entries eventType = some other
          · exact ⟨entries, entry, [], rfl, declared, latest⟩
          · exact further (List.mem_dropLast_of_mem_of_ne_getLast? among (Ne.symm latest))
      · rw [List.append_nil] at among
        exact further among

theorem NamesOwner.ownedButLast {entries : List Entry} {eventType : EventType}
    (names : NamesOwner entries eventType) : OwnedButLast entries eventType := by
  intro other among owner found
  obtain ⟨before, entry, after, split, declared, latest⟩ := exists_split_of_mem_dropLast among
  -- The entry is either reported under the name of the other one, or bears that name itself.
  by_cases same : other.name = entry.name
  · apply Classical.byContradiction
    intro unlike
    have reported := names.every before entry after owner split declared found (same ▸ unlike)
    obtain ⟨_declared, _unlike, latter, last, named⟩ := reports_iff.mp reported
    cases latest.symm.trans last
    exact unlike named
  · have reported : Reports before entry eventType other.name :=
      reports_iff.mpr ⟨declared, same, other, latest, rfl⟩
    obtain ⟨known, owns, named⟩ := names.owner before entry after other.name split reported
    cases found.symm.trans owns
    exact named.symm

/-- The check of a registry finds fault with one entry after the other.  Of an event type that
an entry declares it reports the name of the last entry before that declares it, if that is
another name.  So the reports of an event type name its owner, and leave out no entry of
another name, exactly if all but the last of the entries that declare it bear the owner's
name. -/
theorem checkRegistry_names_latest (entries : List Entry) :
    checkRegistry (.ofEntries entries) =
        entries.zipIdx.flatMap (fun (entry, position) =>
          entryFindings (entries.take position) entry) ∧
      (∀ before entry eventType name, Reports before entry eventType name ↔
        eventType ∈ entry.eventTypes ∧ name ≠ entry.name ∧
          ∃ other, latest? before eventType = some other ∧ other.name = name) ∧
      ∀ eventType, NamesOwner entries eventType ↔ OwnedButLast entries eventType :=
  ⟨checkRegistry_eq_flatMap entries, fun _ _ _ _ => reports_iff,
    fun _ => ⟨NamesOwner.ownedButLast, NamesOwner.of_ownedButLast⟩⟩

def contested : List Entry :=
  [.ofWorkflow .userLogin "auth.login",
    { Entry.ofWorkflow .userLogout "auth.logout" with eventTypes := Workflow.userLogin.eventTypes },
    { Entry.ofWorkflow .userRegistration "user.registration" with
      eventTypes := Workflow.userLogin.eventTypes }]

/-- The third entry is told that the event type is the second one's. -/
theorem contested_misnames_owner :
    let registry := Registry.ofEntries contested
    let eventType := EventType.lifecycle .userLogin .attempted
    ¬NamesOwner contested eventType ∧
      (registry.owner? eventType).map Entry.name = some "user_login" ∧
      .malformedEntry "user_registration" (.alreadyDeclared eventType "user_logout") ∈
        checkRegistry registry ∧
      .malformedEntry "user_registration" (.alreadyDeclared eventType "user_login") ∉
        checkRegistry registry := by
  intro registry eventType
  have owner : (registry.owner? eventType).map Entry.name = some "user_login" := by
    decide +kernel
  refine ⟨fun names => ?_, owner, by decide +kernel, by decide +kernel⟩
  obtain ⟨login, owns, named⟩ := Option.map_eq_some_iff.mp owner
  have second : (declaring contested eventType).dropLast.any (·.name == "user_logout") = true := by
    decide +kernel
  obtain ⟨logout, among, other⟩ := List.any_eq_true.mp second
  have same := names.ownedButLast logout among login owns
  rw [named, eq_of_beq other] at same
  exact absurd same (by decide)

end Compliance
end WorkflowBus
