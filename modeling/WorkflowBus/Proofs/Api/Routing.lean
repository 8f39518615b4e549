/-
The paths of the routes below `/api/v1/events`.

The routes have fixed paths, but for the pages of entries: there a name of the registry ends
the path, and any characters without a slash among them are such a name.
-/

import WorkflowBus.Api.Answer

namespace WorkflowBus
namespace Route

theorem after?_eq_some_iff {start chars rest : List Char} :
    after? start chars = some rest ↔ chars = start ++ rest := by
  induction start generalizing chars with
  | nil => exact Option.some_inj
  | cons expected start ih =>
      cases chars with
      | nil => exact iff_of_false nofun nofun
      | cons char chars =>
          rw [after?, List.cons_append, List.cons.injEq]
          split
          · next same => rw [ih, and_iff_right same.symm]
          · next different => exact iff_of_false nofun fun both => different both.1.symm

theorem after?_append (start rest : List Char) : after? start (start ++ rest) = some rest :=
  after?_eq_some_iff.mpr rfl

theorem ofPath?_entry {name : String} (nonempty : name ≠ "") (single : '/' ∉ name.toList)
    (own : name ≠ "statistics") :
    ofPath? (base ++ ("/events/registry/" ++ name)).toList = some (.entry name) := by
  have health : base.toList ++ ("/events/registry/".toList ++ name.toList) ≠ "/health".toList := by
    intro same
    have starts : ['/', 'a'] = ['/', 'h'] := congrArg (List.take 2) same
    cases starts
  have unlike {path : List Char} (other : path.take 17 ≠ "/events/registry/".toList) :
      "/events/registry/".toList ++ name.toList ≠ path := by
    rintro rfl
    exact other rfl
  have statistics : "/events/registry/".toList ++ name.toList ≠
      "/events/registry/statistics".toList := by
    intro same
    exact own (String.toList_inj.mp (List.append_cancel_left
      (same.trans (String.toList_append (s := "/events/registry/") (t := "statistics")))))
  have some : name.toList.isEmpty = false := by
    rw [List.isEmpty_eq_false_iff]
    exact fun nothing => nonempty (String.toList_inj.mp nothing)
  have flat : name.toList.contains '/' = false := by
    rw [List.contains_eq_mem]
    exact decide_eq_false single
  rw [String.toList_append, String.toList_append, ofPath?, if_neg health, after?_append]
  simp only [versioned?]
  rw [if_neg (unlike (by decide)), if_neg statistics, if_neg (unlike (by decide)),
    if_neg (unlike (by decide)), after?_append]
  simp only [some, flat, Bool.or_self, Bool.false_eq_true, if_false, String.ofList_toList]

/-- The paths of the routes below `/api/v1/events`. -/
inductive EventsPath : List Char → Prop where
  | registry : EventsPath "/api/v1/events/registry".toList
  | statistics : EventsPath "/api/v1/events/registry/statistics".toList
  | entry {name : List Char} (nonempty : name ≠ []) (single : '/' ∉ name) :
      EventsPath ("/api/v1/events/registry/".toList ++ name)
  | subscriptions : EventsPath "/api/v1/events/subscriptions".toList
  | compliance : EventsPath "/api/v1/events/compliance".toList

theorem routed_of_eventsPath {path : List Char} (events : EventsPath path) :
    ∃ route, ofPath? path = some route ∧ route ≠ .health := by
  cases events with
  | registry => exact ⟨.registry, by decide, nofun⟩
  | statistics => exact ⟨.statistics, by decide, nofun⟩
  | subscriptions => exact ⟨.subscriptions, by decide, nofun⟩
  | compliance => exact ⟨.compliance, by decide, nofun⟩
  | @entry name nonempty single =>
      by_cases own : name = "statistics".toList
      · subst own
        exact ⟨.statistics, by decide, nofun⟩
      have page : "/api/v1/events/registry/".toList ++ name =
          (base ++ ("/events/registry/" ++ String.ofList name)).toList := by
        have start : "/api/v1/events/registry/".toList =
            base.toList ++ "/events/registry/".toList := by decide
        rw [start, String.toList_append, String.toList_append,
          String.toList_ofList (l := name), List.append_assoc]
      refine ⟨.entry (String.ofList name), ?_, nofun⟩
      rw [page]
      apply ofPath?_entry
      · exact fun empty => nonempty (String.ofList_eq_empty_iff.mp empty)
      · rwa [String.toList_ofList]
      · intro same
        exact own (by rw [← same, String.toList_ofList])

theorem eventsPath_of_versioned? {below : List Char} {route : Route}
    (read : versioned? below = some route) : EventsPath (base.toList ++ below) := by
  unfold versioned? at read
  split at read
  · next same =>
      subst same
      exact .registry
  split at read
  · next same =>
      subst same
      exact .statistics
  split at read
  · next same =>
      subst same
      exact .subscriptions
  split at read
  · next same =>
      subst same
      exact .compliance
  split at read
  · next name page =>
      cases after?_eq_some_iff.mp page
      split at read
      · cases read
      · next proper =>
          simp only [Bool.or_eq_true, not_or, List.isEmpty_iff, List.contains_eq_mem,
            decide_eq_true_eq] at proper
          rw [← List.append_assoc]
          exact .entry proper.1 proper.2
  · cases read

/-- These are the paths of all routes but the health check. -/
theorem eventsPath_iff {path : List Char} :
    EventsPath path ↔ ∃ route, ofPath? path = some route ∧ route ≠ .health := by
  constructor
  · exact routed_of_eventsPath
  · rintro ⟨route, read, versioned⟩
    unfold ofPath? at read
    split at read
    · exact absurd (Option.some.inj read).symm versioned
    split at read
    · next below start =>
        rw [after?_eq_some_iff.mp start]
        exact eventsPath_of_versioned? read
    · cases read

end Route

namespace Api

/-- All routes but the health check are answered under a correlation identifier. -/
theorem answer_eq_versionedAnswer {request : Request} {route : Route}
    (routed : Route.ofPath? request.uri.path = some route) (versioned : route ≠ .health)
    (state : State) (services : Services) :
    answer state request services = versionedAnswer state request route services := by
  unfold answer
  rw [routed]
  cases route with
  | health => exact absurd rfl versioned
  | _ => rfl

end Api
end WorkflowBus
