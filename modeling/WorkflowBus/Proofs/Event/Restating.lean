/-
Events that are told in other words.

An event is read by the keys of three objects in each other: its own, that of its payload and
that of its fact.  In which order their members stand makes no difference, nor do members under
keys that are not looked for, nor does an address of a client that is null where it could be
missing.
-/

import WorkflowBus.Event.Basic
import WorkflowBus.Proofs.Event.Fields

namespace WorkflowBus

namespace Json

/-- The second object has one more member, under a key that is not looked for in the first. -/
inductive Widened (lookedFor : List (String × Json) → String → Prop) : Json → Json → Prop where
  | intro (front back : List (String × Json)) {key : String}
      (unknown : ¬lookedFor (front ++ back) key) (value : Json) :
      Widened lookedFor (.obj (front ++ back)) (.obj (front ++ (key, value) :: back))

inductive ChangedAt (key : String) (change : Json → Json → Prop) : Json → Json → Prop where
  | intro (front back : List (String × Json)) {left right : Json} (inner : change left right) :
      ChangedAt key change (.obj (front ++ (key, left) :: back))
        (.obj (front ++ (key, right) :: back))

end Json

namespace Fact

open Json

/-- The key is looked for where a fact is read from the given members. -/
def LooksFor (members : List (String × Json)) (key : String) : Prop :=
  key = "type" ∨ ∃ family eventType,
    required? (eventType? family true) (members.lookup "type") = some eventType ∧
      key ∈ eventType.fieldNames

theorem ofJson?_widened {left right : Json} (wider : Widened LooksFor left right)
    (family : Family) : ofJson? family true left = ofJson? family true right := by
  cases wider with
  | @intro front back key unknown value =>
      obtain ⟨notType, noField⟩ := not_or.mp unknown
      apply ofJson?_congr
      · rw [lookup_widened_of_ne (Ne.symm notType)]
      · intro eventType named name field
        have different : name ≠ key := by
          rintro rfl
          exact noField ⟨family, eventType, named, field⟩
        rw [lookup_widened_of_ne different]

/-- The second object tells with null that there is no address of a client, the first by
leaving it out. -/
inductive AddressNulled : Json → Json → Prop where
  | intro (front back : List (String × Json))
      (missing : (front ++ back).lookup "client_ip" = none) :
      AddressNulled (.obj (front ++ back)) (.obj (front ++ ("client_ip", .null) :: back))

theorem ofJson?_addressNulled {left right : Json} (nulled : AddressNulled left right)
    (family : Family) : ofJson? family true left = ofJson? family true right := by
  obtain ⟨front, back, missing⟩ := nulled
  apply ofJson?_congr
  · rw [lookup_widened_of_ne (by decide)]
  · intro eventType named name _
    by_cases address : name = "client_ip"
    · have before : front.lookup "client_ip" = none := by
        rw [List.lookup_append] at missing
        exact (Option.or_eq_none_iff.mp missing).1
      rw [address, missing, List.lookup_append, before, List.lookup_cons_self]
      rfl
    · rw [lookup_widened_of_ne address]

end Fact

namespace Event

open Json (required? name? Widened ChangedAt Reordered)

theorem factOfPayload?_obj (members : List (String × Json)) :
    factOfPayload? (.obj members) =
      (required? name? (members.lookup "family")).bind fun label =>
        (Family.ofName? label).bind fun family =>
          required? (Fact.ofJson? family true) (members.lookup "event") := by
  rw [factOfPayload?]
  cases members.lookup "family" <;> cases members.lookup "event" <;> rfl

theorem factOfPayload?_congr {left right : List (String × Json)}
    (label : required? name? (left.lookup "family") = required? name? (right.lookup "family"))
    (fact : ∀ family, required? (Fact.ofJson? family true) (left.lookup "event") =
      required? (Fact.ofJson? family true) (right.lookup "event")) :
    factOfPayload? (.obj left) = factOfPayload? (.obj right) := by
  rw [factOfPayload?_obj, factOfPayload?_obj, label]
  simp only [fact]

theorem factOfPayload?_reordered {left right : Json} (same : Reordered left right) :
    factOfPayload? left = factOfPayload? right := by
  cases left with
  | obj members =>
      obtain ⟨others, rfl, _, found⟩ := same.of_obj
      exact factOfPayload?_congr
        (Json.required?_eq_of_rel Json.name?_eq_of_reordered (found "family"))
        fun _ => Json.required?_eq_of_rel Fact.ofJson?_reordered (found "event")
  | arr items =>
      obtain ⟨others, rfl, each⟩ := same.of_arr
      match items, others, each with
      | [], [], .nil => rfl
      | [_], [_], .cons _ .nil => rfl
      | [label, fact], [otherLabel, otherFact], .cons labels (.cons facts .nil) =>
          have named : label.text? = otherLabel.text? :=
            Json.readsTexts_text?.readsPlain.eq_of_rel (.some labels)
          have read (family : Family) :
              Fact.ofJson? family false fact = Fact.ofJson? family false otherFact :=
            Fact.ofJson?_reordered facts
          simp only [factOfPayload?, named, read]
      | _ :: _ :: _ :: _, _ :: _ :: _ :: _, .cons _ (.cons _ (.cons _ _)) => rfl
  | _ => rw [same.eq_of_isScalar rfl]

theorem factOfPayload?_widened {left right : Json}
    (wider : Widened (fun _ key => key ∈ ["family", "event"]) left right) :
    factOfPayload? left = factOfPayload? right := by
  cases wider with
  | @intro front back key unknown value =>
      simp only [List.mem_cons, List.not_mem_nil, or_false, not_or] at unknown
      apply factOfPayload?_congr
      · rw [Json.lookup_widened_of_ne (Ne.symm unknown.1)]
      · intro family
        rw [Json.lookup_widened_of_ne (Ne.symm unknown.2)]

theorem factOfPayload?_changedAt {change : Json → Json → Prop}
    (unread : ∀ {left right : Json}, change left right →
      ∀ family, Fact.ofJson? family true left = Fact.ofJson? family true right)
    {left right : Json} (changed : ChangedAt "event" change left right) :
    factOfPayload? left = factOfPayload? right := by
  cases changed with
  | @intro front back old new inner =>
      apply factOfPayload?_congr
      · rw [Json.lookup_replaced_of_ne (by decide) old new]
      · exact fun family => Json.required?_replaced (unread inner family) "event" front back

theorem ofJson?_obj (members : List (String × Json)) :
    ofJson? (.obj members) =
      (required? Uuid.ofJson? (members.lookup "id")).bind fun id =>
        (required? Instant.ofJson? (members.lookup "occurred_at")).bind fun occurredAt =>
          (required? factOfPayload? (members.lookup "payload")).map fun fact =>
            ⟨id, occurredAt, fact⟩ := by
  simp only [ofJson?, Json.fields?, List.map_cons, List.map_nil, Option.bind_eq_bind,
    Option.bind_some, Option.map_eq_bind]
  rfl

theorem ofJson?_congr {left right : List (String × Json)}
    (id : left.lookup "id" = right.lookup "id")
    (occurredAt : left.lookup "occurred_at" = right.lookup "occurred_at")
    (payload : required? factOfPayload? (left.lookup "payload") =
      required? factOfPayload? (right.lookup "payload")) :
    ofJson? (.obj left) = ofJson? (.obj right) := by
  rw [ofJson?_obj, ofJson?_obj, id, occurredAt, payload]

theorem ofJson?_reordered {left right : Json} (same : Reordered left right) :
    ofJson? left = ofJson? right := by
  have fields := Json.fields?_rel same ["id", "occurred_at", "payload"]
  rw [ofJson?, ofJson?]
  generalize left.fields? _ = leftFields at fields ⊢
  generalize right.fields? _ = rightFields at fields ⊢
  cases fields with
  | none => rfl
  | @some values others each =>
      match values, others, each with
      | [], [], .nil => rfl
      | [_], [_], .cons _ .nil => rfl
      | [_, _], [_, _], .cons _ (.cons _ .nil) => rfl
      | [id, occurredAt, payload], [_, _, _], .cons ids (.cons times (.cons payloads .nil)) =>
          simp only [Option.bind_eq_bind, Option.bind_some,
            Uuid.readsTexts.readsPlain.eq_of_rel ids,
            Instant.readsTexts.readsPlain.eq_of_rel times,
            Json.required?_eq_of_rel factOfPayload?_reordered payloads]
      | _ :: _ :: _ :: _ :: _, _ :: _ :: _ :: _ :: _, .cons _ (.cons _ (.cons _ (.cons _ _))) => rfl

theorem ofJson?_widened {left right : Json}
    (wider : Widened (fun _ key => key ∈ ["id", "occurred_at", "payload"]) left right) :
    ofJson? left = ofJson? right := by
  cases wider with
  | @intro front back key unknown value =>
      simp only [List.mem_cons, List.not_mem_nil, or_false, not_or] at unknown
      obtain ⟨notId, notTime, notPayload⟩ := unknown
      apply ofJson?_congr
      · rw [Json.lookup_widened_of_ne (Ne.symm notId)]
      · rw [Json.lookup_widened_of_ne (Ne.symm notTime)]
      · rw [Json.lookup_widened_of_ne (Ne.symm notPayload)]

theorem ofJson?_changedAt {change : Json → Json → Prop}
    (unread : ∀ {left right : Json}, change left right →
      factOfPayload? left = factOfPayload? right)
    {left right : Json} (changed : ChangedAt "payload" change left right) :
    ofJson? left = ofJson? right := by
  cases changed with
  | @intro front back old new inner =>
      apply ofJson?_congr
      · rw [Json.lookup_replaced_of_ne (by decide) old new]
      · rw [Json.lookup_replaced_of_ne (by decide) old new]
      · exact Json.required?_replaced (unread inner) "payload" front back

/-- The same is told in another way: the members of objects stand in another order, at any
level, or the object of the event, of its payload or of its fact has further members, under
keys that are not the names of its fields. -/
inductive Restated : Json → Json → Prop where
  | reordered {left right : Json} (same : Reordered left right) : Restated left right
  | event {left right : Json}
      (wider : Widened (fun _ key => key ∈ ["id", "occurred_at", "payload"]) left right) :
      Restated left right
  | payload {left right : Json}
      (wider : ChangedAt "payload" (Widened fun _ key => key ∈ ["family", "event"]) left right) :
      Restated left right
  | fact {left right : Json}
      (wider : ChangedAt "payload" (ChangedAt "event" (Widened Fact.LooksFor)) left right) :
      Restated left right
  | symm {left right : Json} (same : Restated left right) : Restated right left
  | trans {left middle right : Json} (first : Restated left middle)
      (second : Restated middle right) : Restated left right

theorem ofJson?_restated {left right : Json} (same : Restated left right) :
    ofJson? left = ofJson? right := by
  induction same with
  | reordered same => exact ofJson?_reordered same
  | event wider => exact ofJson?_widened wider
  | payload wider => exact ofJson?_changedAt factOfPayload?_widened wider
  | fact wider =>
      exact ofJson?_changedAt (factOfPayload?_changedAt Fact.ofJson?_widened) wider
  | symm _ ih => exact ih.symm
  | trans _ _ ihFirst ihSecond => exact ihFirst.trans ihSecond

end Event
end WorkflowBus
