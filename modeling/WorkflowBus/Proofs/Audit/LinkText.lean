/-
What the text behind an entry's hash tells of the entry.

Identifier, sequence number, action, actor, metadata and previous hash are put one behind
the other without a mark between them.  The first and the last have a fixed length, and
so the text tells both of them and what stands between; where the action ends it tells
only of actions without the characters with which the text of a value opens.
-/

import WorkflowBus.Audit.Chain
import WorkflowBus.Registry.Catalog
import WorkflowBus.Proofs.Json.Apart
import WorkflowBus.Proofs.Uuid

namespace WorkflowBus

@[ext]
structure Link where
  id : Uuid
  sequenceNumber : Int
  action : String
  actorId : Option Uuid
  metadataText : String
  previousHash : String
  compact : ∃ json : Json, json.text = metadataText
  width : previousHash.length = 64
  digits : ∀ char ∈ previousHash.toList, (Hex.digit? char).isSome = true

namespace Chain

def actorText (actorId : Option Uuid) : String :=
  (actorId.map Uuid.text).getD ""

/-- What stands in a link's text between the identifier and the previous hash. -/
def linkContent (sequenceNumber : Int) (action : String) (actorId : Option Uuid)
    (metadataText : String) : String :=
  toString sequenceNumber ++ action ++ actorText actorId ++ metadataText

/-- An action that is not empty and has no character with which a text of a value opens. -/
def PlainAction (action : String) : Prop :=
  action ≠ "" ∧ ∀ char ∈ action.toList, Json.opensValue char = false

instance (action : String) : Decidable (PlainAction action) :=
  inferInstanceAs (Decidable (_ ∧ _))

end Chain

namespace Link

def text (link : Link) : String :=
  Chain.linkText link.id link.sequenceNumber link.action link.actorId link.metadataText
    link.previousHash

def content (link : Link) : String :=
  Chain.linkContent link.sequenceNumber link.action link.actorId link.metadataText

end Link

namespace Chain

theorem linkText_eq (id : Uuid) (sequenceNumber : Int) (action : String) (actorId : Option Uuid)
    (metadataText previousHash : String) :
    linkText id sequenceNumber action actorId metadataText previousHash =
      id.text ++ linkContent sequenceNumber action actorId metadataText ++ previousHash := by
  unfold linkText linkContent actorText
  simp only [String.append_assoc]

theorem append_inj_of_lengths {start otherStart middle otherMiddle finish otherFinish : String}
    (starts : start.length = otherStart.length) (finishes : finish.length = otherFinish.length) :
    start ++ middle ++ finish = otherStart ++ otherMiddle ++ otherFinish ↔
      start = otherStart ∧ middle = otherMiddle ∧ finish = otherFinish := by
  constructor
  · intro same
    have chars := congrArg String.toList same
    simp only [String.toList_append] at chars
    obtain ⟨fronts, ends⟩ := List.append_inj' chars finishes
    obtain ⟨heads, middles⟩ := List.append_inj fronts starts
    exact ⟨String.toList_inj.mp heads, String.toList_inj.mp middles, String.toList_inj.mp ends⟩
  · rintro ⟨rfl, rfl, rfl⟩
    rfl

/-! ### The action, the actor and the metadata -/

theorem toList_actorText (actorId : Option Uuid) :
    (actorText actorId).toList = (actorId.map Uuid.toChars).getD [] := by
  cases actorId with
  | none => rfl
  | some id => exact id.toList_text

theorem actorText_injective {left right : Option Uuid} (same : actorText left = actorText right) :
    left = right := by
  have chars := congrArg String.toList same
  rw [toList_actorText, toList_actorText] at chars
  cases left with
  | none =>
      cases right with
      | none => rfl
      | some id => exact absurd chars.symm id.toChars_ne_nil
  | some id =>
      cases right with
      | none => exact absurd chars id.toChars_ne_nil
      | some other => exact congrArg some (Uuid.toChars_injective chars)

theorem plain_digits (digits : List (Fin 16)) :
    ∀ char ∈ digits.map Hex.char, Json.opensEnclosed char = false := by
  have plain : ∀ digit : Fin 16, Json.opensEnclosed (Hex.char digit) = false := by decide
  intro char member
  obtain ⟨digit, -, rfl⟩ := List.mem_map.mp member
  exact plain digit

theorem hyphen_not_mem_digits (digits : List (Fin 16)) : '-' ∉ digits.map Hex.char := by
  intro member
  obtain ⟨digit, -, same⟩ := List.mem_map.mp member
  exact Hex.char_ne_hyphen digit same

theorem front_of_hyphen {front tail start rest : List Char} (without : '-' ∉ start)
    (same : front ++ '-' :: tail = start ++ rest) :
    ∃ middle, front = start ++ middle ∧ rest = middle ++ '-' :: tail := by
  rcases List.append_eq_append_iff.mp same with ⟨more, longer, split⟩ | found
  · cases more with
    | nil => exact ⟨[], by rw [longer]; simp, split.symm⟩
    | cons first more =>
        cases split
        rw [longer] at without
        exact absurd (List.mem_append_right front List.mem_cons_self) without
  · exact found

theorem false_of_value_with_actor {start chars : List Char} {id : Uuid}
    (closed : ∀ char ∈ start, Json.opensValue char = false)
    (begins : Json.Begins (start ++ (id.toChars ++ chars))) : False := by
  obtain ⟨digits, rest, -, later, split⟩ := id.toChars_split
  rw [split, List.append_assoc, List.cons_append, ← List.append_assoc] at begins
  have several : 2 ≤ (rest ++ chars).count '-' := by
    rw [List.count_append]
    omega
  apply begins.false_of_hyphens several
  intro char member
  rcases List.mem_append.mp member with early | digit
  · exact Json.opensEnclosed_of_closed (closed char early)
  · exact plain_digits digits char digit

theorem false_of_actor_with_value {start chars otherChars : List Char} {id : Uuid}
    (without : '-' ∉ start) (begins : Json.Begins otherChars)
    (same : id.toChars ++ chars = start ++ otherChars) : False := by
  obtain ⟨digits, rest, -, later, split⟩ := id.toChars_split
  rw [split, List.append_assoc, List.cons_append] at same
  obtain ⟨middle, front, back⟩ := front_of_hyphen without same
  rw [back] at begins
  have several : 2 ≤ (rest ++ chars).count '-' := by
    rw [List.count_append]
    omega
  apply begins.false_of_hyphens several
  intro char member
  apply plain_digits digits
  rw [front]
  exact List.mem_append_right start member

theorem actors_apart {start chars otherChars : List Char} {id other : Uuid}
    (without : '-' ∉ start)
    (same : id.toChars ++ chars = start ++ (other.toChars ++ otherChars)) :
    start = [] ∧ id = other ∧ chars = otherChars := by
  -- Both identifiers have their first hyphen behind as many digits.
  have nothing : start = [] := by
    obtain ⟨digits, rest, count, -, split⟩ := id.toChars_split
    obtain ⟨otherDigits, otherRest, otherCount, -, otherSplit⟩ := other.toChars_split
    rw [split, otherSplit, List.append_assoc, List.cons_append, List.append_assoc,
      List.cons_append, ← List.append_assoc] at same
    have nowhere : '-' ∉ start ++ otherDigits.map Hex.char := by
      intro member
      rcases List.mem_append.mp member with early | digit
      · exact without early
      · exact hyphen_not_mem_digits otherDigits digit
    obtain ⟨middle, front, -⟩ := front_of_hyphen nowhere same
    have lengths := congrArg List.length front
    simp only [List.length_append, List.length_map, count, otherCount] at lengths
    apply List.eq_nil_of_length_eq_zero
    omega
  rw [nothing, List.nil_append] at same
  obtain ⟨ids, values⟩ := List.append_inj same (by rw [id.length_toChars, other.length_toChars])
  exact ⟨nothing, Uuid.toChars_injective ids, values⟩

theorem told_apart {start chars otherChars : List Char} {actorId otherActorId : Option Uuid}
    (closed : ∀ char ∈ start, Json.opensValue char = false)
    (begins : Json.Begins chars) (otherBegins : Json.Begins otherChars)
    (same : (actorText actorId).toList ++ chars =
      start ++ ((actorText otherActorId).toList ++ otherChars)) :
    start = [] ∧ actorId = otherActorId ∧ chars = otherChars := by
  have without : '-' ∉ start := by
    intro member
    cases closed '-' member
  rw [toList_actorText, toList_actorText] at same
  cases actorId with
  | none =>
      cases otherActorId with
      | none =>
          replace same : chars = start ++ otherChars := same
          rw [same] at begins
          have nothing := begins.eq_nil_of_append otherBegins closed
          rw [nothing] at same
          exact ⟨nothing, rfl, same⟩
      | some other =>
          replace same : chars = start ++ (other.toChars ++ otherChars) := same
          rw [same] at begins
          cases false_of_value_with_actor closed begins
  | some id =>
      cases otherActorId with
      | none => cases false_of_actor_with_value without otherBegins same
      | some other =>
          obtain ⟨nothing, ids, values⟩ := actors_apart without same
          exact ⟨nothing, congrArg some ids, values⟩

theorem longer_action_apart {action otherAction : String} {left chars otherChars : List Char}
    {actorId otherActorId : Option Uuid} (otherPlain : PlainAction otherAction)
    (begins : Json.Begins chars) (otherBegins : Json.Begins otherChars)
    (longer : otherAction.toList = action.toList ++ left)
    (told : (actorText actorId).toList ++ chars =
      left ++ ((actorText otherActorId).toList ++ otherChars)) :
    action = otherAction ∧ actorId = otherActorId ∧ chars = otherChars := by
  have closed : ∀ char ∈ left, Json.opensValue char = false := by
    intro char member
    apply otherPlain.2
    rw [longer]
    exact List.mem_append_right _ member
  obtain ⟨nothing, actors, values⟩ := told_apart closed begins otherBegins told
  rw [nothing, List.append_nil] at longer
  exact ⟨String.toList_inj.mp longer.symm, actors, values⟩

/-- Behind a plain action the text of actor and metadata begins where it seems to. -/
theorem actions_apart {action otherAction : String} {actorId otherActorId : Option Uuid}
    {chars otherChars : List Char} (plain : PlainAction action)
    (otherPlain : PlainAction otherAction)
    (begins : Json.Begins chars) (otherBegins : Json.Begins otherChars)
    (same : action.toList ++ ((actorText actorId).toList ++ chars) =
      otherAction.toList ++ ((actorText otherActorId).toList ++ otherChars)) :
    action = otherAction ∧ actorId = otherActorId ∧ chars = otherChars := by
  -- One action begins the other, and what is left of the longer one is closed.
  rcases List.append_eq_append_iff.mp same with ⟨left, longer, told⟩ | ⟨left, longer, told⟩
  · exact longer_action_apart otherPlain begins otherBegins longer told
  · obtain ⟨actions, actors, values⟩ :=
      longer_action_apart plain otherBegins begins longer told
    exact ⟨actions.symm, actors.symm, values.symm⟩

theorem PlainAction.ends {action : String} (plain : PlainAction action) (more : List Char) :
    Decimal.Ends (action.toList ++ more) := by
  cases chars : action.toList with
  | nil => exact absurd (String.toList_eq_nil_iff.mp chars) plain.1
  | cons first rest =>
      apply Decimal.ends_cons
      have closed := plain.2 first (chars ▸ List.mem_cons_self)
      simp only [Json.opensValue, Bool.or_eq_false_iff] at closed
      exact closed.1.1

theorem linkContent_inj {sequenceNumber otherNumber : Int} {action otherAction : String}
    {actorId otherActorId : Option Uuid} {json otherJson : Json}
    (plain : PlainAction action) (otherPlain : PlainAction otherAction)
    (same : linkContent sequenceNumber action actorId json.text =
      linkContent otherNumber otherAction otherActorId otherJson.text) :
    sequenceNumber = otherNumber ∧ action = otherAction ∧ actorId = otherActorId ∧
      json.text = otherJson.text := by
  have chars := congrArg String.toList same
  unfold linkContent at chars
  simp only [String.toList_append, List.append_assoc] at chars
  obtain ⟨number, back⟩ := Numeral.toString_apart (plain.ends _) (otherPlain.ends _) chars
  obtain ⟨actions, actors, values⟩ := actions_apart plain otherPlain json.begins_text
    otherJson.begins_text back
  exact ⟨number, actions, actors, String.toList_inj.mp values⟩

theorem PlainAction.append {action : String} (plain : PlainAction action) (more : String)
    (closed : ∀ char ∈ more.toList, Json.opensValue char = false) :
    PlainAction (action ++ more) := by
  constructor
  · intro empty
    have chars := congrArg String.toList empty
    rw [String.toList_append] at chars
    exact plain.1 (String.toList_eq_nil_iff.mp (List.append_eq_nil_iff.mp chars).1)
  · intro char member
    rw [String.toList_append] at member
    rcases List.mem_append.mp member with early | late
    · exact plain.2 char early
    · exact closed char late

theorem PlainAction.auditActionFor {entry : Entry} (plain : PlainAction entry.auditAction)
    (eventType : EventType) : PlainAction (entry.auditActionFor eventType) := by
  unfold Entry.auditActionFor
  cases eventType.stage? with
  | none => exact plain
  | some stage =>
      show PlainAction (entry.auditAction ++ "." ++ stage.name)
      rw [String.append_assoc]
      apply plain.append
      cases stage <;> simp [Stage.name, Json.opensValue, Json.opensEnclosed]

theorem plainAction_of_catalog {entry : Entry} (member : entry ∈ Catalog.entries)
    (eventType : EventType) : PlainAction (entry.auditActionFor eventType) := by
  have plain : ∀ entry ∈ Catalog.entries, PlainAction entry.auditAction := by
    simp [Catalog.entries, Catalog.workflowEntry, Catalog.operationalEntry, Entry.requiring,
      Entry.ofWorkflow, Entry.ofKind, PlainAction, Json.opensValue, Json.opensEnclosed]
  exact (plain entry member).auditActionFor eventType

end Chain

namespace Link

theorem text_eq_iff (left right : Link) :
    left.text = right.text ↔
      left.id = right.id ∧ left.content = right.content ∧
        left.previousHash = right.previousHash := by
  have starts : left.id.text.length = right.id.text.length := by
    rw [Uuid.length_text, Uuid.length_text]
  have finishes : left.previousHash.length = right.previousHash.length := by
    rw [left.width, right.width]
  unfold text
  rw [Chain.linkText_eq, Chain.linkText_eq, Chain.append_inj_of_lengths starts finishes]
  constructor
  · rintro ⟨ids, contents, hashes⟩
    exact ⟨Uuid.text_injective ids, contents, hashes⟩
  · rintro ⟨ids, contents, hashes⟩
    exact ⟨congrArg Uuid.text ids, contents, hashes⟩

theorem eq_of_text {left right : Link} (plain : Chain.PlainAction left.action)
    (otherPlain : Chain.PlainAction right.action) (same : left.text = right.text) :
    left = right := by
  obtain ⟨ids, contents, hashes⟩ := (text_eq_iff left right).mp same
  obtain ⟨json, written⟩ := left.compact
  obtain ⟨otherJson, otherWritten⟩ := right.compact
  unfold content at contents
  rw [← written, ← otherWritten] at contents
  obtain ⟨numbers, actions, actors, values⟩ := Chain.linkContent_inj plain otherPlain contents
  rw [written, otherWritten] at values
  exact Link.ext ids numbers actions actors values hashes

/-- The text tells the identifier, the previous hash and the content between them, and of
plain actions, as are those of the standard catalog, it tells every part of the content. -/
theorem text_tells_parts (left right : Link) :
    (left.text = right.text ↔
      left.id = right.id ∧ left.content = right.content ∧
        left.previousHash = right.previousHash) ∧
      (Chain.PlainAction left.action → Chain.PlainAction right.action → left ≠ right →
        left.text ≠ right.text) ∧
      ∀ entry ∈ Catalog.entries, ∀ other ∈ Catalog.entries, ∀ eventType otherType,
        left.action = entry.auditActionFor eventType →
          right.action = other.auditActionFor otherType → left ≠ right →
            left.text ≠ right.text := by
  have apart : Chain.PlainAction left.action → Chain.PlainAction right.action → left ≠ right →
      left.text ≠ right.text :=
    fun plain otherPlain different same => different (eq_of_text plain otherPlain same)
  refine ⟨text_eq_iff left right, apart, ?_⟩
  intro entry member other otherMember eventType otherType named otherNamed
  apply apart
  · rw [named]
    exact Chain.plainAction_of_catalog member eventType
  · rw [otherNamed]
    exact Chain.plainAction_of_catalog otherMember otherType

theorem genesisHash_digits :
    ∀ char ∈ Chain.genesisHash.toList, (Hex.digit? char).isSome = true := by
  intro char member
  unfold Chain.genesisHash at member
  rw [String.toList_ofList] at member
  rw [List.eq_of_mem_replicate member]
  rfl

def first (action : String) (actorId : Option Uuid) : Link where
  id := Uuid.numbered 1
  sequenceNumber := 1
  action := action
  actorId := actorId
  metadataText := "null"
  previousHash := Chain.genesisHash
  compact := ⟨.null, rfl⟩
  width := rfl
  digits := genesisHash_digits

theorem text_tells_actor :
    (first "auth.login.attempted" (some (Uuid.numbered 2))).text ≠
      (first "auth.login.attempted" none).text := by
  have plain : Chain.PlainAction "auth.login.attempted" := by
    simp [Chain.PlainAction, Json.opensValue, Json.opensEnclosed]
  apply (text_tells_parts _ _).2.1 plain plain
  intro same
  cases congrArg actorId same

/-- An actor goes unnoticed into the action. -/
theorem text_hides_actor : ¬∀ left right : Link, left ≠ right → left.text ≠ right.text := by
  intro apart
  let actor := Uuid.numbered 2
  have different :
      first "auth.login.attempted" (some actor) ≠
        first ("auth.login.attempted" ++ actor.text) none := by
    intro same
    cases congrArg actorId same
  apply apart _ _ different
  apply (text_eq_iff _ _).mpr
  simp only [first, content, Chain.linkContent, Chain.actorText, Option.map_some,
    Option.map_none, Option.getD_some, Option.getD_none, String.append_empty,
    String.append_assoc, and_self]

end Link

end WorkflowBus
