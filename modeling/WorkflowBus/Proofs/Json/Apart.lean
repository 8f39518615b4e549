/-
What the compact text of a JSON value tells of the value: all of it.

Wherever a text of a value is followed by what no number goes on with, it tells the value and
what follows.  The first character of the text tells the kind of the value; quoted texts and
lists tell where they end, and numbers end where they do not go on.
-/

import Mathlib
import WorkflowBus.Proofs.Json.Text

namespace WorkflowBus
namespace Json

open Numeral (Closes closes_nil closes_cons)

/-- What is written for a value tells the value, and what stands behind it if that closes. -/
def Apart {α : Type} (written : α → List Char) (value : α) : Prop :=
  ∀ (other : α) {rest otherRest : List Char}, Closes rest → Closes otherRest →
    written value ++ rest = written other ++ otherRest → value = other ∧ rest = otherRest

def namedEscapes : List (Char × Char) :=
  [('"', '"'), ('\\', '\\'), ('\x08', 'b'), ('\x0c', 'f'), ('\n', 'n'), ('\r', 'r'), ('\t', 't')]

/-- The ways of writing a character in a quoted text. -/
inductive Escaped : Char → List Char → Prop where
  | plain {char : Char} (unquoted : char ≠ '"') (unescaped : char ≠ '\\') : Escaped char [char]
  | named {char name : Char} (listed : (char, name) ∈ namedEscapes) : Escaped char ['\\', name]
  | numbered {char : Char} (control : char.toNat < 0x20) :
      Escaped char
        ['\\', 'u', '0', '0', Nat.digitChar (char.toNat / 16), Nat.digitChar (char.toNat % 16)]

theorem escaped_escapedChar (char : Char) : Escaped char (escapedChar char) := by
  unfold escapedChar
  iterate 7
    split
    · subst char
      exact .named (by decide)
  split
  · exact .numbered ‹char.toNat < 0x20›
  · exact .plain ‹char ≠ '"'› ‹char ≠ '\\'›

theorem eq_of_namedEscapes :
    ∀ pair ∈ namedEscapes, ∀ other ∈ namedEscapes, pair.2 = other.2 → pair.1 = other.1 := by
  decide

theorem ne_of_namedEscapes : ∀ pair ∈ namedEscapes, pair.2 ≠ 'u' := by
  decide

theorem digitChar_inj : ∀ left < 16, ∀ right < 16,
    Nat.digitChar left = Nat.digitChar right → left = right := by
  decide

theorem eq_of_digitChars {left right : Char} (control : left.toNat < 0x20)
    (otherControl : right.toNat < 0x20)
    (highs : Nat.digitChar (left.toNat / 16) = Nat.digitChar (right.toNat / 16))
    (lows : Nat.digitChar (left.toNat % 16) = Nat.digitChar (right.toNat % 16)) :
    left = right := by
  have high := digitChar_inj _ (by omega) _ (by omega) highs
  have low := digitChar_inj _ (by omega) _ (by omega) lows
  have code : left.toNat = right.toNat := by omega
  exact Char.toNat_inj.mp code

theorem Escaped.apart {left right : Char} {chars otherChars rest otherRest : List Char}
    (escaped : Escaped left chars) (otherEscaped : Escaped right otherChars)
    (same : chars ++ rest = otherChars ++ otherRest) : left = right ∧ rest = otherRest := by
  cases escaped with
  | plain unquoted unescaped =>
      cases otherEscaped with
      | plain => exact List.cons.inj same
      | named => exact absurd (List.cons.inj same).1 unescaped
      | numbered => exact absurd (List.cons.inj same).1 unescaped
  | named listed =>
      cases otherEscaped with
      | plain unquoted unescaped => exact absurd (List.cons.inj same).1.symm unescaped
      | named otherListed =>
          obtain ⟨names, rests⟩ := List.cons.inj (List.cons.inj same).2
          exact ⟨eq_of_namedEscapes _ listed _ otherListed names, rests⟩
      | numbered =>
          exact absurd (List.cons.inj (List.cons.inj same).2).1 (ne_of_namedEscapes _ listed)
  | numbered control =>
      cases otherEscaped with
      | plain unquoted unescaped => exact absurd (List.cons.inj same).1.symm unescaped
      | named listed =>
          exact absurd (List.cons.inj (List.cons.inj same).2).1.symm (ne_of_namedEscapes _ listed)
      | numbered otherControl =>
          simp only [List.cons_append, List.nil_append, List.cons.injEq, true_and] at same
          obtain ⟨highs, lows, rests⟩ := same
          exact ⟨eq_of_digitChars control otherControl highs lows, rests⟩

theorem Escaped.ne_quote {char : Char} {chars rest otherRest : List Char}
    (escaped : Escaped char chars) : '"' :: rest ≠ chars ++ otherRest := by
  intro same
  cases escaped with
  | plain unquoted => exact unquoted (List.cons.inj same).1.symm
  | named => exact absurd (List.cons.inj same).1 (by decide)
  | numbered => exact absurd (List.cons.inj same).1 (by decide)

theorem escaped_apart {chars others rest otherRest : List Char}
    (same : chars.flatMap escapedChar ++ '"' :: rest =
      others.flatMap escapedChar ++ '"' :: otherRest) : chars = others ∧ rest = otherRest := by
  induction chars generalizing others with
  | nil =>
      cases others with
      | nil => exact ⟨rfl, (List.cons.inj same).2⟩
      | cons other others =>
          rw [List.flatMap_cons, List.append_assoc] at same
          exact absurd same (escaped_escapedChar other).ne_quote
  | cons char chars ih =>
      cases others with
      | nil =>
          rw [List.flatMap_cons, List.append_assoc] at same
          exact absurd same.symm (escaped_escapedChar char).ne_quote
      | cons other others =>
          rw [List.flatMap_cons, List.flatMap_cons, List.append_assoc, List.append_assoc] at same
          obtain ⟨rfl, later⟩ := (escaped_escapedChar char).apart (escaped_escapedChar other) same
          obtain ⟨rfl, rests⟩ := ih later
          exact ⟨rfl, rests⟩

theorem toList_quoted (text : String) :
    (quoted text).toList = '"' :: (text.toList.flatMap escapedChar ++ ['"']) := by
  unfold quoted
  simp only [String.toList_append, String.toList_ofList]
  rfl

theorem quoted_apart {text other : String} {rest otherRest : List Char}
    (same : (quoted text).toList ++ rest = (quoted other).toList ++ otherRest) :
    text = other ∧ rest = otherRest := by
  rw [toList_quoted, toList_quoted, List.cons_append, List.cons_append, List.append_assoc,
    List.append_assoc] at same
  obtain ⟨chars, rests⟩ := escaped_apart (List.cons.inj same).2
  exact ⟨String.toList_inj.mp chars, rests⟩

/-! ### Lists -/

section Lists

variable {α : Type} (written : α → List Char) (closing : Char)

/-- What stands behind an element of a list: further elements, the closing character, and
what comes after the list. -/
def behind : List α → List Char → List Char
  | [], more => closing :: more
  | next :: rest, more => ',' :: (written next ++ behind rest more)

def elements : List α → List Char → List Char
  | [], more => closing :: more
  | first :: rest, more => written first ++ behind written closing rest more

variable {written closing}

theorem closes_behind (closed : Numeral.goesOn closing = false) (rest : List α) (more : List Char) :
    Closes (behind written closing rest more) := by
  cases rest with
  | nil => exact closes_cons closed
  | cons next rest => exact closes_cons rfl

theorem behind_apart (closed : Numeral.goesOn closing = false) (noComma : closing ≠ ',')
    {rest others : List α} {more otherMore : List Char}
    (each : ∀ element ∈ rest, Apart written element)
    (same : behind written closing rest more = behind written closing others otherMore) :
    rest = others ∧ more = otherMore := by
  induction rest generalizing others with
  | nil =>
      cases others with
      | nil => exact ⟨rfl, (List.cons.inj same).2⟩
      | cons other others => exact absurd (List.cons.inj same).1 noComma
  | cons element rest ih =>
      cases others with
      | nil => exact absurd (List.cons.inj same).1.symm noComma
      | cons other others =>
          obtain ⟨first, later⟩ := List.forall_mem_cons.mp each
          obtain ⟨rfl, further⟩ := first other (closes_behind closed _ _)
            (closes_behind closed _ _) (List.cons.inj same).2
          obtain ⟨rfl, mores⟩ := ih later further
          exact ⟨rfl, mores⟩

theorem elements_apart (closed : Numeral.goesOn closing = false) (noComma : closing ≠ ',')
    (opens : ∀ (element : α) (rest more : List Char), closing :: more ≠ written element ++ rest)
    {values others : List α} {more otherMore : List Char}
    (each : ∀ element ∈ values, Apart written element)
    (same : elements written closing values more = elements written closing others otherMore) :
    values = others ∧ more = otherMore := by
  cases values with
  | nil =>
      cases others with
      | nil => exact ⟨rfl, (List.cons.inj same).2⟩
      | cons other others => exact absurd same (opens other _ more)
  | cons element rest =>
      cases others with
      | nil => exact absurd same.symm (opens element _ otherMore)
      | cons other others =>
          obtain ⟨first, later⟩ := List.forall_mem_cons.mp each
          obtain ⟨rfl, further⟩ := first other (closes_behind closed _ _)
            (closes_behind closed _ _) same
          obtain ⟨rfl, mores⟩ := behind_apart closed noComma later further
          exact ⟨rfl, mores⟩

end Lists

inductive Kind where
  | null
  | yes
  | no
  | number
  | text
  | list
  | object

def kind : Json → Kind
  | .null => .null
  | .bool true => .yes
  | .bool false => .no
  | .int _ | .float _ => .number
  | .str _ => .text
  | .arr _ => .list
  | .obj _ => .object

/-- The kind of the values whose texts a character opens. -/
def Kind.ofFirst? (first : Char) : Option Kind :=
  if first.isDigit then some .number
  else match first with
    | '-' => some .number
    | 'n' => some .null
    | 't' => some .yes
    | 'f' => some .no
    | '"' => some .text
    | '[' => some .list
    | '\x7b' => some .object
    | _ => none

def valueChars (json : Json) : List Char :=
  json.text.toList

theorem valueChars_of_numeral? {json : Json} {numeral : Numeral}
    (number : json.numeral? = some numeral) :
    ∃ first rest, json.valueChars = first :: rest ∧ Kind.ofFirst? first = some .number := by
  obtain ⟨first, rest, split, opens, _few⟩ := Numeral.chars_cons (written_of_numeral? number)
  refine ⟨first, rest, (toList_text_of_numeral? number).trans split, ?_⟩
  rcases opens with digit | rfl
  · exact if_pos digit
  · rfl

theorem valueChars_cons (json : Json) :
    ∃ first rest, json.valueChars = first :: rest ∧ Kind.ofFirst? first = some json.kind := by
  cases json with
  | null =>
      unfold valueChars text
      exact ⟨_, _, rfl, rfl⟩
  | bool value =>
      cases value with
      | true =>
          unfold valueChars text
          exact ⟨_, _, rfl, rfl⟩
      | false =>
          unfold valueChars text
          exact ⟨_, _, rfl, rfl⟩
  | int value => exact valueChars_of_numeral? rfl
  | float value => exact valueChars_of_numeral? rfl
  | str value =>
      unfold valueChars text
      rw [toList_quoted]
      exact ⟨_, _, rfl, rfl⟩
  | arr items =>
      unfold valueChars text
      rw [String.append_assoc, String.toList_append]
      exact ⟨'[', _, rfl, rfl⟩
  | obj members =>
      unfold valueChars text
      rw [String.append_assoc, String.toList_append]
      exact ⟨'\x7b', _, rfl, rfl⟩

theorem kind_eq {json other : Json} {rest otherRest : List Char}
    (same : json.valueChars ++ rest = other.valueChars ++ otherRest) :
    json.kind = other.kind := by
  obtain ⟨first, more, split, opens⟩ := json.valueChars_cons
  obtain ⟨otherFirst, otherMore, otherSplit, otherOpens⟩ := other.valueChars_cons
  rw [split, otherSplit] at same
  cases (List.cons.inj same).1
  exact Option.some.inj (opens.symm.trans otherOpens)

theorem ne_valueChars {closing : Char} (closed : Kind.ofFirst? closing = none) (json : Json)
    (rest more : List Char) : closing :: more ≠ json.valueChars ++ rest := by
  obtain ⟨first, chars, split, opens⟩ := json.valueChars_cons
  rw [split]
  intro same
  cases (List.cons.inj same).1
  cases closed.symm.trans opens

theorem toList_textOfItems (item : Json) (rest : List Json) (more : List Char) :
    (textOfItems (item :: rest)).toList ++ ']' :: more =
      item.valueChars ++ behind valueChars ']' rest more := by
  induction rest generalizing item with
  | nil =>
      rw [textOfItems, String.append_empty]
      rfl
  | cons next rest ih =>
      have comma : ",".toList = [','] := rfl
      rw [textOfItems, String.toList_append, String.toList_append, List.append_assoc,
        List.append_assoc, ih next, comma, List.singleton_append]
      rfl

theorem valueChars_arr (items : List Json) (more : List Char) :
    (Json.arr items).valueChars ++ more = '[' :: elements valueChars ']' items more := by
  have opening : "[".toList = ['['] := rfl
  have closing : "]".toList = [']'] := rfl
  rw [valueChars, text, String.toList_append, String.toList_append, List.append_assoc,
    List.append_assoc, opening, closing, List.singleton_append, List.singleton_append]
  cases items with
  | nil =>
      rw [textOfItems]
      rfl
  | cons item rest =>
      rw [toList_textOfItems]
      rfl

def textOfMember (member : String × Json) : String :=
  quoted member.1 ++ ":" ++ member.2.text

def memberChars (member : String × Json) : List Char :=
  (textOfMember member).toList

theorem memberChars_append (member : String × Json) (more : List Char) :
    memberChars member ++ more =
      (quoted member.1).toList ++ ':' :: (member.2.valueChars ++ more) := by
  rw [memberChars, textOfMember, String.toList_append, String.toList_append, List.append_assoc,
    List.append_assoc]
  rfl

theorem textOfMembers_cons (member next : String × Json) (rest : List (String × Json)) :
    textOfMembers (member :: next :: rest) =
      textOfMember member ++ ("," ++ textOfMembers (next :: rest)) := by
  rw [textOfMembers]
  rfl

theorem toList_textOfMembers (member : String × Json) (rest : List (String × Json))
    (more : List Char) :
    (textOfMembers (member :: rest)).toList ++ '\x7d' :: more =
      memberChars member ++ behind memberChars '\x7d' rest more := by
  induction rest generalizing member with
  | nil =>
      rw [textOfMembers, String.append_empty]
      rfl
  | cons next rest ih =>
      have comma : ",".toList = [','] := rfl
      rw [textOfMembers_cons, String.toList_append, String.toList_append, List.append_assoc,
        List.append_assoc, ih next, comma, List.singleton_append]
      rfl

theorem valueChars_obj (members : List (String × Json)) (more : List Char) :
    (Json.obj members).valueChars ++ more =
      '\x7b' :: elements memberChars '\x7d' members more := by
  have opening : "\x7b".toList = ['\x7b'] := rfl
  have closing : "\x7d".toList = ['\x7d'] := rfl
  rw [valueChars, text, String.toList_append, String.toList_append, List.append_assoc,
    List.append_assoc, opening, closing, List.singleton_append, List.singleton_append]
  cases members with
  | nil =>
      rw [textOfMembers]
      rfl
  | cons member rest =>
      rw [toList_textOfMembers]
      rfl

/-! ### Values -/

theorem memberChars_apart {member : String × Json} (value : Apart valueChars member.2) :
    Apart memberChars member := by
  intro other rest otherRest closes otherCloses same
  rw [memberChars_append, memberChars_append] at same
  obtain ⟨keys, later⟩ := quoted_apart same
  obtain ⟨values, rests⟩ := value other.2 closes otherCloses (List.cons.inj later).2
  exact ⟨Prod.ext keys values, rests⟩

theorem arr_apart {items : List Json} (each : ∀ item ∈ items, Apart valueChars item) :
    Apart valueChars (.arr items) := by
  intro other rest otherRest closes otherCloses same
  have kinds := kind_eq same
  cases other with
  | arr others =>
      rw [valueChars_arr, valueChars_arr] at same
      obtain ⟨rfl, rests⟩ := elements_apart rfl (by decide) (ne_valueChars rfl) each
        (List.cons.inj same).2
      exact ⟨rfl, rests⟩
  | bool value => cases value <;> cases kinds
  | _ => cases kinds

theorem obj_apart {members : List (String × Json)}
    (each : ∀ member ∈ members, Apart valueChars member.2) :
    Apart valueChars (.obj members) := by
  intro other rest otherRest closes otherCloses same
  have kinds := kind_eq same
  cases other with
  | obj others =>
      rw [valueChars_obj, valueChars_obj] at same
      have opens : ∀ (member : String × Json) (rest more : List Char),
          '\x7d' :: more ≠ memberChars member ++ rest := by
        intro member rest more same
        rw [memberChars_append, toList_quoted] at same
        exact absurd (List.cons.inj same).1 (by decide)
      have apart : ∀ member ∈ members, Apart memberChars member := by
        intro member present
        exact memberChars_apart (each member present)
      obtain ⟨rfl, rests⟩ := elements_apart rfl (by decide) opens apart (List.cons.inj same).2
      exact ⟨rfl, rests⟩
  | bool value => cases value <;> cases kinds
  | _ => cases kinds

theorem leaf_apart {json : Json} (only : ∀ other : Json, json.kind = other.kind → json = other) :
    Apart valueChars json := by
  intro other rest otherRest closes otherCloses same
  cases only other (kind_eq same)
  exact ⟨rfl, List.append_cancel_left same⟩

theorem bool_apart (value : Bool) : Apart valueChars (.bool value) := by
  apply leaf_apart
  intro other kinds
  cases other with
  | bool otherValue =>
      cases value <;> cases otherValue
      · rfl
      · cases kinds
      · cases kinds
      · rfl
  | _ => cases value <;> cases kinds

theorem exists_numeral? {json : Json} (kind : json.kind = .number) :
    ∃ numeral, json.numeral? = some numeral := by
  cases json with
  | int value => exact ⟨_, rfl⟩
  | float value => exact ⟨_, rfl⟩
  | bool value => cases value <;> cases kind
  | _ => cases kind

theorem number_apart {json : Json} {numeral : Numeral}
    (number : json.numeral? = some numeral) (kind : json.kind = .number) :
    Apart valueChars json := by
  intro other rest otherRest closes otherCloses same
  obtain ⟨otherNumeral, otherNumber⟩ := exists_numeral? ((kind_eq same).symm.trans kind)
  rw [valueChars, valueChars, toList_text_of_numeral? number,
    toList_text_of_numeral? otherNumber] at same
  obtain ⟨rfl, rests⟩ := Numeral.chars_apart (written_of_numeral? number)
    (written_of_numeral? otherNumber) closes otherCloses same
  exact ⟨numeral?_injective number otherNumber, rests⟩

theorem str_apart (value : String) : Apart valueChars (.str value) := by
  intro other rest otherRest closes otherCloses same
  have kinds := kind_eq same
  cases other with
  | str other =>
      rw [valueChars, valueChars, text, text] at same
      obtain ⟨rfl, rests⟩ := quoted_apart same
      exact ⟨rfl, rests⟩
  | bool value => cases value <;> cases kinds
  | _ => cases kinds

theorem value_apart : ∀ json : Json, Apart valueChars json
  | .null => by
      apply leaf_apart
      intro other kinds
      cases other with
      | null => rfl
      | bool value => cases value <;> cases kinds
      | _ => cases kinds
  | .bool value => bool_apart value
  | .int value => number_apart rfl rfl
  | .float value => number_apart rfl rfl
  | .str value => str_apart value
  | .arr items => arr_apart fun item _present => value_apart item
  | .obj members => obj_apart fun member present =>
      have smaller : sizeOf member.2 < 1 + sizeOf members := by
        have within := List.sizeOf_lt_of_mem present
        obtain ⟨key, value⟩ := member
        simp only [Prod.mk.sizeOf_spec] at within ⊢
        omega
      value_apart member.2

/-- No two values have one compact text. -/
theorem text_injective {json other : Json} (same : json.text = other.text) : json = other :=
  (value_apart json other closes_nil closes_nil
    (congrArg (fun text : String => text.toList ++ []) same)).1

end Json
end WorkflowBus
