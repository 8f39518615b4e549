/-
How the text of a JSON value begins.

The text is one of three words, or its first character tells what it is: a digit or a
minus sign opens a number, and a quotation mark or a bracket opens all else.  More than one
hyphen stands behind the first character only of what is quoted or bracketed.
-/

import WorkflowBus.Json.Basic
import WorkflowBus.Proofs.Binary64

namespace WorkflowBus
namespace Json

def words : List (List Char) :=
  [['n', 'u', 'l', 'l'], ['t', 'r', 'u', 'e'], ['f', 'a', 'l', 's', 'e']]

def opensEnclosed (char : Char) : Bool :=
  char = '"' || char = '[' || char = '\x7b'

def opensValue (char : Char) : Bool :=
  char.isDigit || char = '-' || opensEnclosed char

inductive Begins : List Char → Prop where
  | word {chars : List Char} (member : chars ∈ words) : Begins chars
  | enclosed (first : Char) (rest : List Char) (opens : opensEnclosed first = true) :
      Begins (first :: rest)
  | number (first : Char) (rest : List Char) (opens : opensValue first = true)
      (few : rest.count '-' ≤ 1) : Begins (first :: rest)

def numeral? : Json → Option Numeral
  | .int value => some (.ofInt value)
  | .float value => some value.numeral
  | _ => none

theorem toList_text_of_numeral? {json : Json} {numeral : Numeral}
    (number : json.numeral? = some numeral) : json.text.toList = numeral.chars := by
  cases json with
  | int value =>
      cases number
      rw [text, Numeral.toList_toString]
  | float value =>
      cases number
      rw [text]
      exact String.toList_ofList
  | _ => cases number

theorem written_of_numeral? {json : Json} {numeral : Numeral}
    (number : json.numeral? = some numeral) : numeral.Written := by
  cases json with
  | int value =>
      cases number
      exact Numeral.written_ofInt value
  | float value =>
      cases number
      exact value.tells_numeral.written
  | _ => cases number

/-- No two numbers have one numeral: that of an integer has neither fraction nor exponent. -/
theorem numeral?_injective {json other : Json} {numeral : Numeral}
    (number : json.numeral? = some numeral) (otherNumber : other.numeral? = some numeral) :
    json = other := by
  have apart (value : Int) (float : Binary64) : Numeral.ofInt value ≠ float.numeral := by
    intro same
    have broken := float.tells_numeral.broken
    rw [← same] at broken
    cases broken
  cases json with
  | int value =>
      cases number
      cases other with
      | int other => rw [Numeral.ofInt_injective (Option.some.inj otherNumber)]
      | float other => exact absurd (Option.some.inj otherNumber).symm (apart value other)
      | _ => cases otherNumber
  | float value =>
      cases number
      cases other with
      | int other => exact absurd (Option.some.inj otherNumber) (apart other value)
      | float other => rw [Binary64.numeral_injective (Option.some.inj otherNumber)]
      | _ => cases otherNumber
  | _ => cases number

theorem begins_of_numeral? {json : Json} {numeral : Numeral}
    (number : json.numeral? = some numeral) : Begins json.text.toList := by
  obtain ⟨first, rest, split, opens, few⟩ := Numeral.chars_cons (written_of_numeral? number)
  rw [toList_text_of_numeral? number, split]
  refine .number first rest ?_ few
  unfold opensValue
  rcases opens with digit | rfl
  · rw [digit]
    rfl
  · rfl

theorem begins_append (start : String) (rest : String) (first : Char)
    (single : start.toList = [first]) (opens : opensEnclosed first = true) :
    Begins (start ++ rest).toList := by
  rw [String.toList_append, single]
  exact Begins.enclosed first rest.toList opens

theorem begins_text (json : Json) : Begins json.text.toList := by
  cases json with
  | null =>
      unfold text
      exact Begins.word (by decide)
  | bool value =>
      cases value with
      | true =>
          unfold text
          exact Begins.word (by decide)
      | false =>
          unfold text
          exact Begins.word (by decide)
  | int value => exact begins_of_numeral? rfl
  | float value => exact begins_of_numeral? rfl
  | str value =>
      unfold text quoted
      rw [String.append_assoc]
      exact begins_append "\"" _ '"' rfl rfl
  | arr items =>
      unfold text
      rw [String.append_assoc]
      exact begins_append "[" _ '[' rfl rfl
  | obj members =>
      unfold text
      rw [String.append_assoc]
      exact begins_append "\x7b" _ '\x7b' rfl rfl

theorem any_opensValue_of_words : ∀ word ∈ words, word.any opensValue = false := by
  decide

theorem opensValue_of_mem_word {word : List Char} (listed : word ∈ words) {char : Char}
    (member : char ∈ word) : opensValue char = false :=
  Bool.eq_false_iff.mpr (List.any_eq_false.mp (any_opensValue_of_words word listed) char member)

theorem eq_of_drop_of_words :
    ∀ word ∈ words, ∀ other ∈ words,
      other = word.drop (word.length - other.length) → other = word := by
  decide

theorem Begins.word_or_opens {chars : List Char} (begins : Begins chars) :
    chars ∈ words ∨ ∃ first rest, chars = first :: rest ∧ opensValue first = true := by
  cases begins with
  | word member => exact Or.inl member
  | enclosed first rest opens =>
      refine Or.inr ⟨first, rest, rfl, ?_⟩
      unfold opensValue
      rw [opens, Bool.or_true]
  | number first rest opens few => exact Or.inr ⟨first, rest, rfl, opens⟩

theorem opensEnclosed_of_closed {char : Char} (closed : opensValue char = false) :
    opensEnclosed char = false := by
  unfold opensValue at closed
  exact (Bool.or_eq_false_iff.mp closed).2

theorem Begins.opensEnclosed_of_count {first : Char} {rest : List Char}
    (begins : Begins (first :: rest)) (several : 2 ≤ rest.count '-') :
    opensEnclosed first = true := by
  cases begins with
  | word word =>
      have member : '-' ∈ rest := List.count_pos_iff.mp (Nat.lt_of_lt_of_le Nat.zero_lt_two several)
      have closed := opensValue_of_mem_word word (List.mem_cons_of_mem first member)
      cases closed
  | enclosed first rest opens => exact opens
  | number first rest opens few => exact absurd (Nat.le_trans several few) (by decide)

theorem Begins.false_of_hyphens {front rest : List Char} (begins : Begins (front ++ '-' :: rest))
    (later : 2 ≤ rest.count '-') (plain : ∀ char ∈ front, opensEnclosed char = false) : False := by
  cases front with
  | nil => cases begins.opensEnclosed_of_count later
  | cons first middle =>
      have behind : 2 ≤ (middle ++ '-' :: rest).count '-' := by
        rw [List.count_append, List.count_cons_self]
        omega
      have opens := begins.opensEnclosed_of_count behind
      rw [plain first List.mem_cons_self] at opens
      cases opens

theorem Begins.eq_nil_of_append {start chars : List Char} (whole : Begins (start ++ chars))
    (part : Begins chars) (closed : ∀ char ∈ start, opensValue char = false) : start = [] := by
  rcases whole.word_or_opens with word | ⟨first, rest, split, opens⟩
  · rcases part.word_or_opens with other | ⟨first, rest, rfl, opens⟩
    · have same := eq_of_drop_of_words _ word _ other
        (List.suffix_iff_eq_drop.mp (List.suffix_append start chars))
      exact List.self_eq_append_left.mp same
    · have member : first ∈ start ++ first :: rest :=
        List.mem_append_right start List.mem_cons_self
      rw [opensValue_of_mem_word word member] at opens
      cases opens
  · cases start with
    | nil => rfl
    | cons head tail =>
        cases split
        rw [closed first List.mem_cons_self] at opens
        cases opens

end Json
end WorkflowBus
