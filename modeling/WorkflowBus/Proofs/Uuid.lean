/-
The text of identifiers.

An identifier's text has a fixed length and tells the identifier: the hyphens stand at
fixed places, and each of the digits is written with a character of its own.  It is read
back as the identifier, and so are its other forms in either letter case, and nothing else.
-/

import WorkflowBus.Proofs.Character
import WorkflowBus.Uuid

namespace WorkflowBus

theorem Hex.char_injective {left right : Fin 16} (same : char left = char right) :
    left = right := by
  revert left right
  decide

theorem Hex.char_ne_hyphen (digit : Fin 16) : char digit ≠ '-' := by
  revert digit
  decide

namespace Uuid

theorem hyphenate_injective (sizes : List Nat) {left right : List Char}
    (lengths : left.length = right.length)
    (same : hyphenate sizes left = hyphenate sizes right) : left = right := by
  induction sizes generalizing left right with
  | nil => exact same
  | cons size sizes ih =>
      cases sizes with
      | nil => exact same
      | cons next sizes =>
          have heads : (left.take size).length = (right.take size).length := by
            rw [List.length_take, List.length_take, lengths]
          obtain ⟨groups, rest⟩ := List.append_inj same heads
          have tails : left.drop size = right.drop size := by
            apply ih
            · rw [List.length_drop, List.length_drop, lengths]
            · exact (List.cons.inj rest).2
          rw [← List.take_append_drop size left, groups, tails, List.take_append_drop]

theorem length_toChars (id : Uuid) : id.toChars.length = 36 := by
  simp only [toChars, groupSizes, hyphenate, List.length_append, List.length_cons,
    List.length_take, List.length_drop, List.length_map, id.length_digits]
  omega

theorem toChars_ne_nil (id : Uuid) : id.toChars ≠ [] := by
  apply List.ne_nil_of_length_pos
  rw [length_toChars]
  decide

theorem toChars_injective {left right : Uuid} (same : left.toChars = right.toChars) :
    left = right := by
  have chars : left.digits.map Hex.char = right.digits.map Hex.char := by
    apply hyphenate_injective groupSizes _ same
    rw [List.length_map, List.length_map, left.length_digits, right.length_digits]
  have digits : left.digits = right.digits :=
    (List.map_inj_right fun _ _ => Hex.char_injective).mp chars
  cases left
  cases right
  cases digits
  rfl

theorem toList_text (id : Uuid) : id.text.toList = id.toChars :=
  String.toList_ofList

theorem length_text (id : Uuid) : id.text.length = 36 := by
  rw [← String.length_toList, toList_text, length_toChars]

theorem text_injective {left right : Uuid} (same : left.text = right.text) : left = right := by
  apply toChars_injective
  rw [← toList_text, ← toList_text, same]

theorem toChars_split (id : Uuid) :
    ∃ (digits : List (Fin 16)) (rest : List Char), digits.length = 8 ∧ 2 ≤ rest.count '-' ∧
      id.toChars = digits.map Hex.char ++ '-' :: rest := by
  refine ⟨id.digits.take 8, hyphenate [4, 4, 4, 12] ((id.digits.map Hex.char).drop 8), ?_, ?_, ?_⟩
  · rw [List.length_take, id.length_digits]
    rfl
  · simp only [hyphenate, List.count_append, List.count_cons_self]
    omega
  · rw [List.map_take]
    rfl

theorem groups?_cons_cons {size next : Nat} {sizes : List Nat} {chars : List Char}
    {digits : List (Fin 16)} :
    groups? (size :: next :: sizes) chars = some digits ↔
      ∃ found others further, Hex.run? size chars = some (found, '-' :: further) ∧
        groups? (next :: sizes) further = some others ∧ found ++ others = digits := by
  simp only [groups?, Option.bind_eq_bind, Option.bind_eq_some_iff]
  constructor
  · rintro ⟨⟨found, rest⟩, run, read⟩
    split at read
    · next further hyphen =>
        cases hyphen
        obtain ⟨others, later, same⟩ := Option.bind_eq_some_iff.mp read
        exact ⟨found, others, further, run, later, Option.some.inj same⟩
    · cases read
  · rintro ⟨found, others, further, run, later, rfl⟩
    refine ⟨(found, '-' :: further), run, ?_⟩
    simp only [later, Option.bind_some]
    rfl

theorem groups?_eq_some_iff {sizes : List Nat} {chars : List Char} {digits : List (Fin 16)} :
    groups? sizes chars = some digits ↔
      digits.length = sizes.sum ∧
        Casing.fold chars = hyphenate sizes (digits.map Hex.char) := by
  induction sizes generalizing chars digits with
  | nil =>
      cases chars with
      | nil =>
          constructor
          · rintro ⟨⟩
            exact ⟨rfl, rfl⟩
          · intro ⟨nothing, _same⟩
            rw [List.eq_nil_of_length_eq_zero nothing]
            rfl
      | cons head rest =>
          refine iff_of_false nofun ?_
          intro ⟨nothing, same⟩
          rw [List.eq_nil_of_length_eq_zero nothing] at same
          cases same
  | cons size sizes ih =>
      cases sizes with
      | nil =>
          rw [groups?, Option.bind_eq_bind, Option.bind_eq_some_iff, List.sum_singleton, hyphenate]
          constructor
          · rintro ⟨⟨found, rest⟩, run, read⟩
            obtain ⟨front, rfl, length, folded⟩ := Hex.run?_eq_some_iff.mp run
            cases rest with
            | nil =>
                cases read
                rw [List.append_nil]
                exact ⟨length, folded⟩
            | cons head rest => cases read
          · intro ⟨length, folded⟩
            exact ⟨(digits, []), Hex.run?_eq_some_iff.mpr
              ⟨chars, (List.append_nil chars).symm, length, folded⟩, rfl⟩
      | cons next sizes =>
          simp only [groups?_cons_cons, List.sum_cons, hyphenate]
          constructor
          · rintro ⟨found, others, further, run, later, rfl⟩
            obtain ⟨front, rfl, rfl, folded⟩ := Hex.run?_eq_some_iff.mp run
            obtain ⟨length, foldedLater⟩ := ih.mp later
            have sizes : (found.map Hex.char).length = found.length := List.length_map _
            refine ⟨by rw [List.length_append, length, List.sum_cons], ?_⟩
            rw [List.map_append, List.take_left' sizes, List.drop_left' sizes, ← folded,
              ← foldedLater]
            exact List.map_append
          · intro ⟨length, folded⟩
            obtain ⟨front, back, rfl, foldedFront, foldedBack⟩ := List.map_eq_append_iff.mp folded
            obtain ⟨hyphen, further, rfl, isHyphen, foldedFurther⟩ :=
              List.map_eq_cons_iff.mp foldedBack
            cases (Casing.toLower_eq_iff (by decide) (by decide)).mp isHyphen
            refine ⟨digits.take size, digits.drop size, further, ?_, ?_,
              List.take_append_drop size digits⟩
            · refine Hex.run?_eq_some_iff.mpr ⟨front, rfl, ?_, ?_⟩
              · rw [List.length_take, length]
                exact Nat.min_eq_left (Nat.le_add_right _ _)
              · rw [List.map_take]
                exact foldedFront
            · refine ih.mpr ⟨?_, ?_⟩
              · rw [List.length_drop, length, Nat.add_sub_cancel_left, List.sum_cons]
              · rw [List.map_drop]
                exact foldedFurther

/-! ### Spellings -/

/-- What an identifier is read from, in small letters: its digits alone, with hyphens between the
groups, and with hyphens in braces or after the name space. -/
def forms (id : Uuid) : List (List Char) :=
  [id.digits.map Hex.char, id.toChars, '\x7b' :: (id.toChars ++ ['\x7d']), urnStart ++ id.toChars]

/-- The characters are one of the forms of the identifier, in either letter case. -/
def Spells (chars : List Char) (id : Uuid) : Prop :=
  Casing.fold chars ∈ id.forms

theorem ofDigits?_eq_some_iff {digits : List (Fin 16)} {id : Uuid} :
    ofDigits? digits = some id ↔ id.digits = digits := by
  unfold ofDigits?
  constructor
  · intro read
    split at read
    · cases read
      rfl
    · cases read
  · rintro rfl
    exact dif_pos id.length_digits

theorem bind_ofDigits?_eq_some_iff {sizes : List Nat} (all : sizes.sum = 32) {chars : List Char}
    {id : Uuid} : (groups? sizes chars).bind ofDigits? = some id ↔
      Casing.fold chars = hyphenate sizes (id.digits.map Hex.char) := by
  rw [Option.bind_eq_some_iff]
  simp only [groups?_eq_some_iff, ofDigits?_eq_some_iff]
  constructor
  · rintro ⟨digits, ⟨_length, folded⟩, rfl⟩
    exact folded
  · intro folded
    exact ⟨id.digits, ⟨id.length_digits.trans all.symm, folded⟩, rfl⟩

theorem hyphenated?_eq_some_iff {chars : List Char} {id : Uuid} :
    hyphenated? chars = some id ↔ Casing.fold chars = id.toChars :=
  bind_ofDigits?_eq_some_iff rfl

theorem plain?_eq_some_iff {chars : List Char} {id : Uuid} :
    plain? chars = some id ↔ Casing.fold chars = id.digits.map Hex.char :=
  bind_ofDigits?_eq_some_iff rfl

theorem spells_iff {chars : List Char} {id : Uuid} :
    Spells chars id ↔
      Casing.fold chars = id.digits.map Hex.char ∨ Casing.fold chars = id.toChars ∨
        Casing.fold chars = '\x7b' :: (id.toChars ++ ['\x7d']) ∨
          Casing.fold chars = urnStart ++ id.toChars := by
  simp only [Spells, forms, List.mem_cons, List.not_mem_nil, or_false]

theorem spells_of_ofChars? {chars : List Char} {id : Uuid} (read : ofChars? chars = some id) :
    Spells chars id := by
  rw [spells_iff]
  unfold ofChars? at read
  split at read
  · exact Or.inl (plain?_eq_some_iff.mp read)
  split at read
  · exact Or.inr (Or.inl (hyphenated?_eq_some_iff.mp read))
  split at read
  · refine Or.inr (Or.inr (Or.inl ?_))
    split at read
    · next rest =>
        split at read
        · next closed =>
            have folded := hyphenated?_eq_some_iff.mp read
            rw [← List.dropLast_append_getLast? _ closed, Casing.fold_cons, Casing.fold_append,
              folded]
            rfl
        · cases read
    · cases read
  split at read
  · split at read
    · next named =>
        refine Or.inr (Or.inr (Or.inr ?_))
        have folded := hyphenated?_eq_some_iff.mp read
        have start : Casing.fold (chars.take 9) = urnStart := by
          rw [Casing.alike, beq_iff_eq] at named
          rw [named]
          decide
        rw [← List.take_append_drop 9 chars, Casing.fold_append, start, folded]
    · cases read
  · cases read

theorem ofChars?_of_spells {chars : List Char} {id : Uuid} (spells : Spells chars id) :
    ofChars? chars = some id := by
  have length := Casing.length_fold chars
  unfold ofChars?
  rcases spells_iff.mp spells with plain | hyphenated | braced | named
  · rw [plain, List.length_map, id.length_digits] at length
    rw [if_pos length.symm]
    exact plain?_eq_some_iff.mpr plain
  · rw [hyphenated, length_toChars] at length
    rw [if_neg (by omega), if_pos length.symm]
    exact hyphenated?_eq_some_iff.mpr hyphenated
  · rw [braced, List.length_cons, List.length_append, length_toChars, List.length_singleton]
      at length
    rw [if_neg (by omega), if_neg (by omega), if_pos length.symm]
    obtain ⟨opening, rest, rfl, isOpening, foldedRest⟩ := List.map_eq_cons_iff.mp braced
    obtain ⟨inner, last, rfl, foldedInner, foldedLast⟩ := List.map_eq_append_iff.mp foldedRest
    obtain ⟨closing, none, rfl, isClosing, nothing⟩ := List.map_eq_cons_iff.mp foldedLast
    cases List.map_eq_nil_iff.mp nothing
    cases (Casing.toLower_eq_iff (by decide) (by decide)).mp isOpening
    cases (Casing.toLower_eq_iff (by decide) (by decide)).mp isClosing
    simp only [List.getLast?_concat, List.dropLast_concat, if_true]
    exact hyphenated?_eq_some_iff.mpr foldedInner
  · have short : urnStart.length = 9 := by decide
    rw [named, List.length_append, length_toChars, short] at length
    rw [if_neg (by omega), if_neg (by omega), if_neg (by omega), if_pos length.symm]
    obtain ⟨start, inner, rfl, foldedStart, foldedInner⟩ := List.map_eq_append_iff.mp named
    have nine : start.length = 9 := by
      rw [← short, ← foldedStart, List.length_map]
    have alike : Casing.alike start urnStart = true := by
      rw [Casing.alike, beq_iff_eq]
      exact foldedStart.trans (by decide)
    rw [List.take_left' nine, List.drop_left' nine, if_pos alike]
    exact hyphenated?_eq_some_iff.mpr foldedInner

/-- An identifier is read from its forms, in either letter case, and from nothing else. -/
theorem ofChars?_eq_some_iff {chars : List Char} {id : Uuid} :
    ofChars? chars = some id ↔ Spells chars id :=
  ⟨spells_of_ofChars?, ofChars?_of_spells⟩

theorem fold_hyphenate (sizes : List Nat) (chars : List Char) :
    Casing.fold (hyphenate sizes chars) = hyphenate sizes (Casing.fold chars) := by
  induction sizes generalizing chars with
  | nil => rfl
  | cons size sizes ih =>
      cases sizes with
      | nil => rfl
      | cons next sizes =>
          simp only [hyphenate, Casing.fold_append, Casing.fold_cons, ih]
          simp only [Casing.fold, List.map_take, List.map_drop]
          rfl

theorem spells_toChars (id : Uuid) : Spells id.toChars id := by
  rw [spells_iff, toChars, fold_hyphenate, Hex.fold_map_char]
  exact Or.inr (Or.inl rfl)

theorem ofText?_text (id : Uuid) : ofText? id.text = some id := by
  rw [ofText?, toList_text]
  exact ofChars?_of_spells id.spells_toChars

@[simp] theorem ofJson?_toJson (id : Uuid) : ofJson? id.toJson = some id :=
  ofText?_text id

/-- The characters are the digits of the identifier in small letters, in groups of eight, four,
four, four and twelve with a hyphen between two groups. -/
def Hyphenated (id : Uuid) (chars : List Char) : Prop :=
  ∃ groups : List (List (Fin 16)), groups.flatten = id.digits ∧
    groups.map List.length = [8, 4, 4, 4, 12] ∧
      chars = List.intercalate ['-'] (groups.map fun digits => digits.map Hex.char)

theorem take_drop_append_drop (digits : List (Fin 16)) (start count : Nat) :
    (digits.drop start).take count ++ digits.drop (start + count) = digits.drop start := by
  rw [← List.drop_drop, List.take_append_drop]

theorem hyphenated_toChars (id : Uuid) : id.Hyphenated id.toChars := by
  refine ⟨[id.digits.take 8, (id.digits.drop 8).take 4, (id.digits.drop 12).take 4,
    (id.digits.drop 16).take 4, id.digits.drop 20], ?_, ?_, ?_⟩
  · simp only [List.flatten_cons, List.flatten_nil, List.append_nil,
      take_drop_append_drop id.digits 16 4, take_drop_append_drop id.digits 12 4,
      take_drop_append_drop id.digits 8 4, List.take_append_drop]
  · simp only [List.map_cons, List.map_nil, List.length_take, List.length_drop, id.length_digits]
    rfl
  · simp only [toChars, groupSizes, hyphenate, List.map_cons, List.map_nil, List.map_take,
      List.map_drop, List.drop_drop, List.intercalate, List.intersperse, List.flatten_cons,
      List.flatten_nil, List.append_nil, List.cons_append, List.nil_append]

end Uuid
end WorkflowBus
