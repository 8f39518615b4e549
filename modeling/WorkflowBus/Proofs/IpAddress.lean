/-
Internet addresses that are written are read back.

The numbers of a version 4 address end at its points.  The groups of a version 6 address end
at its colons, and two colons stand for exactly the zero groups that were left out; a text
without points is not taken for one that ends in a version 4 address.
-/

import Mathlib
import WorkflowBus.IpAddress.Reading
import WorkflowBus.Proofs.Character
import WorkflowBus.Proofs.Decimal

namespace WorkflowBus

theorem taken_append {holds : Char → Bool} {front rest : List Char}
    (each : ∀ char ∈ front, holds char = true) (ends : ∀ first ∈ rest.head?, holds first = false) :
    (front ++ rest).takeWhile holds = front ∧ (front ++ rest).dropWhile holds = rest := by
  rw [List.takeWhile_append_of_pos each, List.dropWhile_append_of_pos each]
  cases rest with
  | nil => exact ⟨List.append_nil front, rfl⟩
  | cons first rest =>
      have closed : ¬holds first = true := Bool.eq_false_iff.mp (ends first rfl)
      rw [List.takeWhile_cons_of_neg closed, List.dropWhile_cons_of_neg closed]
      exact ⟨List.append_nil front, rfl⟩

namespace Ipv4

def byteChars (byte : UInt8) : List Char :=
  Nat.toDigits 10 byte.toNat

theorem byte?_byteChars (byte : UInt8) {rest : List Char} (ends : Decimal.Ends rest) :
    byte? (byteChars byte ++ rest) = some (byte, rest) := by
  have each : ∀ char ∈ Nat.toDigits 10 byte.toNat, char.isDigit = true :=
    fun char member => Decimal.isDigit_of_mem_toDigits member
  obtain ⟨digits, further⟩ := taken_append each ends
  have noZero : ¬((Nat.toDigits 10 byte.toNat).head? = some '0' ∧
      (Nat.toDigits 10 byte.toNat).length ≠ 1) := by
    rintro ⟨zero, several⟩
    rcases Nat.eq_zero_or_pos byte.toNat with none | positive
    · rw [none] at several
      exact several rfl
    · cases split : Nat.toDigits 10 byte.toNat with
      | nil => exact Nat.toDigits_ne_nil split
      | cons first others =>
          rw [split] at zero
          cases zero
          exact Decimal.head_toDigits_ne positive split
  have small : byte.toNat ≤ 255 := Nat.le_of_lt_succ byte.toNat_lt
  rw [byte?, byteChars, digits, further, if_neg noZero, Decimal.value?_toDigits]
  simp only [if_pos small, UInt8.ofNat_toNat]

theorem toList_toString_byte (byte : UInt8) :
    (toString byte.toNat).toList = byteChars byte :=
  Nat.toList_repr

theorem toList_text_append (address : Ipv4) (rest : List Char) :
    address.text.toList ++ rest =
      byteChars address.first ++ '.' :: (byteChars address.second ++ '.' ::
        (byteChars address.third ++ '.' :: (byteChars address.fourth ++ rest))) := by
  have point : ".".toList = ['.'] := rfl
  simp only [text, String.toList_append, toList_toString_byte, point, List.append_assoc,
    List.cons_append, List.nil_append]

theorem nextByte?_byteChars (byte : UInt8) {rest : List Char} (ends : Decimal.Ends rest) :
    nextByte? ('.' :: (byteChars byte ++ rest)) = some (byte, rest) :=
  byte?_byteChars byte ends

theorem read?_text (address : Ipv4) {rest : List Char} (ends : Decimal.Ends rest) :
    read? (address.text.toList ++ rest) = some (address, rest) := by
  have point (rest : List Char) : Decimal.Ends ('.' :: rest) := Decimal.ends_cons rfl
  rw [toList_text_append, read?]
  simp only [byte?_byteChars _ (point _), nextByte?_byteChars _ (point _),
    nextByte?_byteChars _ ends, Option.bind_eq_bind, Option.bind_some]
  rfl

theorem read?_cons_of_noDigit {first : Char} (noDigit : first.isDigit = false)
    (rest : List Char) : read? (first :: rest) = none := by
  have nothing : (first :: rest).takeWhile Char.isDigit = [] :=
    List.takeWhile_cons_of_neg (Bool.eq_false_iff.mp noDigit)
  have unread : byte? (first :: rest) = none := by
    rw [byte?, nothing]
    rfl
  rw [read?, unread]
  rfl

theorem read?_of_noPoint {chars : List Char} (noPoint : '.' ∉ chars) : read? chars = none := by
  have later : ∀ {byte : UInt8} {rest : List Char}, byte? chars = some (byte, rest) →
      nextByte? rest = none := by
    intro byte rest read
    have suffix : rest <:+ chars := by
      unfold byte? at read
      simp only at read
      split at read
      · cases read
      · split at read
        · split at read
          · cases read
            exact List.dropWhile_suffix _
          · cases read
        · cases read
    unfold nextByte?
    split
    · exact absurd (suffix.subset List.mem_cons_self) noPoint
    · rfl
  rw [read?]
  cases read : byte? chars with
  | none => rfl
  | some found =>
      obtain ⟨byte, rest⟩ := found
      simp only [Option.bind_eq_bind, Option.bind_some, later read]
      rfl

end Ipv4

/-! ### Groups of version 6 -/

namespace Ipv6

def GroupEnds (rest : List Char) : Prop :=
  ∀ first ∈ rest.head?, Hex.digit? first = none

theorem group?_ofWord (word : UInt16) {rest : List Char} (ends : GroupEnds rest) :
    group? (Hex.ofWord word ++ rest) = some (word, rest) := by
  obtain ⟨digits, written, same⟩ := Hex.toDigits_eq_map_char word.toNat
  have each : ∀ char ∈ digits.map Hex.char, (Hex.digit? char).isSome = true := by
    intro char member
    obtain ⟨digit, _, rfl⟩ := List.mem_map.mp member
    rw [Hex.digit?_char]
    rfl
  have closed : ∀ first ∈ rest.head?, (Hex.digit? first).isSome = false := by
    intro first present
    rw [ends first present]
    rfl
  have taken := taken_append each closed
  have values : (digits.map Hex.char).filterMap Hex.digit? = digits := by
    rw [List.filterMap_map]
    have each : Hex.digit? ∘ Hex.char = some := funext Hex.digit?_char
    rw [each, List.filterMap_some]
  have lengths : (Nat.toDigits 16 word.toNat).length = digits.length := by
    rw [written, List.length_map]
  have some : digits ≠ [] := by
    rintro rfl
    exact Nat.toDigits_ne_nil written
  have short : ¬(digits.isEmpty = true ∨ digits.length > 4) := by
    rw [List.isEmpty_iff, ← lengths]
    have fits : (Nat.toDigits 16 word.toNat).length ≤ 4 :=
      (Nat.length_toDigits_le_iff (by decide) (by decide)).mpr word.toNat_lt
    exact not_or.mpr ⟨some, Nat.not_lt.mpr fits⟩
  rw [group?, Hex.ofWord, written, taken.1, taken.2, values]
  simp only [if_neg short]
  show Option.some (UInt16.ofNat (Hex.number digits), rest) = _
  rw [same, UInt16.ofNat_toNat]

theorem groupEnds_nil : GroupEnds [] :=
  nofun

theorem groupEnds_colon (rest : List Char) : GroupEnds (':' :: rest) := by
  intro first present
  cases present
  rfl

theorem group?_colon (rest : List Char) : group? (':' :: rest) = none :=
  rfl

def behindColons (groups : List UInt16) : List Char :=
  groups.flatMap fun group => ':' :: Hex.ofWord group

theorem joined_cons (group : UInt16) (groups : List UInt16) :
    joined (group :: groups) = Hex.ofWord group ++ behindColons groups := by
  induction groups generalizing group with
  | nil => simp [joined, behindColons, List.intercalate]
  | cons next groups ih =>
      have later := ih next
      unfold joined behindColons at later ⊢
      rw [List.flatMap_cons, List.map_cons]
      simp only [List.map_cons, List.intercalate_cons_cons] at later ⊢
      rw [later, List.append_assoc]
      rfl

inductive Stops : List Char → Prop where
  | ends : Stops []
  | gap (rest : List Char) (noPoint : '.' ∉ rest) : Stops (':' :: ':' :: rest)

theorem hexChar_ne (digit : Fin 16) : Hex.char digit ≠ '.' ∧ Hex.char digit ≠ ':' := by
  revert digit
  decide

theorem point_not_mem_ofWord (word : UInt16) : '.' ∉ Hex.ofWord word := by
  obtain ⟨digits, written, _same⟩ := Hex.toDigits_eq_map_char word.toNat
  rw [Hex.ofWord, written]
  intro member
  obtain ⟨digit, _, same⟩ := List.mem_map.mp member
  exact (hexChar_ne digit).1 same

theorem ofWord_cons (word : UInt16) :
    ∃ first rest, Hex.ofWord word = first :: rest ∧ first ≠ ':' := by
  obtain ⟨digits, written, _same⟩ := Hex.toDigits_eq_map_char word.toNat
  rw [Hex.ofWord, written]
  cases digits with
  | nil => exact absurd written Nat.toDigits_ne_nil
  | cons digit digits => exact ⟨_, _, rfl, (hexChar_ne digit).2⟩

theorem Stops.noPoint {rest : List Char} (stops : Stops rest) : '.' ∉ rest := by
  cases stops with
  | ends => exact nofun
  | gap rest noPoint =>
      intro member
      simp only [List.mem_cons, noPoint, or_false] at member
      rcases member with same | same <;> cases same

theorem Stops.point_not_mem {rest : List Char} (stops : Stops rest) (group : UInt16)
    (groups : List UInt16) : '.' ∉ Hex.ofWord group ++ (behindColons groups ++ rest) := by
  intro member
  rcases List.mem_append.mp member with here | member
  · exact point_not_mem_ofWord group here
  · rcases List.mem_append.mp member with inside | later
    · obtain ⟨other, _, present⟩ := List.mem_flatMap.mp inside
      rcases List.mem_cons.mp present with same | digit
      · cases same
      · exact point_not_mem_ofWord other digit
    · exact stops.noPoint later

theorem Stops.noVersion4 {rest : List Char} (stops : Stops rest) (group : UInt16)
    (groups : List UInt16) :
    Ipv4.read? (Hex.ofWord group ++ (behindColons groups ++ rest)) = none :=
  Ipv4.read?_of_noPoint (stops.point_not_mem group groups)

theorem Stops.groupEnds {rest : List Char} (stops : Stops rest) (groups : List UInt16) :
    GroupEnds (behindColons groups ++ rest) := by
  cases groups with
  | nil =>
      cases stops with
      | ends => exact groupEnds_nil
      | gap rest _ => exact groupEnds_colon _
  | cons group groups => exact groupEnds_colon _

section Steps

variable {room : Nat} {isFirst : Bool} {chars rest : List Char}

theorem groups?_succ {group : UInt16} {further : List Char}
    (separated : afterSeparator? isFirst chars = some rest) (noVersion4 : Ipv4.read? rest = none)
    (read : group? rest = some (group, further)) :
    groups? (room + 1) isFirst chars =
      (group :: (groups? room false further).1, (groups? room false further).2) := by
  rw [groups?, separated]
  simp only [noVersion4, ite_self, read]

theorem groups?_of_noGroup (separated : afterSeparator? isFirst chars = some rest)
    (noVersion4 : Ipv4.read? rest = none) (noGroup : group? rest = none) :
    groups? (room + 1) isFirst chars = ([], false, chars) := by
  rw [groups?, separated]
  simp only [noVersion4, ite_self, noGroup]

theorem groups?_of_version4 {embedded : Ipv4} {further : List Char}
    (separated : afterSeparator? isFirst chars = some rest)
    (read : Ipv4.read? rest = some (embedded, further)) :
    groups? (room + 2) isFirst chars = (embedded.groups, true, further) := by
  rw [groups?, separated]
  simp only [if_neg (Nat.succ_ne_zero room), read]

end Steps

theorem groups?_colons (room : Nat) (isFirst : Bool) (rest : List Char) :
    groups? room isFirst (':' :: ':' :: rest) = ([], false, ':' :: ':' :: rest) := by
  have noVersion4 (rest : List Char) : Ipv4.read? (':' :: rest) = none :=
    Ipv4.read?_cons_of_noDigit rfl rest
  cases room with
  | zero => rfl
  | succ room =>
      cases isFirst with
      | true => exact groups?_of_noGroup rfl (noVersion4 _) (group?_colon _)
      | false => exact groups?_of_noGroup rfl (noVersion4 _) (group?_colon _)

theorem groups?_of_stops {rest : List Char} (stops : Stops rest) (room : Nat) (isFirst : Bool) :
    groups? room isFirst rest = ([], false, rest) := by
  cases stops with
  | gap rest => exact groups?_colons room isFirst rest
  | ends =>
      cases room with
      | zero => rfl
      | succ room =>
          cases isFirst with
          | true => exact groups?_of_noGroup rfl rfl rfl
          | false => rfl

theorem groups?_behindColons {groups : List UInt16} {rest : List Char} (stops : Stops rest)
    {room : Nat} (fits : groups.length ≤ room) :
    groups? room false (behindColons groups ++ rest) = (groups, false, rest) := by
  induction groups generalizing room with
  | nil => exact groups?_of_stops stops room false
  | cons group groups ih =>
      cases room with
      | zero => cases fits
      | succ room =>
          have read := group?_ofWord group (stops.groupEnds groups)
          have separated : afterSeparator? false (behindColons (group :: groups) ++ rest) =
              some (Hex.ofWord group ++ (behindColons groups ++ rest)) := by
            rw [behindColons, List.flatMap_cons, List.append_assoc]
            rfl
          rw [groups?_succ separated (stops.noVersion4 group groups) read,
            ih (Nat.le_of_succ_le_succ fits)]

theorem groups?_joined {groups : List UInt16} {rest : List Char} (stops : Stops rest)
    {room : Nat} (fits : groups.length ≤ room) :
    groups? room true (joined groups ++ rest) = (groups, false, rest) := by
  cases groups with
  | nil => exact groups?_of_stops stops room true
  | cons group groups =>
      cases room with
      | zero => cases fits
      | succ room =>
          have read := group?_ofWord group (stops.groupEnds groups)
          obtain ⟨first, others, split, noColon⟩ := ofWord_cons group
          have separated :
              afterSeparator? true (Hex.ofWord group ++ (behindColons groups ++ rest)) =
                some (Hex.ofWord group ++ (behindColons groups ++ rest)) := by
            rw [split, List.cons_append, afterSeparator?]
            · rfl
            · exact fun _ same => noColon (List.cons.inj same).1
          rw [joined_cons, List.append_assoc,
            groups?_succ separated (stops.noVersion4 group groups) read,
            groups?_behindColons stops (Nat.le_of_succ_le_succ fits)]

/-- A run of zero groups, which are as many as stand at its start. -/
def IsZeroRun (groups : List UInt16) (run : Nat × Nat) : Prop :=
  run.2 = 0 ∨ run.2 = zeroRun (groups.drop run.1)

theorem isZeroRun_longestZeroRun (groups : List UInt16) :
    IsZeroRun groups (longestZeroRun groups) := by
  unfold longestZeroRun
  generalize List.range groups.length = starts
  have kept (best : Nat × Nat) (isRun : IsZeroRun groups best) :
      IsZeroRun groups (starts.foldl
        (fun best start =>
          let length := zeroRun (groups.drop start)
          if best.2 < length then (start, length) else best)
        best) := by
    induction starts generalizing best with
    | nil => exact isRun
    | cons start starts ih =>
        apply ih
        show IsZeroRun groups (if _ then _ else _)
        split
        · exact Or.inr rfl
        · exact isRun
  exact kept (0, 0) (Or.inl rfl)

theorem takeWhile_zero (groups : List UInt16) :
    groups.takeWhile (· == 0) = List.replicate (zeroRun groups) 0 := by
  apply List.eq_replicate_of_mem
  intro group member
  have each : (groups.takeWhile (· == 0)).all (· == 0) = true := List.all_takeWhile
  exact beq_iff_eq.mp (List.all_eq_true.mp each group member)

theorem IsZeroRun.split {groups : List UInt16} {start length : Nat}
    (isRun : IsZeroRun groups (start, length)) :
    groups = groups.take start ++ List.replicate length 0 ++ groups.drop (start + length) := by
  have rest : groups.drop start = List.replicate length 0 ++ groups.drop (start + length) := by
    rcases isRun with none | run
    · replace none : length = 0 := none
      subst none
      rfl
    · replace run : length = zeroRun (groups.drop start) := run
      rw [run, ← takeWhile_zero, zeroRun, ← List.drop_drop]
      exact (List.prefix_iff_eq_append.mp (List.takeWhile_prefix _)).symm
  rw [List.append_assoc, ← rest, List.take_append_drop]

/-! ### Version 6 -/

theorem word_of_bytes (word : UInt16) :
    (word >>> 8).toUInt8.toUInt16 <<< 8 ||| word.toUInt8.toUInt16 = word := by
  apply UInt16.toNat_inj.mp
  have below := word.toNat_lt
  have high : word.toNat / 256 % 256 = word.toNat / 256 := Nat.mod_eq_of_lt (by omega)
  have joined := Nat.two_pow_add_eq_or_of_lt (Nat.mod_lt word.toNat (by decide : 0 < 2 ^ 8))
    (word.toNat / 256)
  have number : ((word >>> 8).toUInt8.toUInt16 <<< 8 ||| word.toUInt8.toUInt16).toNat =
      word.toNat / 256 % 256 * 256 % 65536 ||| word.toNat % 256 := by
    simp [Nat.shiftRight_eq_div_pow, Nat.shiftLeft_eq]
  rw [number, high, Nat.mod_eq_of_lt (by omega), Nat.mul_comm]
  exact joined.symm.trans (Nat.div_add_mod word.toNat 256)

theorem mapped?_eq_some {address : Ipv6} {embedded : Ipv4}
    (mapped : address.mapped? = some embedded) :
    address.groups = [] ++ List.replicate 5 0 ++ (0xffff :: embedded.groups) := by
  unfold mapped? at mapped
  split at mapped
  · cases mapped
    rw [‹address.groups = _›, Ipv4.groups, word_of_bytes, word_of_bytes]
    rfl
  · cases mapped

theorem ofGroups?_groups (address : Ipv6) : ofGroups? address.groups = some address :=
  dif_pos address.length_groups

/-- A text in which groups were left out, when it goes on behind the gap with groups. -/
theorem read?_gap {address : Ipv6} {head tail : List UInt16} {gap : Nat} {chars further : List Char}
    {embedded : Bool}
    (read : groups? 8 true chars = (head, false, ':' :: ':' :: further))
    (readTail : groups? (7 - head.length) true further = (tail, embedded, []))
    (split : address.groups = head ++ List.replicate gap 0 ++ tail) (some : 0 < gap) :
    read? chars = Option.some (address, []) := by
  have lengths := address.length_groups
  rw [split, List.length_append, List.length_append, List.length_replicate] at lengths
  have width : 8 - head.length - tail.length = gap := by omega
  rw [read?, read]
  simp only [if_neg (show ¬head.length = 8 by omega), Bool.false_eq_true, if_false, readTail, width]
  rw [← split, ofGroups?_groups]
  rfl

theorem groups?_mapped (embedded : Ipv4) :
    groups? 7 true (Hex.ofWord 0xffff ++ ':' :: embedded.text.toList) =
      (0xffff :: embedded.groups, true, []) := by
  have first := group?_ofWord 0xffff (groupEnds_colon embedded.text.toList)
  have last := Ipv4.read?_text embedded Decimal.ends_nil
  rw [List.append_nil] at last
  rw [groups?_succ rfl (Ipv4.read?_cons_of_noDigit rfl _) first, groups?_of_version4 rfl last]

theorem point_not_mem_joined (groups : List UInt16) : '.' ∉ joined groups := by
  cases groups with
  | nil => exact nofun
  | cons group groups =>
      have absent := Stops.ends.point_not_mem group groups
      rw [List.append_nil] at absent
      rw [joined_cons]
      exact absent

/-- The ways of writing an address. -/
inductive Written (address : Ipv6) : List Char → Prop where
  | mapped (embedded : Ipv4)
      (split : address.groups = [] ++ List.replicate 5 0 ++ (0xffff :: embedded.groups)) :
      Written address (':' :: ':' :: (Hex.ofWord 0xffff ++ ':' :: embedded.text.toList))
  | whole : Written address (joined address.groups)
  | gap (head tail : List UInt16) (length : Nat) (some : 0 < length)
      (split : address.groups = head ++ List.replicate length 0 ++ tail) :
      Written address (joined head ++ ':' :: ':' :: joined tail)

theorem written_text (address : Ipv6) : Written address address.text.toList := by
  unfold text
  cases mapped : address.mapped? with
  | some embedded =>
      have chars : ("::ffff:" ++ embedded.text).toList =
          ':' :: ':' :: (Hex.ofWord 0xffff ++ ':' :: embedded.text.toList) := by
        rw [String.toList_append]
        rfl
      rw [chars]
      exact .mapped embedded (mapped?_eq_some mapped)
  | none =>
      have isRun := isZeroRun_longestZeroRun address.groups
      generalize longestZeroRun address.groups = run at isRun
      obtain ⟨start, length⟩ := run
      by_cases short : length < 2
      · simp only [if_pos short, String.toList_ofList]
        exact .whole
      · simp only [if_neg short, String.toList_append, String.toList_ofList, List.append_assoc]
        exact .gap _ _ length (by omega) isRun.split

theorem Written.read?_eq {address : Ipv6} {chars : List Char} (written : Written address chars) :
    read? chars = some (address, []) := by
  have eight := address.length_groups
  cases written with
  | mapped embedded split =>
      exact read?_gap (groups?_colons 8 true _) (groups?_mapped embedded) split (by decide)
  | whole =>
      have all := groups?_joined Stops.ends (Nat.le_of_eq eight)
      rw [List.append_nil] at all
      rw [read?, all]
      simp only [eight, if_true, ofGroups?_groups]
      rfl
  | gap head tail length some split =>
      have lengths := congrArg List.length split
      rw [List.length_append, List.length_append, List.length_replicate, eight] at lengths
      have front := groups?_joined (Stops.gap _ (point_not_mem_joined tail))
        (show head.length ≤ 8 by omega)
      have behind := groups?_joined Stops.ends (show tail.length ≤ 7 - head.length by omega)
      rw [List.append_nil] at behind
      exact read?_gap front behind split some

theorem Written.noVersion4 {address : Ipv6} {chars : List Char}
    (written : Written address chars) : Ipv4.read? chars = none := by
  cases written with
  | mapped embedded split => exact Ipv4.read?_cons_of_noDigit rfl _
  | whole => exact Ipv4.read?_of_noPoint (point_not_mem_joined address.groups)
  | gap head tail length some split =>
      apply Ipv4.read?_of_noPoint
      intro member
      rcases List.mem_append.mp member with front | behind
      · exact point_not_mem_joined head front
      · exact (Stops.gap _ (point_not_mem_joined tail)).noPoint behind

end Ipv6

namespace IpAddress

theorem ofText?_text (address : IpAddress) : ofText? address.text = some address := by
  cases address with
  | v4 address =>
      have read := Ipv4.read?_text address Decimal.ends_nil
      rw [List.append_nil] at read
      rw [ofText?, read?, text, read]
  | v6 address =>
      have written := address.written_text
      rw [ofText?, read?, text, written.noVersion4, written.read?_eq]
      rfl

@[simp] theorem ofJson?_toJson (address : IpAddress) : ofJson? address.toJson = some address :=
  ofText?_text address

end IpAddress
end WorkflowBus
