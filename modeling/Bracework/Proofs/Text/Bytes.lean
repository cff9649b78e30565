import Mathlib.Data.List.Forall2
import Bracework.Text.Utf8

/-!
# The bytes of a text

The UTF-8 form of a text puts the bytes of its characters one behind the other. A character of
ASCII is one byte, its number; all bytes of any other character lie above those. So where a byte of
ASCII stands in the UTF-8 form, its character stands in the text, and the bytes before it and
behind it are those of the two parts of the text around that character. This is why a search for
characters of ASCII may go through the bytes.

Reading the bytes of a text gives the text back.
-/

namespace Bracework

namespace Text

/-- The UTF-8 form of a text. -/
def bytes (text : Text) : List UInt8 := text.flatMap String.utf8EncodeChar

/-- An offset lies between two characters of a text, or at either end. -/
def IsBoundary (text : Text) (offset : Nat) : Prop :=
  ∃ before after, text = before ++ after ∧ offset = byteLength before

@[simp] theorem bytes_nil : bytes [] = [] := rfl

@[simp] theorem bytes_cons (first : Char) (rest : Text) :
    bytes (first :: rest) = String.utf8EncodeChar first ++ bytes rest := List.flatMap_cons ..

@[simp] theorem bytes_append (left right : Text) :
    bytes (left ++ right) = bytes left ++ bytes right := List.flatMap_append ..

/-- There are as many bytes as the length of the text in bytes says. -/
@[simp] theorem length_bytes (text : Text) : text.bytes.length = text.byteLength := by
  induction text with
  | nil => rfl
  | cons first rest induction =>
    rw [bytes_cons, List.length_append, induction, String.length_utf8EncodeChar, byteLength_cons]

/-- The numbers of the bytes of a character. The number of the character is cut into groups of six
bits from the right, and what is left stands in the first byte. -/
theorem toNat_encode (character : Char) :
    (String.utf8EncodeChar character).map UInt8.toNat =
      let number := character.toNat
      if number ≤ 127 then [number]
      else if number ≤ 2047 then [number / 64 + 192, number % 64 + 128]
      else if number ≤ 65535 then
        [number / 4096 + 224, number / 64 % 64 + 128, number % 64 + 128]
      else
        [number / 262144 + 240, number / 4096 % 64 + 128, number / 64 % 64 + 128,
          number % 64 + 128] := by
  have bound : character.toNat < 1114112 := by
    rcases character.valid with low | high
    · exact Nat.lt_trans low (by decide)
    · exact high.2
  rw [String.utf8EncodeChar]
  simp only [Char.toNat_val]
  generalize character.toNat = number at bound
  split
  · simp only [List.map_cons, List.map_nil, UInt8.toNat_ofNat', List.cons.injEq, and_true]
    omega
  · split
    · simp only [List.map_cons, List.map_nil, UInt8.toNat_ofNat', List.cons.injEq, and_true]
      omega
    · split
      · simp only [List.map_cons, List.map_nil, UInt8.toNat_ofNat', List.cons.injEq, and_true]
        omega
      · simp only [List.map_cons, List.map_nil, UInt8.toNat_ofNat', List.cons.injEq, and_true]
        omega

/-! ### Characters of ASCII -/

section Ascii

variable {mark : Char} {text : Text} {before after : List UInt8}

/-- The byte of a character of ASCII is its number. -/
theorem toNat_toUInt8 (ascii : mark.toNat < 128) : mark.toUInt8.toNat = mark.toNat :=
  UInt8.toNat_ofNat_of_lt' (Nat.lt_trans ascii (by decide))

/-- A character of ASCII is one byte. -/
theorem encode_ascii (ascii : mark.toNat < 128) :
    String.utf8EncodeChar mark = [mark.toUInt8] := by
  have small : mark.val.toNat ≤ 127 := Nat.le_of_lt_succ ascii
  rw [String.utf8EncodeChar, if_pos small]
  rfl

/-- All bytes of another character lie above those of ASCII. -/
theorem encode_other {character : Char} (other : ¬character.toNat < 128) :
    ∀ byte ∈ String.utf8EncodeChar character, 128 ≤ byte.toNat := by
  intro byte member
  have listed : byte.toNat ∈ (String.utf8EncodeChar character).map UInt8.toNat :=
    List.mem_map_of_mem member
  rw [toNat_encode] at listed
  simp only [show ¬character.toNat ≤ 127 by omega, if_false] at listed
  split at listed
  · simp only [List.mem_cons, List.not_mem_nil, or_false] at listed
    omega
  · split at listed
    · simp only [List.mem_cons, List.not_mem_nil, or_false] at listed
      omega
    · simp only [List.mem_cons, List.not_mem_nil, or_false] at listed
      omega

/-- The byte of a character of ASCII stands among the bytes of a character only if it is that
character. -/
theorem eq_of_mem_encode (ascii : mark.toNat < 128) {character : Char}
    (member : mark.toUInt8 ∈ String.utf8EncodeChar character) : character = mark := by
  by_cases other : character.toNat < 128
  · rw [encode_ascii other, List.mem_singleton] at member
    have same := congrArg UInt8.toNat member
    rw [toNat_toUInt8 ascii, toNat_toUInt8 other] at same
    rw [← Char.ofNat_toNat character, ← same, Char.ofNat_toNat]
  · have large := encode_other other _ member
    rw [toNat_toUInt8 ascii] at large
    omega

/-- Where the byte of a character of ASCII stands in the UTF-8 form of a text, the text is cut at
that character. -/
theorem cut_at_byte (ascii : mark.toNat < 128)
    (found : text.bytes = before ++ mark.toUInt8 :: after) :
    ∃ left right : Text, text = left ++ mark :: right ∧ left.bytes = before ∧
      right.bytes = after := by
  induction text generalizing before with
  | nil => simp at found
  | cons first rest induction =>
    rw [bytes_cons] at found
    rcases List.append_eq_append_iff.1 found with ⟨overlap, whole, later⟩ | ⟨overlap, whole, later⟩
    · obtain ⟨left, right, rfl, leftBytes, rightBytes⟩ := induction later
      refine ⟨first :: left, right, rfl, ?_, rightBytes⟩
      rw [bytes_cons, leftBytes, whole]
    · cases overlap with
      | nil =>
        have behind : bytes rest = [] ++ mark.toUInt8 :: after := later.symm
        obtain ⟨left, right, rfl, leftBytes, rightBytes⟩ := induction behind
        refine ⟨first :: left, right, rfl, ?_, rightBytes⟩
        rw [bytes_cons, leftBytes, whole, List.append_nil, List.append_nil]
      | cons byte overlap =>
        -- the byte is one of the first character, which is then a single byte
        obtain ⟨rfl, tail⟩ := List.cons.inj later
        have member : mark.toUInt8 ∈ String.utf8EncodeChar first := by
          rw [whole]
          exact List.mem_append_right _ (List.mem_cons_self ..)
        obtain rfl := eq_of_mem_encode ascii member
        rw [encode_ascii ascii] at whole
        obtain ⟨rfl, single⟩ : before = [] ∧ overlap = [] := by
          cases before with
          | nil => exact ⟨rfl, (List.cons.inj whole).2.symm⟩
          | cons other before => simp at whole
        refine ⟨[], rest, rfl, rfl, ?_⟩
        rw [tail, single]
        rfl

/-- A text whose UTF-8 form begins with a byte of ASCII so many times begins with its character as
often. -/
theorem cut_leading (ascii : mark.toNat < 128) (count : Nat)
    (found : text.bytes = List.replicate count mark.toUInt8 ++ after) :
    ∃ right : Text, text = List.replicate count mark ++ right ∧ right.bytes = after := by
  induction count generalizing text with
  | zero => exact ⟨text, rfl, found⟩
  | succ count induction =>
    have here : text.bytes = [] ++ mark.toUInt8 :: (List.replicate count mark.toUInt8 ++ after) := by
      rw [found, List.replicate_succ]
      rfl
    obtain ⟨left, right, rfl, leftBytes, rightBytes⟩ := cut_at_byte ascii here
    obtain ⟨tail, rfl, tailBytes⟩ := induction rightBytes
    have none : left = [] := by
      cases left with
      | nil => rfl
      | cons first left => simp [String.utf8EncodeChar_ne_nil] at leftBytes
    exact ⟨tail, by rw [none, List.replicate_succ]; rfl, tailBytes⟩

/-- The byte of a character of ASCII stands in the UTF-8 form of a text exactly when the character
stands in the text. -/
theorem mem_bytes_iff (ascii : mark.toNat < 128) :
    mark.toUInt8 ∈ text.bytes ↔ mark ∈ text := by
  constructor
  · intro member
    obtain ⟨character, inside, inCharacter⟩ := List.mem_flatMap.1 member
    exact eq_of_mem_encode ascii inCharacter ▸ inside
  · intro inside
    refine List.mem_flatMap.2 ⟨mark, inside, ?_⟩
    rw [encode_ascii ascii]
    exact List.mem_singleton_self _

/-- A character of ASCII so many times has its byte as often. -/
theorem bytes_replicate (ascii : mark.toNat < 128) (count : Nat) :
    bytes (List.replicate count mark) = List.replicate count mark.toUInt8 := by
  induction count with
  | zero => rfl
  | succ count induction =>
    rw [List.replicate_succ, bytes_cons, induction, encode_ascii ascii, List.replicate_succ]
    rfl

end Ascii

end Text

/-! ### Reading -/

namespace Utf8

/-- Bytes lie in the ranges given for them. -/
def Inside (ranges : List (Nat × Nat)) (bytes : List UInt8) : Prop :=
  List.Forall₂ (fun range byte => range.1 ≤ byte.toNat ∧ byte.toNat ≤ range.2) ranges bytes

/-- A number and the last six bits of each byte behind it. -/
def joined (value : Nat) (bytes : List UInt8) : Nat :=
  bytes.foldl (fun value byte => value * 64 + byte.toNat % 64) value

/-- Bytes in their ranges are all read, whatever follows them. -/
theorem follow_inside {ranges : List (Nat × Nat)} {bytes : List UInt8}
    (inside : Inside ranges bytes) (value : Nat) (rest : List UInt8) :
    follow value ranges (bytes ++ rest) = (some (Char.ofNat (joined value bytes)), rest) := by
  induction inside generalizing value with
  | nil => rfl
  | cons within _ induction =>
    rw [List.cons_append, follow, if_pos within, induction]
    rfl

/-- Where the ranges behind a first byte are met, a character is read. -/
theorem next_inside {first : UInt8} {bytes : List UInt8} {ranges : List (Nat × Nat)}
    (admitted : continuations first.toNat = some ranges) (inside : Inside ranges bytes)
    (rest : List UInt8) : next first (bytes ++ rest) =
      (some (Char.ofNat (joined (firstPart first.toNat bytes.length) bytes)), rest) := by
  have count : ranges.length = bytes.length := List.Forall₂.length_eq inside
  rw [next, admitted]
  exact count ▸ follow_inside inside _ rest

/-- What may follow the first of three bytes: the least characters are written shorter, and the
numbers kept for pairs of surrogates are no characters. -/
theorem continuations_three {first : Nat} (lower : 0xE0 ≤ first) (upper : first < 0xF0) :
    ∃ low high, continuations first = some [(low, high), (0x80, 0xBF)] ∧
      (low = 0x80 ∨ first = 0xE0 ∧ low = 0xA0) ∧ (high = 0xBF ∨ first = 0xED ∧ high = 0x9F) := by
  unfold continuations
  rw [if_neg (by omega), if_neg (by omega), if_neg (by omega)]
  by_cases least : first = 0xE0
  · rw [if_pos least]
    exact ⟨_, _, rfl, Or.inr ⟨least, rfl⟩, Or.inl rfl⟩
  · rw [if_neg least]
    by_cases surrogates : first = 0xED
    · rw [if_pos surrogates]
      exact ⟨_, _, rfl, Or.inl rfl, Or.inr ⟨surrogates, rfl⟩⟩
    · rw [if_neg surrogates, if_pos upper]
      exact ⟨_, _, rfl, Or.inl rfl, Or.inl rfl⟩

/-- What may follow the first of four bytes: the least characters are written shorter, and there is
a greatest one. -/
theorem continuations_four {first : Nat} (lower : 0xF0 ≤ first) (upper : first ≤ 0xF4) :
    ∃ low high, continuations first = some [(low, high), (0x80, 0xBF), (0x80, 0xBF)] ∧
      (low = 0x80 ∨ first = 0xF0 ∧ low = 0x90) ∧ (high = 0xBF ∨ first = 0xF4 ∧ high = 0x8F) := by
  unfold continuations
  rw [if_neg (by omega), if_neg (by omega), if_neg (by omega), if_neg (by omega),
    if_neg (by omega), if_neg (by omega)]
  by_cases least : first = 0xF0
  · rw [if_pos least]
    exact ⟨_, _, rfl, Or.inr ⟨least, rfl⟩, Or.inl rfl⟩
  · rw [if_neg least]
    by_cases greatest : first = 0xF4
    · rw [if_neg (by omega), if_pos greatest]
      exact ⟨_, _, rfl, Or.inl rfl, Or.inr ⟨greatest, rfl⟩⟩
    · rw [if_pos (by omega)]
      exact ⟨_, _, rfl, Or.inl rfl, Or.inl rfl⟩

/-- The bytes of a character are read as the character, whatever follows them.

The cases are the numbers of bytes that a character can have. -/
theorem next_encode {character : Char} {first : UInt8} {more : List UInt8}
    (encoded : String.utf8EncodeChar character = first :: more) (rest : List UInt8) :
    next first (more ++ rest) = (some character, rest) := by
  have numbers := Text.toNat_encode character
  have valid : character.toNat < 55296 ∨ 57343 < character.toNat ∧ character.toNat < 1114112 :=
    character.valid
  suffices read : ∃ ranges, continuations first.toNat = some ranges ∧ Inside ranges more ∧
      joined (firstPart first.toNat more.length) more = character.toNat by
    obtain ⟨ranges, admitted, inside, number⟩ := read
    rw [next_inside admitted inside, number, Char.ofNat_toNat]
  rw [encoded, List.map_cons] at numbers
  dsimp only at numbers
  generalize character.toNat = number at numbers valid
  split at numbers
  · obtain ⟨here, none⟩ := List.cons.inj numbers
    obtain rfl := List.map_eq_nil_iff.1 none
    exact ⟨[], by rw [continuations, if_pos (by omega)], .nil, here⟩
  · split at numbers
    · obtain ⟨here, others⟩ := List.cons.inj numbers
      obtain ⟨second, none, rfl, here2, others⟩ := List.map_eq_cons_iff.1 others
      obtain rfl := List.map_eq_nil_iff.1 others
      refine ⟨[(0x80, 0xBF)], ?_, .cons ⟨by omega, by omega⟩ .nil, ?_⟩
      · rw [continuations, if_neg (by omega), if_neg (by omega), if_pos (by omega)]
      · have kept : firstPart first.toNat 1 = first.toNat % 32 := rfl
        simp only [joined, List.length_cons, List.length_nil, Nat.zero_add, kept,
          List.foldl_cons, List.foldl_nil]
        omega
    · split at numbers
      · obtain ⟨here, others⟩ := List.cons.inj numbers
        obtain ⟨second, tail, rfl, here2, others⟩ := List.map_eq_cons_iff.1 others
        obtain ⟨third, none, rfl, here3, others⟩ := List.map_eq_cons_iff.1 others
        obtain rfl := List.map_eq_nil_iff.1 others
        have least : 0xE0 ≤ first.toNat := by omega
        obtain ⟨low, high, admitted, lower, upper⟩ := continuations_three least (by omega)
        refine ⟨_, admitted, .cons ⟨by omega, by omega⟩ (.cons ⟨by omega, by omega⟩ .nil), ?_⟩
        have kept : firstPart first.toNat 2 = first.toNat % 16 := rfl
        simp only [joined, List.length_cons, List.length_nil, Nat.zero_add, Nat.reduceAdd, kept,
          List.foldl_cons, List.foldl_nil]
        omega
      · obtain ⟨here, others⟩ := List.cons.inj numbers
        obtain ⟨second, tail, rfl, here2, others⟩ := List.map_eq_cons_iff.1 others
        obtain ⟨third, tail, rfl, here3, others⟩ := List.map_eq_cons_iff.1 others
        obtain ⟨fourth, none, rfl, here4, others⟩ := List.map_eq_cons_iff.1 others
        obtain rfl := List.map_eq_nil_iff.1 others
        have least : 0xF0 ≤ first.toNat := by omega
        obtain ⟨low, high, admitted, lower, upper⟩ := continuations_four least (by omega)
        refine ⟨_, admitted, .cons ⟨by omega, by omega⟩
          (.cons ⟨by omega, by omega⟩ (.cons ⟨by omega, by omega⟩ .nil)), ?_⟩
        have kept : firstPart first.toNat 3 = first.toNat % 8 := rfl
        simp only [joined, List.length_cons, List.length_nil, Nat.zero_add, Nat.reduceAdd, kept,
          List.foldl_cons, List.foldl_nil]
        omega

/-- The bytes of a text are read as the text. -/
theorem decode?_bytes (text : Text) : decode? text.bytes = some text := by
  have read : characters text.bytes = text.map some := by
    induction text with
    | nil => rw [Text.bytes_nil, characters]; rfl
    | cons character rest induction =>
      obtain ⟨first, more, encoded⟩ :=
        List.exists_cons_of_ne_nil (@String.utf8EncodeChar_ne_nil character)
      rw [Text.bytes_cons, encoded, List.cons_append, characters, next_encode encoded, induction]
      rfl
  rw [decode?, read, List.mapM_map]
  exact List.mapM_pure.trans (congrArg some (List.map_id' text))

end Utf8

end Bracework
