import Bracework.Proofs.Expression.WrittenOperand
import Bracework.Proofs.Lexer.Fragments
import Mathlib.Data.Nat.Digits.Defs

/-!
# Number literals as they stand in a text

The numeral at a place of a text is the longest run of digits there, with a point and the longest
run behind it where a digit follows the point. There is one such numeral at every place.

A numeral that a name character follows is refused. Otherwise one without a point is its decimal
value, as long as that is below the limit of integers; zeros in front count for nothing, however
many there are. One with a point is always a number. Digits are characters of one byte, but what
follows them may be wider; a literal ends in front of it.
-/

namespace Bracework

namespace NumberLiteral

/-- The decimal value of digits, the first of them being worth most. -/
def decimalValue (digits : Text) : Nat :=
  Nat.ofDigits 10 (digits.reverse.map fun digit => digit.toNat - '0'.toNat)

/-- The value that a literal is given is the decimal value of its digits. -/
theorem valueOf_eq (digits : Text) : valueOf digits = decimalValue digits := by
  have fromRight (digits : Text) : valueOf digits.reverse =
      Nat.ofDigits 10 (digits.map fun digit => digit.toNat - '0'.toNat) := by
    induction digits with
    | nil => rfl
    | cons digit rest induction =>
      rw [valueOf, List.foldl_reverse] at induction
      rw [valueOf, List.foldl_reverse, List.foldr_cons, induction, List.map_cons,
        Nat.ofDigits_cons, Nat.add_comm]
  rw [← List.reverse_reverse digits, fromRight, decimalValue, List.reverse_reverse]

/-- Zeros in front of digits do not change their value. -/
theorem decimalValue_zeros (count : Nat) (digits : Text) :
    decimalValue (List.replicate count '0' ++ digits) = decimalValue digits := by
  unfold decimalValue
  rw [List.reverse_append, List.reverse_replicate, List.map_append, List.map_replicate]
  exact Nat.ofDigits_append_replicate_zero _

end NumberLiteral

/-- A run of digits, and perhaps a point and another run behind it. -/
structure Numeral where
  whole : Text
  fraction : Option Text
deriving DecidableEq, Repr

namespace Numeral

/-- A numeral as it is written. -/
def raw (numeral : Numeral) : Text :=
  match numeral.fraction with
  | none => numeral.whole
  | some digits => numeral.whole ++ '.' :: digits

/-- A numeral leads a text when the text begins with it and it is the longest one: both runs take
every digit, and no point that a digit follows is left behind a numeral without a point. -/
structure Leads (numeral : Numeral) (text rest : Text) : Prop where
  cut : text = numeral.raw ++ rest
  wholeDigits : ∀ digit ∈ numeral.whole, isDigit digit = true
  fractionDigits : ∀ digits ∈ numeral.fraction,
    digits ≠ [] ∧ ∀ digit ∈ digits, isDigit digit = true
  longest : ∀ next ∈ rest.head?, isDigit next = false
  pointless : numeral.fraction = none → ¬NumberLiteral.HasPoint rest

variable {text rest last whole digits behind : Text} {numeral other : Numeral}

/-- A point is no digit, so it ends a run. -/
theorem point_stops (behind : Text) : ∀ next ∈ ('.' :: behind).head?, isDigit next = false := by
  intro next found
  cases found
  rfl

/-- The whole part of the leading numeral is the longest run of digits, and what stands behind it
begins with the point, if there is one. -/
theorem Leads.span (leads : numeral.Leads text rest) :
    text.takeWhile isDigit = numeral.whole ∧
      text.dropWhile isDigit = match numeral.fraction with
        | none => rest
        | some digits => '.' :: (digits ++ rest) := by
  obtain ⟨whole, fraction⟩ := numeral
  rw [leads.cut]
  cases fraction with
  | none => exact Text.span_append leads.wholeDigits leads.longest
  | some digits =>
    rw [raw, List.append_assoc, List.cons_append]
    exact Text.span_append leads.wholeDigits (point_stops _)

/-- A point and a run of digits belong to a numeral. -/
theorem hasPoint (nonempty : digits ≠ []) (areDigits : ∀ digit ∈ digits, isDigit digit = true)
    (rest : Text) : NumberLiteral.HasPoint ('.' :: (digits ++ rest)) := by
  obtain ⟨digit, more, rfl⟩ := List.exists_cons_of_ne_nil nonempty
  exact ⟨digit, more ++ rest, rfl, areDigits digit (List.mem_cons_self ..)⟩

/-- No text is led by two numerals. -/
theorem Leads.unique (leads : numeral.Leads text rest) (again : other.Leads text last) :
    other = numeral ∧ last = rest := by
  obtain ⟨taken, left⟩ := leads.span
  obtain ⟨takenAgain, leftAgain⟩ := again.span
  obtain ⟨whole, fraction⟩ := numeral
  obtain ⟨otherWhole, otherFraction⟩ := other
  obtain rfl : whole = otherWhole := taken.symm.trans takenAgain
  rw [left] at leftAgain
  cases fraction with
  | none =>
    cases otherFraction with
    | none => exact ⟨rfl, leftAgain.symm⟩
    | some digits =>
      obtain ⟨nonempty, areDigits⟩ := again.fractionDigits digits rfl
      apply absurd (hasPoint nonempty areDigits last)
      rw [← show rest = '.' :: (digits ++ last) from leftAgain]
      exact leads.pointless rfl
  | some digits =>
    obtain ⟨nonempty, areDigits⟩ := leads.fractionDigits digits rfl
    cases otherFraction with
    | none =>
      apply absurd (hasPoint nonempty areDigits rest)
      rw [show '.' :: (digits ++ rest) = last from leftAgain]
      exact again.pointless rfl
    | some others =>
      obtain ⟨-, otherDigits⟩ := again.fractionDigits others rfl
      have same : digits ++ rest = others ++ last := (List.cons.inj leftAgain).2
      obtain ⟨first, behind⟩ := Text.span_append areDigits leads.longest
      obtain ⟨second, behindAgain⟩ := Text.span_append otherDigits again.longest
      rw [same, second] at first
      rw [same, behindAgain] at behind
      subst first
      exact ⟨rfl, behind⟩

/-- Every text is led by a numeral, though it may be empty. -/
theorem exists_leads (text : Text) : ∃ (numeral : Numeral) (rest : Text),
    numeral.Leads text rest := by
  let whole := text.takeWhile isDigit
  let after := text.dropWhile isDigit
  have whole_digits : ∀ digit ∈ whole, isDigit digit = true :=
    List.all_eq_true.1 List.all_takeWhile
  have cut : text = whole ++ after := List.takeWhile_append_dropWhile.symm
  have stops : ∀ next ∈ after.head?, isDigit next = false := Text.trimStart_stays isDigit text
  by_cases point : NumberLiteral.HasPoint after
  · obtain ⟨digits, rest, shape, nonempty, areDigits, longest⟩ := point.shape
    refine ⟨⟨whole, some digits⟩, rest, ?_, whole_digits, ?_, longest, ?_⟩
    · rw [cut, shape, raw, List.append_assoc, List.cons_append]
    · intro others same
      cases same
      exact ⟨nonempty, areDigits⟩
    · intro impossible
      cases impossible
  · refine ⟨⟨whole, none⟩, after, cut, whole_digits, ?_, stops, fun _ => point⟩
    intro digits impossible
    cases impossible

/-- What reading a numeral gives where a text follows it: a name character spoils any numeral, and
without a point the value has to be an integer of sixty-three bits. -/
def outcome (numeral : Numeral) (rest : Text) : Except NumberFault (NumberLiteral × Text) :=
  if rest.head?.any isNameChar then .error (.malformed numeral.raw)
  else match numeral.fraction with
    | none =>
      if NumberLiteral.decimalValue numeral.whole ≤ 2 ^ 63 - 1 then
        .ok (⟨numeral.raw, .integer (NumberLiteral.decimalValue numeral.whole)⟩, rest)
      else .error (.outOfRange numeral.raw)
    | some digits =>
      .ok (⟨numeral.raw, .decimal (Binary64.ofRatio
        (NumberLiteral.decimalValue (numeral.whole ++ digits)) (10 ^ digits.length))⟩, rest)

/-- Of a text that begins with a digit, the leading numeral is read. -/
theorem Leads.read_eq (leads : numeral.Leads text rest) (begins : text.head?.any isDigit = true) :
    NumberLiteral.read text = numeral.outcome rest := by
  obtain ⟨whole, fraction⟩ := numeral
  rw [leads.cut, outcome]
  cases fraction with
  | none =>
    have nonempty : whole ≠ [] := by
      rintro rfl
      cases found : rest.head? with
      | none => simp [leads.cut, raw, found] at begins
      | some next =>
        have stops := leads.longest next found
        simp [leads.cut, raw, found, stops] at begins
    have limit : NumberLiteral.integerLimit = 2 ^ 63 := rfl
    simp only [raw]
    rw [NumberLiteral.read_integer leads.wholeDigits leads.longest (leads.pointless rfl),
      NumberLiteral.valueOf_eq, limit]
    by_cases small : NumberLiteral.decimalValue whole ≤ 2 ^ 63 - 1
    · have fits : ¬(whole = [] ∨ 2 ^ 63 ≤ NumberLiteral.decimalValue whole) := by
        rintro (empty | large)
        · exact nonempty empty
        · omega
      rw [if_pos small, if_neg fits]
    · have large : 2 ^ 63 ≤ NumberLiteral.decimalValue whole := by omega
      rw [if_neg small, if_pos (Or.inr large)]
  | some digits =>
    obtain ⟨nonempty, areDigits⟩ := leads.fractionDigits digits rfl
    have written : whole ++ ".".toList ++ digits = whole ++ '.' :: digits := by
      rw [List.append_assoc]
      rfl
    simp only [raw, List.append_assoc, List.cons_append]
    rw [NumberLiteral.read_decimal leads.wholeDigits nonempty areDigits leads.longest,
      NumberLiteral.withPoint, NumberLiteral.valueOf_eq, written]
    rfl

end Numeral

namespace NumberLiteral

/-- At a digit in a text stands one numeral, the longest, and it is read or refused as a whole. It
is refused in front of a name character, and for its size exactly when it has no point and its
decimal value is larger than the largest integer. A literal that is read has the numeral as its
text, ends directly behind it and thus between two characters.

Proof: the reader takes the two runs with `takeWhile`, and a run that takes every digit is just
what `takeWhile` gives. -/
theorem read_at_digit {text before tail : Text} {start : Nat} {digit : Char}
    (stands : text.splitAtByte? start = some (before, digit :: tail))
    (isOne : isDigit digit = true) :
    ∃ (numeral : Numeral) (rest : Text), numeral.Leads (digit :: tail) rest ∧
      (∀ (other : Numeral) (last : Text), other.Leads (digit :: tail) last →
        other = numeral ∧ last = rest) ∧
      read (digit :: tail) = numeral.outcome rest ∧
      text.byteLength - rest.byteLength = start + numeral.raw.byteLength ∧
      text.splitAtByte? (start + numeral.raw.byteLength) = some (before ++ numeral.raw, rest) := by
  obtain ⟨rfl, rfl⟩ := Text.splitAtByte?_eq_some_iff.1 stands
  obtain ⟨numeral, rest, leads⟩ := Numeral.exists_leads (digit :: tail)
  have begins : (digit :: tail).head?.any isDigit = true := isOne
  refine ⟨numeral, rest, leads, fun other last again => leads.unique again, leads.read_eq begins,
    ?_, ?_⟩
  · rw [leads.cut, Text.byteLength_append, Text.byteLength_append]
    omega
  · rw [leads.cut, ← List.append_assoc, ← Text.byteLength_append]
    exact Text.splitAtByte?_append _ _

/-- The largest integer behind thirty zeros and in front of a wide character. -/
theorem read_at_digit_zeros :
    let before : Text := "é+"
    let tail : Text := List.replicate 29 '0' ++ "9223372036854775807→".toList
    let raw : Text := List.replicate 30 '0' ++ "9223372036854775807".toList
    let text := before ++ '0' :: tail
    text.splitAtByte? 3 = some (before, '0' :: tail) ∧ isDigit '0' = true ∧
      read ('0' :: tail) = .ok (⟨raw, .integer 9223372036854775807⟩, ['→']) ∧
      text.splitAtByte? 52 = some (before ++ raw, ['→']) := by
  intro before tail raw text
  have stands : text.splitAtByte? 3 = some (before, '0' :: tail) := by decide
  have leads : (⟨raw, none⟩ : Numeral).Leads ('0' :: tail) ['→'] := by
    refine ⟨by decide, List.all_eq_true.1 (by decide), ?_, ?_, ?_⟩
    · intro digits impossible
      cases impossible
    · rintro next ⟨⟩
      decide
    · rintro - ⟨digit, rest, shape, -⟩
      cases shape
  have value : decimalValue raw = 9223372036854775807 := by
    rw [decimalValue_zeros]
    decide
  obtain ⟨numeral, rest, -, unique, reads, -, ends⟩ := read_at_digit stands rfl
  obtain ⟨rfl, rfl⟩ := unique _ _ leads
  have plain : isNameChar '→' = false := by decide +kernel
  refine ⟨stands, rfl, ?_, ends⟩
  rw [reads, Numeral.outcome]
  simp [plain, value, Numeral.raw]

end NumberLiteral

end Bracework
