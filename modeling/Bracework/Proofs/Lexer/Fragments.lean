import Bracework.Proofs.Text.Trimmed
import Bracework.Tag.Basic

/-!
# Fragments of a template

A fragment lies within another when the other is something, the fragment, and something more,
and the offsets of the two differ by the bytes of what stands in front. Every cut that the
reading of tags makes gives a fragment within the one it was cut from, so a fragment of a tag can
be found again in the template by its offset and its length.
-/

namespace Bracework

namespace Text

/-- A text that is not empty has at least one byte. -/
theorem byteLength_pos {text : Text} (nonempty : text ≠ []) : 0 < text.byteLength := by
  cases text with
  | nil => exact absurd rfl nonempty
  | cons first rest =>
    have wide := first.utf8Size_pos
    rw [byteLength_cons]
    omega

/-- Repeating a character of one byte gives as many bytes. -/
theorem byteLength_replicate {character : Char} (narrow : character.utf8Size = 1) (count : Nat) :
    byteLength (List.replicate count character) = count := by
  induction count with
  | zero => rfl
  | succ count induction =>
    rw [List.replicate_succ, byteLength_cons, induction, narrow, Nat.add_comm]

/-- Cutting a text after the bytes of its first part gives the two parts. -/
theorem splitAtByte?_append (left right : Text) :
    splitAtByte? left.byteLength (left ++ right) = some (left, right) := by
  induction left with
  | nil =>
    cases right <;> rfl
  | cons first rest induction =>
    have wide := first.utf8Size_pos
    obtain ⟨offset, total⟩ : ∃ offset, byteLength (first :: rest) = offset + 1 :=
      ⟨byteLength (first :: rest) - 1, by rw [byteLength_cons]; omega⟩
    have fits : first.utf8Size ≤ offset + 1 := by
      rw [← total, byteLength_cons]
      omega
    have remaining : offset + 1 - first.utf8Size = byteLength rest := by
      rw [← total, byteLength_cons]
      omega
    rw [total, List.cons_append, splitAtByte?, if_pos fits, remaining, induction]
    rfl

/-- A text is cut at an offset into two parts that make up the text, the first of them with as many
bytes as the offset says. -/
theorem splitAtByte?_eq_some_iff {offset : Nat} {text left right : Text} :
    splitAtByte? offset text = some (left, right) ↔
      text = left ++ right ∧ left.byteLength = offset := by
  constructor
  · intro cut
    fun_induction splitAtByte? offset text generalizing left right with
    | case1 text =>
      cases cut
      exact ⟨rfl, rfl⟩
    | case2 => cases cut
    | case3 offset first rest fits induction =>
      obtain ⟨⟨before, after⟩, inner, same⟩ := Option.map_eq_some_iff.1 cut
      cases same
      obtain ⟨rfl, size⟩ := induction inner
      refine ⟨rfl, ?_⟩
      rw [byteLength_cons, size]
      omega
    | case4 => cases cut
  · rintro ⟨rfl, rfl⟩
    exact splitAtByte?_append left right

/-- Where texts are cut after as many bytes, they are cut alike. -/
theorem append_inj_byteLength {left right before after : Text}
    (same : left ++ right = before ++ after) (size : left.byteLength = before.byteLength) :
    left = before ∧ right = after := by
  have here := splitAtByte?_append left right
  rw [same, size, splitAtByte?_append] at here
  exact ⟨(Prod.mk.inj (Option.some.inj here)).1.symm, (Prod.mk.inj (Option.some.inj here)).2.symm⟩

/-- Where a text is cut twice, the first part of the later cut goes on behind that of the earlier
one. -/
theorem append_of_byteLength_le {left right before after : Text}
    (same : left ++ right = before ++ after) (earlier : left.byteLength ≤ before.byteLength) :
    ∃ middle, before = left ++ middle ∧ right = middle ++ after := by
  rcases List.append_eq_append_iff.1 same with ⟨middle, rfl, rest⟩ | ⟨middle, rfl, rest⟩
  · exact ⟨middle, rfl, rest⟩
  · cases middle with
    | nil => exact ⟨[], by rw [List.append_nil, List.append_nil], rest.symm⟩
    | cons first middle =>
      have wide := byteLength_pos (List.cons_ne_nil first middle)
      rw [byteLength_append] at earlier
      omega

/-- The bytes of a part between two others are found behind the bytes of the first. -/
theorem slice?_append (before inside after : Text) :
    slice? before.byteLength (before.byteLength + inside.byteLength) (before ++ inside ++ after) =
      some inside := by
  have first : splitAtByte? before.byteLength (before ++ inside ++ after) =
      some (before, inside ++ after) := by
    rw [List.append_assoc]
    exact splitAtByte?_append before (inside ++ after)
  have second : splitAtByte? (before.byteLength + inside.byteLength - before.byteLength)
      (inside ++ after) = some (inside, after) := by
    rw [Nat.add_sub_cancel_left]
    exact splitAtByte?_append inside after
  simp only [slice?, first, Option.bind_eq_bind, Option.bind_some, second]
  rfl

end Text

namespace Located

/-- A fragment lies within another. -/
def Within (inner outer : Located) : Prop :=
  ∃ before after, outer.text = before ++ inner.text ++ after ∧
    inner.offset = outer.offset + Text.byteLength before

variable {inner middle outer : Located}

/-- A fragment of a fragment. -/
theorem Within.trans (first : inner.Within middle) (second : middle.Within outer) :
    inner.Within outer := by
  obtain ⟨before, after, whole, offset⟩ := first
  obtain ⟨front, back, outerWhole, outerOffset⟩ := second
  refine ⟨front ++ before, after ++ back, ?_, ?_⟩
  · rw [outerWhole, whole]
    simp only [List.append_assoc]
  · rw [offset, outerOffset, Text.byteLength_append, Nat.add_assoc]

/-- A fragment ends no later than what it lies within, and begins no earlier. -/
theorem Within.bounds (within : inner.Within outer) : outer.offset ≤ inner.offset ∧
    inner.offset + inner.text.byteLength ≤ outer.offset + outer.text.byteLength := by
  obtain ⟨before, after, whole, offset⟩ := within
  rw [whole, offset, Text.byteLength_append, Text.byteLength_append]
  constructor
  · exact Nat.le_add_right _ _
  · omega

/-- A fragment of a template is found in the template at its offset. -/
theorem Within.slice?_eq {template : Text} (within : inner.Within ⟨template, 0⟩) :
    Text.slice? inner.offset (inner.offset + inner.text.byteLength) template =
      some inner.text := by
  obtain ⟨before, after, whole, offset⟩ := within
  have start : inner.offset = Text.byteLength before := by
    rw [offset, Nat.zero_add]
  have source : template = before ++ inner.text ++ after := whole
  rw [start, source]
  exact Text.slice?_append before inner.text after

/-- What is left without blanks at the ends lies within what it was cut from. -/
theorem trim_within (located : Located) : located.trim.Within located := by
  obtain ⟨after, whole, -⟩ := Text.trimEnd_append isBlank (located.text.dropWhile isBlank)
  refine ⟨located.text.takeWhile isBlank, after, ?_, rfl⟩
  have trimmed : located.trim.text = Text.trimEnd isBlank (located.text.dropWhile isBlank) := rfl
  rw [trimmed, List.append_assoc, ← whole, List.takeWhile_append_dropWhile]

end Located

namespace AliasSplit

/-- A text that ends with a clause: the word `AS` between blanks, and behind it the run of letters
that ends the text. -/
structure EndsWithClause (text head gap word blanks name : Text) : Prop where
  whole : text = head ++ gap ++ word ++ blanks ++ name
  gap : gap ≠ [] ∧ ∀ character ∈ gap, isBlank character = true
  word : Text.sameWord word "as" = true
  blanks : blanks ≠ [] ∧ ∀ character ∈ blanks, isBlank character = true
  name : name ≠ [] ∧ name = (text.reverse.takeWhile isAsciiLetter).reverse

/-- A text is cut at the clause that ends it, or not at all. -/
theorem ofText_cases (text : Text) : ofText text = ⟨text, none, 0⟩ ∨
    ∃ head gap word blanks name, EndsWithClause text head gap word blanks name ∧
      ofText text = ⟨head, some name, Text.byteLength (head ++ gap ++ word ++ blanks)⟩ := by
  let name := text.reverse.takeWhile isAsciiLetter
  let beforeName := text.reverse.dropWhile isAsciiLetter
  let blanks := beforeName.takeWhile isBlank
  have cutName : name ++ beforeName = text.reverse := List.takeWhile_append_dropWhile
  have cutBlanks : blanks ++ beforeName.dropWhile isBlank = beforeName :=
    List.takeWhile_append_dropWhile
  have taken {keep : Char → Bool} (list : Text)
      (dropped : (list.dropWhile keep).length ≠ list.length) : list.takeWhile keep ≠ [] := by
    intro none
    refine dropped (congrArg List.length ?_)
    rw [← List.nil_append (list.dropWhile keep), ← none, List.takeWhile_append_dropWhile]
  have blank (list : Text) : ∀ character ∈ list.takeWhile isBlank, isBlank character = true :=
    List.all_eq_true.1 List.all_takeWhile
  unfold ofText
  dsimp only
  split
  · exact Or.inl rfl
  · rename_i apart
    obtain ⟨named, spaced⟩ := not_or.1 apart
    split
    · rename_i second first beforeWord shape
      split
      · rename_i word
        let gap := beforeWord.takeWhile isBlank
        let head := beforeWord.dropWhile isBlank
        have cutGap : gap ++ head = beforeWord := List.takeWhile_append_dropWhile
        have before : beforeName.reverse =
            head.reverse ++ gap.reverse ++ [first, second] ++ blanks.reverse := by
          rw [← cutBlanks, shape, ← cutGap]
          simp only [List.reverse_append, List.reverse_cons, List.append_assoc, List.nil_append,
            List.cons_append]
        refine Or.inr ⟨head.reverse, gap.reverse, [first, second], blanks.reverse, name.reverse,
          ⟨?_, ⟨?_, ?_⟩, word.1, ⟨?_, ?_⟩, ?_, rfl⟩, ?_⟩
        · rw [← before, ← List.reverse_append, cutName, List.reverse_reverse]
        · exact List.reverse_ne_nil_iff.2 (taken beforeWord (Nat.ne_of_lt word.2))
        · exact fun character inside => blank beforeWord character (List.mem_reverse.1 inside)
        · exact List.reverse_ne_nil_iff.2 (taken beforeName spaced)
        · exact fun character inside => blank beforeName character (List.mem_reverse.1 inside)
        · exact List.reverse_ne_nil_iff.2 (taken text.reverse named)
        · rw [← before]
      · exact Or.inl rfl
    · exact Or.inl rfl

variable {text name : Text}

/-- The name that a clause binds is the run of letters at the end of the text. -/
theorem named_eq (found : (ofText text).name = some name) :
    name = (text.reverse.takeWhile isAsciiLetter).reverse := by
  rcases ofText_cases text with uncut | ⟨head, gap, word, blanks, bound, clause, cut⟩
  · rw [uncut] at found
    cases found
  · rw [cut] at found
    exact Option.some.inj found ▸ clause.name.2

/-- The name that a clause binds ends the text, and begins where the split says. -/
theorem name_within (offset : Nat) (found : (ofText text).name = some name) :
    (⟨name, offset + (ofText text).nameOffset⟩ : Located).Within ⟨text, offset⟩ := by
  rcases ofText_cases text with uncut | ⟨head, gap, word, blanks, bound, clause, cut⟩
  · rw [uncut] at found
    cases found
  · rw [cut] at found ⊢
    obtain rfl := Option.some.inj found
    exact ⟨head ++ gap ++ word ++ blanks, [], (List.append_nil _).symm ▸ clause.whole, rfl⟩

end AliasSplit

namespace Tag

variable {tag : Tag}

/-- A sigil is one byte wide. -/
theorem sigil_narrow {character : Char} {sigil : Sigil}
    (found : Sigil.ofChar? character = some sigil) : character.utf8Size = 1 := by
  unfold Sigil.ofChar? at found
  split at found
  · rfl
  · rfl
  · rfl
  · rfl
  · rfl
  · simp at found

/-- What follows a sigil lies within the body. -/
theorem afterSigil_within (marked : (TagParts.ofBody tag.body).sigil.isSome) :
    tag.afterSigil.Within tag.located := by
  cases body : tag.body with
  | nil => simp [body, TagParts.ofBody] at marked
  | cons first tail =>
    cases found : Sigil.ofChar? first with
    | none => simp [body, TagParts.ofBody, found] at marked
    | some sigil =>
      refine ⟨[first], [], ?_, ?_⟩
      · simp [located, afterSigil, body]
      · simp [located, afterSigil, sigil_narrow found]

/-- What follows the sigil and the keyword lies within the body. -/
theorem payload_within (tag : Tag) : tag.payload.Within tag.located := by
  simp only [payload, located]
  cases tag.body with
  | nil => exact ⟨[], [], rfl, rfl⟩
  | cons first tail =>
    cases found : Sigil.ofChar? first with
    | none => exact ⟨[], [], by simp [TagParts.ofBody, found], by
        simp [TagParts.ofBody, found, TagParts.restOffset]⟩
    | some sigil =>
      have narrow := sigil_narrow found
      by_cases keyword : tail.takeWhile isAsciiLetter ≠ [] ∧
          (tail.dropWhile isAsciiLetter).head?.all isBlank
      · have parts : TagParts.ofBody (first :: tail) =
            ⟨some sigil, some (tail.takeWhile isAsciiLetter), tail.dropWhile isAsciiLetter⟩ := by
          simp only [TagParts.ofBody, found, if_pos keyword]
        refine ⟨first :: tail.takeWhile isAsciiLetter, [], ?_, ?_⟩
        · rw [parts, List.append_nil, List.cons_append, List.takeWhile_append_dropWhile]
        · rw [parts, Text.byteLength_cons, narrow]
          rfl
      · have parts : TagParts.ofBody (first :: tail) = ⟨some sigil, none, tail⟩ := by
          simp only [TagParts.ofBody, found, if_neg keyword]
        refine ⟨[first], [], ?_, ?_⟩
        · rw [parts, List.append_nil]
          rfl
        · rw [parts, Text.byteLength_cons, narrow]
          rfl

/-- The body lies within the tag. -/
theorem located_within (tag : Tag) : tag.located.Within ⟨tag.raw, tag.start⟩ := by
  have opening : ('{' : Char).utf8Size = 1 := rfl
  refine ⟨List.replicate tag.braces '{', List.replicate tag.braces '}', rfl, ?_⟩
  rw [Text.byteLength_replicate opening]
  rfl

end Tag

end Bracework
