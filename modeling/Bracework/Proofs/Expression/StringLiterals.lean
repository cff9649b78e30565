import Bracework.Proofs.Expression.WrittenOperand
import Bracework.Proofs.Lexer.Fragments

/-!
# String literals as they stand in a text

A string literal ends at the first quote of its kind that no backslash takes up. A backslash that is
not taken up itself takes up the character behind it, whatever that is, so of several backslashes in
a row every second one is taken up.

Reading drops a backslash in front of a quote of the same kind and keeps any other; writing puts one
in front of each such quote. A quote inside a literal has been taken up, so the written form is the
text from the one quote to the other, character by character.
-/

namespace Bracework.StringLiteral

/-- Whether the character at an index of a body is taken up by the backslash in front of it: that
one must not be taken up itself. -/
def isTakenUp (body : Text) : Nat → Bool
  | 0 => false
  | index + 1 => body[index]? == some '\\' && !isTakenUp body index

/-- A literal ends at an index of its body where its quote stands, is not taken up, and every
earlier one is. -/
structure EndsAt (quote : Char) (body : Text) (index : Nat) : Prop where
  stands : body[index]? = some quote
  bare : isTakenUp body index = false
  first : ∀ earlier, earlier < index → body[earlier]? = some quote →
    isTakenUp body earlier = true

variable {quote first escaped : Char} {body rest : Text} {index : Nat}

/-! ### Bodies from their second character on -/

/-- Behind a character that is no backslash, what is taken up does not depend on that character. -/
theorem isTakenUp_plain (plain : first ≠ '\\') (rest : Text) (index : Nat) :
    isTakenUp (first :: rest) (index + 1) = isTakenUp rest index := by
  induction index with
  | zero => simp [isTakenUp, plain]
  | succ index induction =>
    rw [isTakenUp, induction, List.getElem?_cons_succ]
    rfl

/-- Behind a backslash and the character that it takes up, what is taken up does not depend on the
two. -/
theorem isTakenUp_pair (escaped : Char) (rest : Text) (index : Nat) :
    isTakenUp ('\\' :: escaped :: rest) (index + 2) = isTakenUp rest index := by
  induction index with
  | zero => simp [isTakenUp]
  | succ index induction =>
    rw [isTakenUp, induction, List.getElem?_cons_succ, List.getElem?_cons_succ]
    rfl

/-- A literal has one end. -/
theorem EndsAt.unique {other : Nat} (ends : EndsAt quote body index)
    (again : EndsAt quote body other) : index = other := by
  have notLater {left right : Nat} (one : EndsAt quote body left)
      (two : EndsAt quote body right) : right ≤ left := by
    apply Nat.le_of_not_lt
    intro later
    have taken := two.first left later one.stands
    rw [one.bare] at taken
    cases taken
  exact Nat.le_antisymm (notLater again ends) (notLater ends again)

/-- A literal ends at its quote. -/
theorem endsAt_quote (quote : Char) (rest : Text) : EndsAt quote (quote :: rest) 0 where
  stands := rfl
  bare := rfl
  first := fun _ earlier => absurd earlier (Nat.not_lt_zero _)

/-- A literal ends one character later when a character is put in front that is neither a backslash
nor its quote. -/
theorem EndsAt.plain (ends : EndsAt quote rest index) (plain : first ≠ '\\')
    (other : first ≠ quote) : EndsAt quote (first :: rest) (index + 1) where
  stands := ends.stands
  bare := by rw [isTakenUp_plain plain, ends.bare]
  first := by
    intro earlier before stands
    cases earlier with
    | zero => exact absurd (Option.some.inj stands) other
    | succ earlier =>
      rw [isTakenUp_plain plain]
      exact ends.first earlier (Nat.lt_of_succ_lt_succ before) stands

/-- A literal ends two characters later when a backslash and a character that it takes up are put in
front. -/
theorem EndsAt.pair (ends : EndsAt quote rest index) (notEscape : quote ≠ '\\') :
    EndsAt quote ('\\' :: escaped :: rest) (index + 2) where
  stands := ends.stands
  bare := by rw [isTakenUp_pair, ends.bare]
  first := by
    intro earlier before stands
    match earlier with
    | 0 => exact absurd (Option.some.inj stands).symm notEscape
    | 1 => rfl
    | earlier + 2 =>
      rw [isTakenUp_pair]
      exact ends.first earlier (by omega) stands

/-- The quotes of a body are all taken up. -/
def NeverEnds (quote : Char) (body : Text) : Prop :=
  ∀ index, body[index]? = some quote → isTakenUp body index = true

/-- A literal that never ends does not end with a character more in front that is neither a
backslash nor its quote. -/
theorem NeverEnds.plain (never : NeverEnds quote rest) (plain : first ≠ '\\')
    (other : first ≠ quote) : NeverEnds quote (first :: rest) := by
  intro index stands
  cases index with
  | zero => exact absurd (Option.some.inj stands) other
  | succ index =>
    rw [isTakenUp_plain plain]
    exact never index stands

/-- A literal that never ends does not end with a backslash and the character that it takes up in
front. -/
theorem NeverEnds.pair (never : NeverEnds quote rest) (notEscape : quote ≠ '\\') :
    NeverEnds quote ('\\' :: escaped :: rest) := by
  intro index stands
  match index with
  | 0 => exact absurd (Option.some.inj stands).symm notEscape
  | 1 => rfl
  | index + 2 =>
    rw [isTakenUp_pair]
    exact never index stands

/-! ### Reading a body -/

/-- A literal that has an end does not go on for ever. -/
theorem EndsAt.not_never (ends : EndsAt quote body index) : ¬NeverEnds quote body := by
  intro never
  have taken := never index ends.stands
  rw [ends.bare] at taken
  cases taken

/-- What reading a body gives: nothing where the literal never ends, and otherwise the characters
whose written form stands before its end, with what stands behind it. -/
def ReadAs (quote : Char) (body : Text) : Option (Text × Text) → Prop
  | none => NeverEnds quote body
  | some (value, rest) => ∃ index, EndsAt quote body index ∧ rest = body.drop (index + 1) ∧
      StringLiteral.escaped quote value = body.take index

/-- A body is read up to the end of its literal, and no character before the end is lost.

Proof: by induction along the reader. A backslash goes with the character behind it, and the two are
written as they stand: a quote gets its backslash back, and any other character has kept it. -/
theorem readBody_readAs (notEscape : quote ≠ '\\') (body : Text) :
    ReadAs quote body (readBody quote body) := by
  fun_induction readBody quote body with
  | case1 =>
    intro index stands
    cases stands
  | case2 =>
    intro index stands
    cases index with
    | zero => exact absurd (Option.some.inj stands).symm notEscape
    | succ index => cases stands
  | case3 character rest kept induction =>
    cases read : readBody quote rest with
    | none =>
      rw [read] at induction
      exact NeverEnds.pair induction notEscape
    | some body =>
      rw [read] at induction
      obtain ⟨index, ends, behind, written⟩ := induction
      refine ⟨index + 2, ends.pair notEscape, behind, ?_⟩
      rw [List.take_succ_cons, List.take_succ_cons, ← written]
      by_cases same : character = quote
      · subst same
        simp only [kept, if_true, List.singleton_append]
        exact escaped_quote _ _
      · simp only [kept, if_neg same, List.cons_append, List.nil_append]
        rw [escaped_other notEscape.symm, escaped_other same]
  | case4 rest escape escapeMore =>
    exact ⟨0, endsAt_quote quote rest, rfl, rfl⟩
  | case5 character rest escape escapeMore other induction =>
    have plain : character ≠ '\\' := by
      rintro rfl
      cases rest with
      | nil => exact escape rfl rfl
      | cons next rest => exact escapeMore next rest rfl rfl
    cases read : readBody quote rest with
    | none =>
      rw [read] at induction
      exact NeverEnds.plain induction plain other
    | some body =>
      rw [read] at induction
      obtain ⟨index, ends, behind, written⟩ := induction
      refine ⟨index + 1, ends.plain plain other, behind, ?_⟩
      rw [List.take_succ_cons, ← written]
      exact escaped_other other _

/-- Of a body whose literal ends at an index, the characters before it are read and what stands
behind it is left. -/
theorem EndsAt.readBody_eq (ends : EndsAt quote body index) (notEscape : quote ≠ '\\') :
    ∃ value, readBody quote body = some (value, body.drop (index + 1)) ∧
      StringLiteral.escaped quote value = body.take index := by
  have readAs := readBody_readAs notEscape body
  cases read : readBody quote body with
  | none =>
    rw [read] at readAs
    exact absurd readAs ends.not_never
  | some found =>
    obtain ⟨value, rest⟩ := found
    rw [read] at readAs
    obtain ⟨other, again, behind, written⟩ := readAs
    obtain rfl := ends.unique again
    exact ⟨value, by rw [behind], written⟩

/-- A body is not read exactly when its literal never ends. -/
theorem readBody_eq_none_iff (notEscape : quote ≠ '\\') (body : Text) :
    readBody quote body = none ↔ NeverEnds quote body := by
  have readAs := readBody_readAs notEscape body
  cases read : readBody quote body with
  | none =>
    rw [read] at readAs
    exact ⟨fun _ => readAs, fun _ => rfl⟩
  | some found =>
    rw [read] at readAs
    obtain ⟨index, ends, -⟩ := readAs
    exact ⟨fun impossible => absurd impossible (by simp), fun never => absurd never ends.not_never⟩

/-- A literal has an end or goes on for ever. -/
theorem endsAt_or_never (notEscape : quote ≠ '\\') (body : Text) :
    (∃ index, EndsAt quote body index) ∨ NeverEnds quote body := by
  have readAs := readBody_readAs notEscape body
  cases read : readBody quote body with
  | none =>
    rw [read] at readAs
    exact Or.inr readAs
  | some found =>
    rw [read] at readAs
    obtain ⟨index, ends, -⟩ := readAs
    exact Or.inl ⟨index, ends⟩

/-! ### Literals in a text -/

/-- At a quote in a text, a literal is refused as unclosed exactly when every later quote of the
same kind is taken up by a backslash. Otherwise there is a first one that is not, and the literal
is read up to it: the quote is kept, the written form is the text from the one quote to the other,
nothing behind it is touched, and the written form alone is read as the same literal again.

Proof: the reader takes up pairs of characters just as `isTakenUp` does, so it stops at the end of
the literal or not at all. The written form is the quote, the characters before the end as they
stand, and the quote. -/
theorem read_at_quote {text before body : Text} {start : Nat} {quote : Char}
    (stands : text.splitAtByte? start = some (before, quote :: body))
    (isOne : isQuote quote = true) :
    (read (quote :: body) = .error (.unclosed quote) ↔
      ∀ index, body[index]? = some quote → isTakenUp body index = true) ∧
    ((∃ index, EndsAt quote body index) ∨
      ∀ index, body[index]? = some quote → isTakenUp body index = true) ∧
    ∀ index, EndsAt quote body index → ∃ literal,
      read (quote :: body) = .ok (literal, body.drop (index + 1)) ∧
      literal.delimiter = quote ∧
      text.slice? start (text.byteLength - Text.byteLength (body.drop (index + 1))) =
        some literal.render ∧
      text.splitAtByte? (start + literal.render.byteLength) =
        some (before ++ literal.render, body.drop (index + 1)) ∧
      read literal.render = .ok (literal, []) := by
  have notEscape : quote ≠ '\\' := by
    rintro rfl
    cases isOne
  obtain ⟨rfl, rfl⟩ := Text.splitAtByte?_eq_some_iff.1 stands
  refine ⟨?_, endsAt_or_never notEscape body, ?_⟩
  · rw [← NeverEnds, ← readBody_eq_none_iff notEscape, read]
    cases readBody quote body <;> simp
  · intro index ends
    obtain ⟨value, found, written⟩ := ends.readBody_eq notEscape
    have whole : quote :: body =
        (⟨value, quote⟩ : StringLiteral).render ++ body.drop (index + 1) := by
      have here : body.drop index = quote :: body.drop (index + 1) := by
        obtain ⟨inside, same⟩ := List.getElem?_eq_some_iff.1 ends.stands
        rw [List.drop_eq_getElem_cons inside, same]
      have split : body = StringLiteral.escaped quote value ++ quote :: body.drop (index + 1) := by
        rw [written, ← here, List.take_append_drop]
      calc
        quote :: body
        _ = quote :: (StringLiteral.escaped quote value ++ quote :: body.drop (index + 1)) :=
          congrArg (quote :: ·) split
        _ = (⟨value, quote⟩ : StringLiteral).render ++ body.drop (index + 1) := by
          simp [render, StringLiteral.escaped]
    have reads : read (quote :: body) = .ok (⟨value, quote⟩, body.drop (index + 1)) := by
      rw [read, found]
    have again := read_render isOne reads []
    rw [List.append_nil] at again
    refine ⟨⟨value, quote⟩, reads, rfl, ?_, ?_, again⟩
    · rw [whole, ← List.append_assoc]
      have stop : Text.byteLength (before ++ (⟨value, quote⟩ : StringLiteral).render ++
          body.drop (index + 1)) - Text.byteLength (body.drop (index + 1)) =
          before.byteLength + (⟨value, quote⟩ : StringLiteral).render.byteLength := by
        rw [Text.byteLength_append, Text.byteLength_append]
        omega
      rw [stop]
      exact Text.slice?_append _ _ _
    · rw [whole, ← List.append_assoc, ← Text.byteLength_append]
      exact Text.splitAtByte?_append _ _

/-- A quote behind three backslashes is taken up, and one behind four is not. -/
theorem read_at_quote_backslashes :
    let before : Text := "é "
    let body : Text := "a\\\\\\'b\\\\\\\\' c"
    let text := before ++ '\'' :: body
    text.splitAtByte? 3 = some (before, '\'' :: body) ∧ isQuote '\'' = true ∧
      EndsAt '\'' body 10 ∧
      ∃ literal, read ('\'' :: body) = .ok (literal, body.drop 11) ∧
        text.slice? 3 15 = some literal.render ∧ read literal.render = .ok (literal, []) := by
  intro before body text
  have stands : text.splitAtByte? 3 = some (before, '\'' :: body) := by decide
  have ends : EndsAt '\'' body 10 := ⟨by decide, by decide, by decide⟩
  have stop : text.byteLength - Text.byteLength (body.drop 11) = 15 := by decide
  obtain ⟨-, -, found⟩ := read_at_quote stands rfl
  obtain ⟨literal, reads, -, slice, -, again⟩ := found 10 ends
  rw [stop] at slice
  exact ⟨stands, rfl, ends, literal, reads, slice, again⟩

end Bracework.StringLiteral
