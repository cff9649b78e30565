import Bracework.Expression.Progress

/-!
# The grammar of expressions

The language of expressions as a recursive reader, one function for each rule:

    items     chain ('.' chain)*
    chain     operand followed by any number of ('!' | operator right)
    right     operand, or operand '.' items
    operand   string | number | path | path '(' arguments ')'
    argument  optional '[' name ']', then items

Reading is greedy and never goes back: each rule takes what it can and leaves the rest. There
are no frames and no arena here; what is open is where the recursion stands. Every rule but the
tail of a chain takes at least one character, which ends the recursion.

Blanks may stand before and after every token. They are dropped before an operand, after it and
after `!`, so that a rule always leaves a text that begins with no blank. Nothing is dropped
inside a path and before the `(` of a call.
-/

namespace Bracework.Grammar

/-- The text without the blanks in front of it. -/
def skip (text : Text) : Text := Text.trimStart isBlank text

/-- Dropping blanks makes a text no longer. -/
theorem skip_length (text : Text) : (skip text).length ≤ text.length :=
  (List.dropWhile_suffix isBlank).length_le

/-- Dropping blanks twice is dropping them once. -/
theorem skip_skip (text : Text) : skip (skip text) = skip text := by
  induction text with
  | nil => rfl
  | cons first rest induction =>
    cases blank : isBlank first with
    | true => simpa [skip, Text.trimStart, blank] using induction
    | false => simp [skip, Text.trimStart, blank]

/-- Whether a path that has been taken up to here goes on with a character. A slash belongs to
the path directly after `..`, and a dot always does; a blank, an operator, a comma and either
parenthesis do not. -/
def continuesPath (draft : PathDraft) (character : Char) : Bool :=
  if character = '/' then draft.acceptsSlash
  else character == '.' || !(character == '(' || isOperatorChar character ||
    isBlank character || endsArgument character)

/-- Takes a path up to the first character that does not belong to it. A character that belongs
to no path, or that the characters before it forbid, refuses the whole. -/
def readDraft (draft : PathDraft) : Text → Option (PathDraft × Text)
  | [] => some (draft, [])
  | character :: rest =>
    if continuesPath draft character then
      if isPathChar character then
        match draft.push character with
        | .error _ => none
        | .ok next => readDraft next rest
      else none
    else some (draft, character :: rest)

/-- An accepted character is put behind those taken before. -/
theorem push_written {draft next : PathDraft} {character : Char}
    (accepted : draft.push character = .ok next) :
    next.written = draft.written ++ [character] := by
  simp only [PathDraft.push] at accepted
  split at accepted
  · simp at accepted
  · cases accepted
    rfl

/-- The characters taken and the rest make up the text. -/
theorem readDraft_taken {draft final : PathDraft} {text rest : Text}
    (found : readDraft draft text = some (final, rest)) :
    ∃ taken, final.written = draft.written ++ taken ∧ text = taken ++ rest := by
  induction text generalizing draft with
  | nil =>
    obtain ⟨rfl, rfl⟩ : draft = final ∧ [] = rest := by simpa [readDraft] using found
    exact ⟨[], by simp, rfl⟩
  | cons character tail induction =>
    simp only [readDraft] at found
    split at found
    · split at found
      · cases pushed : draft.push character with
        | error fault => simp [pushed] at found
        | ok next =>
          simp only [pushed] at found
          obtain ⟨taken, written, whole⟩ := induction found
          refine ⟨character :: taken, ?_, by rw [whole, List.cons_append]⟩
          rw [written, push_written pushed, List.append_assoc, List.singleton_append]
      · simp at found
    · obtain ⟨rfl, rfl⟩ : draft = final ∧ character :: tail = rest := by simpa using found
      exact ⟨[], by simp, rfl⟩

/-- What is left behind a path is no longer than the text. -/
theorem readDraft_length {draft final : PathDraft} {text rest : Text}
    (found : readDraft draft text = some (final, rest)) : rest.length ≤ text.length := by
  obtain ⟨taken, -, whole⟩ := readDraft_taken found
  rw [whole, List.length_append]
  omega

/-- A path that compiles has at least one character, so what is left is shorter. -/
theorem readDraft_shorter {final : PathDraft} {text rest : Text} {segments : List Segment}
    (found : readDraft PathDraft.empty text = some (final, rest))
    (compiled : final.compile = .ok segments) : rest.length < text.length := by
  obtain ⟨taken, written, whole⟩ := readDraft_taken found
  have nonempty : taken ≠ [] := by
    rintro rfl
    simp [PathDraft.compile, PathDraft.segmentsOf, written, PathDraft.empty] at compiled
  have positive : 0 < taken.length := List.length_pos_iff.2 nonempty
  rw [whole, List.length_append]
  omega

/-- The optional name of an argument: the text up to the first `]`, without the white space at
its ends. It has at least one character and name characters only. -/
def readName (text : Text) : Option (Option Text × Text) :=
  match text with
  | '[' :: tail =>
    match tail.dropWhile (· ≠ ']') with
    | [] => none
    | _ :: rest =>
      let name := Text.trimSpace (tail.takeWhile (· ≠ ']'))
      if name = [] ∨ !name.all isNameChar then none else some (some name, rest)
  | text => some (none, text)

/-- What is left behind the name of an argument is no longer than the text. -/
theorem readName_length {text rest : Text} {name : Option Text}
    (found : readName text = some (name, rest)) : rest.length ≤ text.length := by
  simp only [readName] at found
  split at found
  · rename_i tail
    split at found
    · simp at found
    · rename_i bracket after shape
      split at found
      · simp at found
      · obtain ⟨-, rfl⟩ : _ ∧ after = rest := by simpa using found
        have dropped : (tail.dropWhile (· ≠ ']')).length ≤ tail.length :=
          (List.dropWhile_suffix (· ≠ ']')).length_le
        rw [shape] at dropped
        simp only [List.length_cons] at dropped ⊢
        omega
  · obtain ⟨-, rfl⟩ : _ ∧ text = rest := by simpa using found
    exact Nat.le_refl _

/-- What is left behind one expected character is shorter. -/
theorem after_shorter {wanted : Char} {text rest : Text}
    (found : Text.after? [wanted] text = some rest) : rest.length < text.length := by
  rw [Text.after?_eq_some_iff.1 found, List.length_append, List.length_singleton]
  omega

/-- A text shorter than `text`. -/
abbrev Shorter (text : Text) := { rest : Text // rest.length < text.length }

/-- The items of a sequence as one expression: a single item stands for itself. -/
def sequenceOf : List Expression → Expression
  | [single] => single
  | items => .sequence items

mutual

/-- A string, a number, a path or a call, with the blanks around it. -/
def readOperand (text : Text) : Option (Expression × Shorter text) :=
  match skipped : skip text with
  | [] => none
  | first :: tail =>
    have bound : (first :: tail).length ≤ text.length := skipped ▸ skip_length text
    if isQuote first then
      match found : StringLiteral.read (first :: tail) with
      | .error _ => none
      | .ok (literal, rest) =>
        have shorter := StringLiteral.read_length found
        have blanks := skip_length rest
        some (.string literal, ⟨skip rest, by omega⟩)
    else if digit : isDigit first then
      match found : NumberLiteral.read (first :: tail) with
      | .error _ => none
      | .ok (literal, rest) =>
        have shorter := NumberLiteral.read_length digit found
        have blanks := skip_length rest
        some (.number literal, ⟨skip rest, by omega⟩)
    else if beginsPath first then
      match readPath (first :: tail) with
      | none => none
      | some (expression, ⟨rest, shorter⟩) =>
        have blanks := skip_length rest
        some (expression, ⟨skip rest, by omega⟩)
    else none
termination_by (text.length, 1)
decreasing_by
  rcases Nat.lt_or_eq_of_le bound with less | same
  · exact Prod.Lex.left _ _ less
  · rw [same]
    exact Prod.Lex.right _ (by omega)

/-- A path, or a call when a `(` stands directly behind the path. -/
def readPath (text : Text) : Option (Expression × Shorter text) :=
  match taken : readDraft PathDraft.empty text with
  | none => none
  | some (draft, rest) =>
    match opened : Text.after? ['('] rest with
    | some inside =>
      have shorter := Nat.lt_of_lt_of_le (after_shorter opened) (readDraft_length taken)
      match draft.compileCall with
      | .error _ => none
      | .ok (receiver, formatter) =>
        match readArguments inside with
        | none => none
        | some (arguments, ⟨behind, bound⟩) =>
          some (.call receiver formatter arguments, ⟨behind, by omega⟩)
    | none =>
      match compiled : draft.compile with
      | .error _ => none
      | .ok segments => some (.path segments, ⟨rest, readDraft_shorter taken compiled⟩)
termination_by (text.length, 0)
decreasing_by
  exact Prod.Lex.left _ _ shorter

/-- The arguments behind a `(`, up to and with the `)`. -/
def readArguments (text : Text) : Option (List (Argument Expression) × Shorter text) :=
  match closed : Text.after? [')'] (skip text) with
  | some rest =>
    have shorter := Nat.lt_of_lt_of_le (after_shorter closed) (skip_length text)
    some ([], ⟨rest, shorter⟩)
  | none => readArgumentList text
termination_by (text.length, 6)

/-- One argument and those behind it, up to and with the `)`. -/
def readArgumentList (text : Text) : Option (List (Argument Expression) × Shorter text) :=
  match readArgument text with
  | none => none
  | some (argument, ⟨rest, shorter⟩) =>
    match separated : Text.after? [','] rest with
    | some next =>
      have nextShorter := after_shorter separated
      match readArgumentList next with
      | none => none
      | some (arguments, ⟨behind, bound⟩) => some (argument :: arguments, ⟨behind, by omega⟩)
    | none =>
      match closed : Text.after? [')'] rest with
      | some behind =>
        have bound := after_shorter closed
        some ([argument], ⟨behind, by omega⟩)
      | none => none
termination_by (text.length, 5)
decreasing_by
  · exact Prod.Lex.right _ (by omega)
  · exact Prod.Lex.left _ _ (by omega)

/-- An argument: items behind an optional name. -/
def readArgument (text : Text) : Option (Argument Expression × Shorter text) :=
  match named : readName (skip text) with
  | none => none
  | some (name, rest) =>
    have bound : rest.length ≤ text.length :=
      Nat.le_trans (readName_length named) (skip_length text)
    match readItems rest with
    | none => none
    | some (items, ⟨behind, shorter⟩) => some (⟨name, sequenceOf items⟩, ⟨behind, by omega⟩)
termination_by (text.length, 4)
decreasing_by
  rcases Nat.lt_or_eq_of_le bound with less | same
  · exact Prod.Lex.left _ _ less
  · rw [same]
    exact Prod.Lex.right _ (by omega)

/-- Chains with dots between them. -/
def readItems (text : Text) : Option (List Expression × Shorter text) :=
  match readChain text with
  | none => none
  | some (chain, ⟨after, shorter⟩) =>
    match dotted : Text.after? ['.'] after with
    | some next =>
      have nextShorter := after_shorter dotted
      match readItems next with
      | none => none
      | some (items, ⟨behind, bound⟩) => some (chain :: items, ⟨behind, by omega⟩)
    | none => some ([chain], ⟨after, shorter⟩)
termination_by (text.length, 3)
decreasing_by
  · exact Prod.Lex.right _ (by omega)
  · exact Prod.Lex.left _ _ (by omega)

/-- An operand and the operators behind it. -/
def readChain (text : Text) : Option (Expression × Shorter text) :=
  match readOperand text with
  | none => none
  | some (operand, ⟨rest, shorter⟩) =>
    match readLinks operand rest with
    | none => none
    | some (chain, ⟨after, bound⟩) => some (chain, ⟨after, by omega⟩)
termination_by (text.length, 2)
decreasing_by
  · exact Prod.Lex.right _ (by omega)
  · exact Prod.Lex.left _ _ shorter

/-- The operators behind an operand, each taking all before it as its left side. -/
def readLinks (left : Expression) (text : Text) :
    Option (Expression × { rest : Text // rest.length ≤ text.length }) :=
  match found : Operator.read? text with
  | none => some (left, ⟨text, Nat.le_refl _⟩)
  | some (.invert, rest) =>
    have shorter := Machine.readOperator_length found
    have blanks := skip_length rest
    match readLinks (.invert left) (skip rest) with
    | none => none
    | some (chain, ⟨behind, bound⟩) => some (chain, ⟨behind, by omega⟩)
  | some (.binary operator, rest) =>
    have shorter := Machine.readOperator_length found
    match readRight rest with
    | none => none
    | some (right, ⟨after, afterShorter⟩) =>
      match readLinks (.binary operator left right) after with
      | none => none
      | some (chain, ⟨behind, bound⟩) => some (chain, ⟨behind, by omega⟩)
termination_by (text.length, 0)
decreasing_by
  all_goals exact Prod.Lex.left _ _ (by omega)

/-- The right side of an operator. A dot behind its operand makes it a sequence, which takes
every chain that follows. -/
def readRight (text : Text) : Option (Expression × Shorter text) :=
  match readOperand text with
  | none => none
  | some (first, ⟨rest, shorter⟩) =>
    match dotted : Text.after? ['.'] rest with
    | some next =>
      have nextShorter := after_shorter dotted
      match readItems next with
      | none => none
      | some (items, ⟨behind, bound⟩) => some (.sequence (first :: items), ⟨behind, by omega⟩)
    | none => some (first, ⟨rest, shorter⟩)
termination_by (text.length, 2)
decreasing_by
  · exact Prod.Lex.right _ (by omega)
  · exact Prod.Lex.left _ _ (by omega)

end

/-- Items that are read are at least one. -/
theorem readItems_nonempty {text : Text} {items : List Expression} {rest : Shorter text}
    (found : readItems text = some (items, rest)) : items ≠ [] := by
  rintro rfl
  rw [readItems] at found
  split at found
  · simp at found
  · split at found
    · split at found <;> simp at found
    · simp at found

/-- Several items are a sequence. -/
theorem sequenceOf_cons {first : Expression} {rest : List Expression} (several : rest ≠ []) :
    sequenceOf (first :: rest) = .sequence (first :: rest) := by
  cases rest with
  | nil => exact absurd rfl several
  | cons second others => rfl

/-- Reads a text that has to be an expression as a whole. -/
def readWhole (text : Text) : Option Expression :=
  match readItems text with
  | some (items, ⟨[], _⟩) => some (sequenceOf items)
  | _ => none

end Bracework.Grammar
