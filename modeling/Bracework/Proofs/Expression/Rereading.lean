import Bracework.Proofs.Expression.WrittenOperand

/-!
# Reading what was written

An expression that has been read is written and read again. The outcome is stated for each rule of
the grammar as an equivalence: in front of what may follow, the rule gives the same value exactly
when the value is legible, and then it leaves what follows. That the value is the same if it is
legible is one half of this. The other half shows that nothing weaker would do, and both together
tell where each part of a longer expression ends when it is read again, so that its parts can be
taken one after the other.

The induction is on the length of the text that was read first. All rules are derived for a text
from the items of shorter texts.
-/

namespace Bracework

variable {text rest after left : Text} {expression : Expression}

/-! ### What may follow an expression -/

namespace Expression

/-- What may follow an expression. Behind an operation no dot does, since its right side would take
the dot; behind a sequence there is nothing more to read. -/
def Admits : Expression → Text → Prop
  | .binary _ _ (.sequence _), after => Closes after
  | .binary _ _ _, after => Ends after
  | _, after => Continues after

/-- The end of an expression may follow it. -/
theorem admits_of_closes (expression : Expression) (closes : Closes after) :
    expression.Admits after := by
  unfold Admits
  split
  · exact closes
  · exact .closes closes
  · exact .ends (.closes closes)

/-- What may follow an expression continues the text. -/
theorem Admits.continues (admits : expression.Admits after) : Continues after := by
  unfold Admits at admits
  split at admits
  · exact .ends (.closes admits)
  · exact .ends admits
  · exact admits

/-- An operand admits whatever may follow an operand. -/
theorem IsOperand.admits (isOperand : expression.IsOperand) (continues : Continues after) :
    expression.Admits after := by
  cases expression with
  | binary => exact isOperand.elim
  | _ => exact continues

/-- An expression is complete where no dot follows. -/
theorem stays_of_ends (expression : Expression) (ends : Ends after) :
    expression.stays after = true := by
  unfold stays
  split
  · exact absurd rfl (ends.head '.' rfl).1
  · exact absurd rfl (ends.head '.' rfl).1
  · rfl

/-- Whether an expression is complete in front of a dot depends on the next character alone. -/
theorem stays_append (expression : Expression) (nonempty : text ≠ []) (after : Text) :
    expression.stays ('.' :: (text ++ after)) = expression.stays ('.' :: text) := by
  obtain ⟨first, rest, rfl⟩ := List.exists_cons_of_ne_nil nonempty
  cases expression with
  | number literal =>
    obtain ⟨raw, value⟩ := literal
    cases value <;> rfl
  | _ => rfl

end Expression

namespace Grammar

/-! ### What is shown of each rule -/

/-- An expression as a chain: its written form is read as the expression exactly when it is legible
and complete before what follows. -/
structure Rereads (expression : Expression) : Prop where
  framed : Framed expression.render
  again : ∀ {after : Text} (rest : Text), expression.Admits after →
    (Chains (expression.render ++ after) expression rest ↔
      (expression.isLegible = true ∧ expression.stays after = true) ∧ rest = skip after)

/-- The right side of an operator. -/
structure RightRereads (operator : BinaryOperator) (left right : Expression) : Prop where
  framed : Framed right.render
  again : ∀ {after : Text} (rest : Text), (Expression.binary operator left right).Admits after →
    (right? (right.render ++ after) = some (right, rest) ↔
      right.isLegible = true ∧ rest = skip after)

/-- The items of a sequence. -/
structure ItemsReread (items : List Expression) : Prop where
  framed : Framed (Expression.renderItems items)
  again : ∀ {after : Text} (rest : Text), Closes after →
    (itemList? (Expression.renderItems items ++ after) = some (items, rest) ↔
      Expression.areItemsLegible items = true ∧ rest = after)

/-- An argument. -/
structure ArgumentRereads (argument : Argument Expression) : Prop where
  begins : ∃ first tail, Expression.renderArgument argument = first :: tail ∧
    isBlank first = false ∧ first ≠ ')'
  again : ∀ {after : Text} (rest : Text), Closes after →
    (argument? (Expression.renderArgument argument ++ after) = some (argument, rest) ↔
      Expression.isArgumentLegible argument = true ∧ rest = after)

/-- The arguments of a call with its closing bracket. -/
def ArgumentsReread (arguments : List (Argument Expression)) : Prop :=
  ∀ after rest : Text,
    arguments? (Expression.renderArguments arguments ++ ')' :: after) = some (arguments, rest) ↔
      Expression.areArgumentsLegible arguments = true ∧ rest = after

/-! ### Operands -/

/-- An operand that is read again as an operand is read again as a chain. -/
theorem Rereads.of_operand (isOperand : expression.IsOperand) (framed : Framed expression.render)
    (again : ∀ {after : Text} (rest : Text), Continues after →
      (operand? (expression.render ++ after) = some (expression, rest) ↔
        (expression.isLegible = true ∧ expression.stays after = true) ∧ rest = skip after)) :
    Rereads expression :=
  ⟨framed, fun rest admits => (chains_operand_iff isOperand).trans (again rest admits.continues)⟩

/-- A string is always legible. -/
theorem string_rereads {literal : StringLiteral} {first : Char} {tail : Text}
    (quote : isQuote first = true)
    (read : StringLiteral.read (first :: tail) = .ok (literal, rest)) :
    Rereads (.string literal) := by
  have opens : literal.render.head?.any isQuote = true := by
    rw [← StringLiteral.delimiter_of_read read] at quote
    exact quote
  have framed : Framed literal.render := by
    refine ⟨beginsOperand_of_quote opens, fun last found => ?_⟩
    rw [StringLiteral.render, List.getLast?_append, StringLiteral.delimiter_of_read read] at found
    obtain rfl : first = last := by simpa using found
    exact (beginsOperand_plain (by simp [beginsOperand, quote])).1
  refine .of_operand trivial framed fun {after} left continues => ?_
  have again := StringLiteral.read_render quote read after
  have written : (Expression.string literal).render = literal.render := by
    rw [Expression.render]
  rw [written, operand?_string_iff (head_append opens after), again]
  constructor
  · rintro ⟨behind, same, rfl⟩
    cases same
    exact ⟨⟨rfl, rfl⟩, rfl⟩
  · rintro ⟨-, rfl⟩
    exact ⟨after, rfl, rfl⟩

/-- A number is always legible, and complete where no digit makes it longer. -/
theorem number_rereads {literal : NumberLiteral} (isWritten : literal.IsWritten) :
    Rereads (.number literal) := by
  obtain ⟨begins, ends⟩ := isWritten.ends
  have framed : Framed literal.raw :=
    ⟨beginsOperand_of_digit begins, fun last found =>
      (nameChar_plain (digit_plain (ends last found)).1).2.1⟩
  refine .of_operand trivial framed fun {after} left continues => ?_
  have written : (Expression.number literal).render = literal.raw := by rw [Expression.render]
  rw [written, operand?_number_iff (head_append begins after)]
  constructor
  · rintro ⟨other, behind, same, read, rfl⟩
    cases same
    obtain ⟨stays, rfl⟩ := (NumberLiteral.read_raw_iff isWritten continues).1 read
    exact ⟨⟨rfl, stays⟩, rfl⟩
  · rintro ⟨⟨-, stays⟩, rfl⟩
    have read := (NumberLiteral.read_raw_iff isWritten continues).2 ⟨stays, rfl⟩
    exact ⟨literal, after, rfl, read, rfl⟩

/-- What stands behind a text changes nothing about whether it opens a path. -/
theorem opensPath_append (nonempty : text ≠ []) (after : Text) :
    Expression.opensPath (text ++ after) = Expression.opensPath text := by
  obtain ⟨first, rest, rfl⟩ := List.exists_cons_of_ne_nil nonempty
  rfl

/-- A path is legible when its first character begins a path and its dots are written. It is
complete where no dot follows. -/
theorem path_rereads {segments : List Segment} (isPath : Segment.IsPath segments) :
    Rereads (.path segments) := by
  have takes := PathDraft.takes_renderAll isPath
  have nonempty := PathDraft.renderAll_nonempty isPath
  have begins := PathDraft.begins_of_takes takes nonempty
  have framed : Framed (Segment.renderAll segments) :=
    ⟨begins, fun last found => pathChar_not_blank (takes.chars last (List.mem_of_getLast? found))⟩
  refine .of_operand trivial framed fun {after} left continues => ?_
  have written : (Expression.path segments).render = Segment.renderAll segments := by
    rw [Expression.render]
  rw [written, operand?_path_iff (head_append begins after) (by simp) (by simp),
    opensPath_append nonempty]
  cases continues with
  | ends ends =>
    have stays := Expression.stays_of_ends (.path segments) ends
    simp only [pathOrCall?_written_iff isPath ends, Expression.isLegible, stays, Bool.and_eq_true,
      Bool.not_eq_true', decide_eq_false_iff_not]
    constructor
    · rintro ⟨opens, behind, ⟨keeps, rfl⟩, rfl⟩
      exact ⟨⟨⟨opens, keeps⟩, trivial⟩, rfl⟩
    · rintro ⟨⟨⟨opens, keeps⟩, -⟩, rfl⟩
      exact ⟨opens, after, ⟨keeps, rfl⟩, rfl⟩
  | dot isFirst more =>
    constructor
    · rintro ⟨-, behind, read, -⟩
      exact absurd read (pathOrCall?_dotted isPath isFirst more)
    · rintro ⟨⟨-, stays⟩, -⟩
      cases stays

/-- A call is legible when its first character begins a path, its dots are written, and its
arguments are legible. -/
theorem call_rereads {receiver : List Segment} {formatter : Text}
    {arguments : List (Argument Expression)} (isCall : PathDraft.IsCall receiver formatter)
    (reread : ArgumentsReread arguments) : Rereads (.call receiver formatter arguments) := by
  let path := Expression.renderReceiver receiver ++ formatter
  have nonempty : path ≠ [] := by simp [path, isCall.nonempty]
  have begins := PathDraft.begins_of_takes (PathDraft.takes_call isCall) nonempty
  have written : (Expression.call receiver formatter arguments).render =
      path ++ '(' :: Expression.renderArguments arguments ++ [')'] := by
    rw [Expression.render]
    simp [path]
  have framed : Framed (Expression.call receiver formatter arguments).render := by
    rw [written]
    exact .snoc begins rfl _
  refine .of_operand trivial framed fun {after} left continues => ?_
  have whole : (Expression.call receiver formatter arguments).render ++ after =
      path ++ '(' :: (Expression.renderArguments arguments ++ ')' :: after) := by
    rw [written]
    simp
  have stays : (Expression.call receiver formatter arguments).stays after = true := by
    cases after <;> rfl
  rw [whole, operand?_path_iff (head_append begins _) (by simp) (by simp),
    opensPath_append nonempty]
  simp only [path, pathOrCall?_call_iff isCall, reread after, Expression.isLegible, stays,
    Bool.and_eq_true, Bool.not_eq_true', decide_eq_false_iff_not]
  constructor
  · rintro ⟨opens, behind, ⟨keeps, legible, rfl⟩, rfl⟩
    exact ⟨⟨⟨⟨opens, keeps⟩, legible⟩, trivial⟩, rfl⟩
  · rintro ⟨⟨⟨⟨opens, keeps⟩, legible⟩, -⟩, rfl⟩
    exact ⟨opens, after, ⟨keeps, legible, rfl⟩, rfl⟩

/-! ### Right sides -/

/-- An operand on the right side is complete, since no dot follows it. -/
theorem RightRereads.of_operand {operator : BinaryOperator} {left right : Expression}
    (isOperand : right.IsOperand) (reread : Rereads right) : RightRereads operator left right := by
  refine ⟨reread.framed, fun {after} rest admits => ?_⟩
  have ends : Ends after := by
    cases right with
    | sequence => exact isOperand.elim
    | _ => exact admits
  rw [right?_operand_iff isOperand, ← chains_operand_iff isOperand,
    reread.again rest (isOperand.admits (.ends ends)), right.stays_of_ends ends]
  constructor
  · rintro ⟨⟨⟨legible, -⟩, rfl⟩, -⟩
    exact ⟨legible, rfl⟩
  · rintro ⟨legible, rfl⟩
    exact ⟨⟨⟨legible, rfl⟩, rfl⟩, ends.dotless⟩

/-- Several items are written with a dot behind the first. -/
theorem renderItems_cons (first : Expression) {others : List Expression} (several : others ≠ []) :
    Expression.renderItems (first :: others) =
      first.render ++ '.' :: Expression.renderItems others := by
  obtain ⟨second, rest, rfl⟩ := List.exists_cons_of_ne_nil several
  rw [Expression.renderItems]
  simp

/-- Several items are legible when the first is, is complete before the dot, and the others are
legible. -/
theorem areItemsLegible_cons (first : Expression) {others : List Expression}
    (several : others ≠ []) : Expression.areItemsLegible (first :: others) =
      (first.isLegible && first.stays ('.' :: Expression.renderItems others) &&
        Expression.areItemsLegible others) := by
  obtain ⟨second, rest, rfl⟩ := List.exists_cons_of_ne_nil several
  rw [Expression.areItemsLegible]

/-- There is an item in what is read again. -/
theorem ItemsReread.nonempty {items : List Expression} (reread : ItemsReread items) :
    items ≠ [] := by
  rintro rfl
  exact reread.framed.nonempty (by rw [Expression.renderItems])

/-- The start of the next item may follow a dot. -/
theorem ItemsReread.continues {others : List Expression} (reread : ItemsReread others)
    (after : Text) : Continues ('.' :: (Expression.renderItems others ++ after)) := by
  obtain ⟨first, rest, shape, begins⟩ := exists_cons_of_head reread.framed.begins
  rw [shape]
  exact .dot begins _

/-- An item with a dot and other items behind it: all of them are read again exactly when all are
legible and the first is complete before the dot. -/
theorem Rereads.dotted_iff {first : Expression} {others : List Expression} (here : Rereads first)
    (admits : ∀ after, Continues after → first.Admits after) (later : ItemsReread others)
    (closes : Closes after) (rest : Text) :
    (∃ next, Chains (first.render ++ '.' :: (Expression.renderItems others ++ after)) first
        ('.' :: next) ∧ itemList? next = some (others, rest)) ↔
      Expression.areItemsLegible (first :: others) = true ∧ rest = after := by
  have item (left : Text) := here.again left (admits _ (later.continues after))
  -- the dot and the character behind it decide whether the first item is complete
  have stays := Expression.stays_append first later.framed.nonempty after
  rw [areItemsLegible_cons first later.nonempty, ← stays, Bool.and_eq_true, Bool.and_eq_true]
  constructor
  · rintro ⟨next, chain, more⟩
    obtain ⟨complete, shape⟩ := (item _).1 chain
    obtain rfl : next = Expression.renderItems others ++ after := (List.cons.inj shape).2
    obtain ⟨legible, rfl⟩ := (later.again rest closes).1 more
    exact ⟨⟨complete, legible⟩, rfl⟩
  · rintro ⟨⟨complete, legible⟩, rfl⟩
    exact ⟨_, (item _).2 ⟨complete, rfl⟩, (later.again rest closes).2 ⟨legible, rfl⟩⟩

/-- Several items are framed when the first and the others are. -/
theorem framed_items {first : Expression} {others : List Expression} (here : Rereads first)
    (later : ItemsReread others) : Framed (Expression.renderItems (first :: others)) := by
  have whole : Expression.renderItems (first :: others) =
      first.render ++ ['.'] ++ Expression.renderItems others := by
    rw [renderItems_cons first later.nonempty]
    simp
  exact whole ▸ here.framed.append later.framed _

/-- A sequence on the right side is read again when its first item is complete before the dot. -/
theorem RightRereads.of_sequence {operator : BinaryOperator} {left first : Expression}
    {others : List Expression} (isOperand : first.IsOperand) (here : Rereads first)
    (later : ItemsReread others) : RightRereads operator left (.sequence (first :: others)) := by
  have written : (Expression.sequence (first :: others)).render =
      Expression.renderItems (first :: others) := by
    rw [Expression.render]
  refine ⟨written ▸ framed_items here later, fun {after} rest admits => ?_⟩
  have closes : Closes after := admits
  have dotted := here.dotted_iff (fun _ => isOperand.admits) later closes rest
  rw [written, renderItems_cons first later.nonempty, List.append_assoc, List.cons_append,
    right?_sequence_iff, Expression.isLegible, closes.plain.1, ← dotted]
  constructor
  · rintro ⟨_, _, next, same, read, more⟩
    cases same
    exact ⟨next, .operand read, more⟩
  · rintro ⟨next, chain, more⟩
    exact ⟨first, others, next, rfl, (chains_operand_iff isOperand).1 chain, more⟩

/-! ### Chains -/

/-- In front of an operator, a chain does not end with a sequence. -/
theorem Chains.admits_of_operator (chain : Chains text expression rest)
    (operator : Operator.read? rest ≠ none) (ends : Ends after) : expression.Admits after := by
  unfold Expression.Admits
  split
  · -- the last item of a sequence takes every operator behind it
    obtain ⟨before, next, -, -, read⟩ := chains_binary_iff.1 chain
    obtain ⟨first, others, behind, -, -, more⟩ := right?_sequence_iff.1 read
    exact absurd (itemList?_closed more).2 operator
  · exact ends
  · exact .ends ends

/-- In front of a dot, a chain does not end with an operation. -/
theorem Chains.admits_of_dot {next : Text} (chain : Chains text expression ('.' :: next))
    (continues : Continues after) : expression.Admits after := by
  unfold Expression.Admits
  split
  · obtain ⟨before, behind, -, -, read⟩ := chains_binary_iff.1 chain
    cases right?_dotless read
  · obtain ⟨before, behind, -, -, read⟩ := chains_binary_iff.1 chain
    cases right?_dotless read
  · exact continues

/-- An expression with a mark behind it is read again as the expression is. -/
theorem Rereads.invert (inner : Rereads expression)
    (admits : ∀ after, expression.Admits ('!' :: after)) : Rereads (.invert expression) := by
  have written : (Expression.invert expression).render = expression.render ++ [] ++ ['!'] := by
    rw [Expression.render]
    simp
  refine ⟨written ▸ .snoc inner.framed.begins rfl _, fun {after} rest continues => ?_⟩
  have whole : (Expression.invert expression).render ++ after =
      expression.render ++ '!' :: after := by
    rw [written]
    simp
  have stays : (Expression.invert expression).stays after = true := by
    cases after <;> rfl
  have mark : skip ('!' :: after) = '!' :: after := rfl
  rw [whole, chains_invert_iff, Expression.isLegible, stays]
  constructor
  · rintro ⟨before, next, chain, found, rfl⟩
    obtain ⟨⟨legible, -⟩, rfl⟩ := (inner.again before (admits after)).1 chain
    rw [mark, Continues.read_mark continues] at found
    cases found
    exact ⟨⟨legible, rfl⟩, rfl⟩
  · rintro ⟨⟨legible, -⟩, rfl⟩
    exact ⟨_, after, (inner.again _ (admits after)).2
      ⟨⟨legible, expression.stays_of_ends (.mark after)⟩, rfl⟩, Continues.read_mark continues, rfl⟩

/-- An operation is read again when both sides are. -/
theorem Rereads.binary {operator : BinaryOperator} {left right : Expression} (first : Rereads left)
    (admits : ∀ after, Ends after → left.Admits after) (second : RightRereads operator left right) :
    Rereads (.binary operator left right) := by
  have written : (Expression.binary operator left right).render =
      left.render ++ (' ' :: (operator.symbol ++ [' '])) ++ right.render := by
    rw [Expression.render]
    simp
  refine ⟨written ▸ first.framed.append second.framed _, fun {after} rest follows => ?_⟩
  let tail := ' ' :: (operator.symbol ++ ' ' :: (right.render ++ after))
  have whole : (Expression.binary operator left right).render ++ after = left.render ++ tail := by
    rw [written]
    simp [tail]
  have ends : Ends tail := .operator operator _
  have found := read_symbol operator (right.render ++ after)
  have blank : right? (' ' :: (right.render ++ after)) = right? (right.render ++ after) := by
    rw [← right?_skip, ← right?_skip (right.render ++ after)]
    rfl
  have stays : (Expression.binary operator left right).stays after = true := by
    cases after <;> rfl
  rw [whole, chains_binary_iff, Expression.isLegible, stays, Bool.and_eq_true]
  constructor
  · rintro ⟨before, next, chain, symbol, read⟩
    -- the left side is complete where it was written to its end, and the operator stands there
    obtain ⟨⟨legible, -⟩, rfl⟩ := (first.again before (admits tail ends)).1 chain
    rw [found] at symbol
    cases symbol
    rw [blank] at read
    obtain ⟨rightLegible, rfl⟩ := (second.again rest follows).1 read
    exact ⟨⟨⟨legible, rightLegible⟩, rfl⟩, rfl⟩
  · rintro ⟨⟨⟨legible, rightLegible⟩, -⟩, rfl⟩
    refine ⟨_, _, (first.again _ (admits tail ends)).2
      ⟨⟨legible, left.stays_of_ends ends⟩, rfl⟩, found, ?_⟩
    rw [blank]
    exact (second.again _ follows).2 ⟨rightLegible, rfl⟩

/-! ### Arguments -/

/-- The name of an argument that has one: characters of a name, without white space around
them. -/
theorem readName_name {name : Text} (read : readName text = some (some name, rest)) :
    name ≠ [] ∧ name.all isNameChar = true ∧ Text.trimSpace name = name := by
  unfold readName at read
  split at read
  · split at read
    · cases read
    · obtain ⟨valid, same⟩ := Option.ite_none_left_eq_some.1 read
      cases same
      obtain ⟨nonempty, names⟩ := not_or.1 valid
      exact ⟨nonempty, by simpa using names, Text.trim_trim _ _⟩
  · cases read

/-- The name of an argument is read again, and what stands behind it is left. -/
theorem readName_written {name : Option Text} (read : readName text = some (name, rest))
    (begins : after.head?.any beginsOperand = true) :
    readName (skip (Expression.renderName name ++ after)) = some (name, after) := by
  cases name with
  | none =>
    obtain ⟨first, tail, shape, isFirst⟩ := exists_cons_of_head begins
    rw [Expression.renderName, List.nil_append, skip_operand begins, shape, readName]
    intro tail same
    exact (beginsOperand_plain isFirst).2.2.1 (List.cons.inj same).1
  | some name =>
    obtain ⟨nonempty, names, trimmed⟩ := readName_name read
    have inside : ∀ character ∈ name, decide (character ≠ ']') = true := by
      intro character member
      have isName := List.all_eq_true.1 names character member
      exact decide_eq_true (nameChar_ne isName (by decide))
    obtain ⟨taken, left⟩ := Text.span_append inside
      (show ∀ character ∈ (']' :: after).head?, decide (character ≠ ']') = false from
        fun character found => Option.some.inj found ▸ rfl)
    have whole : skip (Expression.renderName (some name) ++ after) =
        '[' :: (name ++ ']' :: after) := by
      have shape : Expression.renderName (some name) ++ after = '[' :: (name ++ ']' :: after) := by
        simp [Expression.renderName]
      rw [shape]
      rfl
    rw [whole, readName]
    simp only [taken, left, trimmed, nonempty, names]
    rfl

/-- A single item is written as itself. -/
theorem render_sequenceOf {items : List Expression} :
    (sequenceOf items).render = Expression.renderItems items := by
  unfold sequenceOf
  split
  · rw [Expression.renderItems]
  · rw [Expression.render]

/-- A single item is legible when it is so itself. -/
theorem isLegible_sequenceOf {items : List Expression} :
    (sequenceOf items).isLegible = Expression.areItemsLegible items := by
  unfold sequenceOf
  split
  · rw [Expression.areItemsLegible]
  · rw [Expression.isLegible]

variable {bound : Nat} {items : List Expression}

/-- The items of texts that are shorter than a bound are read again. -/
def RereadBelow (bound : Nat) : Prop :=
  ∀ {text rest : Text} {items : List Expression}, text.length < bound →
    itemList? text = some (items, rest) → ItemsReread items

/-- An argument is read again when its items are. -/
theorem argument_rereads {argument : Argument Expression} (shorter : RereadBelow bound)
    (short : text.length < bound) (read : argument? text = some (argument, rest)) :
    ArgumentRereads argument := by
  obtain ⟨name, value⟩ := argument
  obtain ⟨behind, items, named, readItems, rfl⟩ := argument?_iff.1 read
  have blanks := skip_length text
  have nameLength := readName_length named
  have reread := shorter (by omega) readItems
  have written : Expression.renderArgument ⟨name, sequenceOf items⟩ =
      Expression.renderName name ++ Expression.renderItems items := by
    rw [Expression.renderArgument, render_sequenceOf]
  constructor
  · rw [written]
    cases name with
    | none =>
      obtain ⟨first, tail, shape, begins⟩ := exists_cons_of_head reread.framed.begins
      have plain := beginsOperand_plain begins
      exact ⟨first, tail, shape, plain.1, plain.2.2.2.1⟩
    | some name => exact ⟨'[', _, rfl, rfl, by decide⟩
  · intro after last closes
    have again := readName_written named (head_append reread.framed.begins after)
    rw [written, List.append_assoc, argument?_iff, again, Expression.isArgumentLegible,
      isLegible_sequenceOf]
    constructor
    · rintro ⟨_, others, same, readOthers, equal⟩
      cases same
      obtain rfl : items = others := sequenceOf_injective equal
        (fun _ => itemList?_not_sequence readItems) fun _ => itemList?_not_sequence readOthers
      exact (reread.again last closes).1 readOthers
    · intro legible
      exact ⟨_, items, rfl, (reread.again last closes).2 legible, rfl⟩

/-- Behind the opening bracket, arguments that are read are read again, up to the closing
bracket. -/
theorem argumentList_reread {arguments : List (Argument Expression)}
    (shorter : RereadBelow bound) (short : text.length < bound)
    (read : argumentList? text = some (arguments, rest)) :
    (∃ first tail, Expression.renderArguments arguments = first :: tail ∧
      isBlank first = false ∧ first ≠ ')') ∧ ∀ after left : Text,
        argumentList? (Expression.renderArguments arguments ++ ')' :: after) =
            some (arguments, left) ↔
          Expression.areArgumentsLegible arguments = true ∧ left = after := by
  induction arguments generalizing text with
  | nil => exact absurd rfl (argumentList?_nonempty read)
  | cons argument others induction =>
    cases others with
    | nil =>
      have reread := argument_rereads shorter short (argumentList?_single_iff.1 read)
      have written :
          Expression.renderArguments [argument] = Expression.renderArgument argument := by
        rw [Expression.renderArguments]
      refine ⟨written ▸ reread.begins, fun after left => ?_⟩
      rw [written, argumentList?_single_iff, reread.again _ (.bracket after),
        Expression.areArgumentsLegible, Expression.areArgumentsLegible, Bool.and_true]
      simp
    | cons second others =>
      have several : second :: others ≠ [] := List.cons_ne_nil _ _
      obtain ⟨next, here, later⟩ := (argumentList?_cons_iff several).1 read
      have reread := argument_rereads shorter short here
      have dropped := argument?_length here
      simp only [List.length_cons] at dropped
      obtain ⟨-, again⟩ := induction (by omega) later
      let more := Expression.renderArguments (second :: others)
      have written : Expression.renderArguments (argument :: second :: others) =
          Expression.renderArgument argument ++ ',' :: ' ' :: more := by
        rw [Expression.renderArguments]
        simp [more]
      constructor
      · obtain ⟨first, tail, shape, begins⟩ := reread.begins
        exact ⟨first, tail ++ ',' :: ' ' :: more, by rw [written, shape]; rfl, begins⟩
      · intro after left
        let tail := ' ' :: (more ++ ')' :: after)
        have whole : Expression.renderArguments (argument :: second :: others) ++ ')' :: after =
            Expression.renderArgument argument ++ ',' :: tail := by
          rw [written]
          simp [tail]
        have blank : argumentList? tail = argumentList? (more ++ ')' :: after) := by
          rw [← argumentList?_skip tail, ← argumentList?_skip (more ++ ')' :: after)]
          rfl
        have item (left : Text) := reread.again left (.comma tail)
        rw [whole, argumentList?_cons_iff several, Expression.areArgumentsLegible,
          Bool.and_eq_true]
        constructor
        · rintro ⟨next, first, rest⟩
          obtain ⟨legible, same⟩ := (item _).1 first
          cases same
          rw [blank] at rest
          obtain ⟨restLegible, rfl⟩ := (again after left).1 rest
          exact ⟨⟨legible, restLegible⟩, rfl⟩
        · rintro ⟨⟨legible, restLegible⟩, rfl⟩
          refine ⟨tail, (item _).2 ⟨legible, rfl⟩, ?_⟩
          rw [blank]
          exact (again left left).2 ⟨restLegible, rfl⟩

/-- The arguments of a call are read again. -/
theorem arguments_reread {arguments : List (Argument Expression)} (shorter : RereadBelow bound)
    (short : text.length < bound) (read : arguments? text = some (arguments, rest)) :
    ArgumentsReread arguments := by
  intro after left
  cases arguments with
  | nil =>
    have closed : skip (')' :: after) = ')' :: after := rfl
    rw [Expression.renderArguments, List.nil_append, arguments?_nil_iff, closed,
      Expression.areArgumentsLegible]
    simp [eq_comm]
  | cons argument others =>
    have several : argument :: others ≠ [] := List.cons_ne_nil _ _
    obtain ⟨⟨first, tail, shape, notBlank, notClosing⟩, again⟩ :=
      argumentList_reread shorter short ((arguments?_cons_iff several).1 read).2
    have opened : Text.after? [')']
        (skip (Expression.renderArguments (argument :: others) ++ ')' :: after)) = none := by
      have trimmed : skip (first :: (tail ++ ')' :: after)) = first :: (tail ++ ')' :: after) :=
        Text.trimStart_eq_self fun character found => Option.some.inj found ▸ notBlank
      rw [shape, List.cons_append, trimmed]
      simp [Text.after?, notClosing.symm]
    rw [arguments?_cons_iff several, opened, ← again after left]
    simp

/-! ### All rules together -/

/-- An operand is read again when the arguments in it are. -/
theorem operand_rereads (shorter : RereadBelow bound) (short : text.length ≤ bound)
    (read : operand? text = some (expression, rest)) : Rereads expression := by
  obtain ⟨behind, operand, -⟩ := operand?_eq_some_iff.1 read
  have blanks := skip_length text
  generalize skip text = trimmed at operand blanks
  cases operand with
  | string quote read => exact string_rereads quote read
  | number digit read => exact number_rereads (NumberLiteral.read_isWritten digit read)
  | path begins read =>
    obtain ⟨draft, left, taken, ⟨segments, rfl, compiled, -⟩ |
      ⟨inside, receiver, formatter, arguments, rfl, opened, compiled, found⟩⟩ :=
        pathOrCall?_cases read
    · exact path_rereads (PathDraft.segmentsOf_isPath compiled)
    · have dropped := after_shorter opened
      have bounded := readDraft_length taken
      exact call_rereads (PathDraft.compileCall_isCall compiled)
        (arguments_reread shorter (by omega) found)

/-- A right side is read again when its operand and its other items are. -/
theorem right_rereads {operator : BinaryOperator} {left right : Expression}
    (shorter : RereadBelow bound) (short : text.length ≤ bound)
    (read : right? text = some (right, rest)) : RightRereads operator left right := by
  rcases right?_shape read with isOperand | ⟨items, rfl⟩
  · have found := ((right?_operand_iff isOperand).1 read).1
    exact .of_operand isOperand (operand_rereads shorter short found)
  · obtain ⟨first, others, next, rfl, found, more⟩ := right?_sequence_iff.1 read
    have dropped := operand?_length found
    simp only [List.length_cons] at dropped
    exact .of_sequence (operand?_isOperand found).1 (operand_rereads shorter short found)
      (shorter (by omega) more)

/-- A chain is read again: its operand is, and with each operator behind it what is before that
operator. -/
theorem chain_rereads (shorter : RereadBelow bound) (short : text.length ≤ bound)
    (chain : Chains text expression rest) : Rereads expression := by
  induction chain with
  | operand read => exact operand_rereads shorter short read
  | invert chain found induction =>
    exact induction.invert fun after => chain.admits_of_operator (by simp [found]) (.mark after)
  | binary chain found read induction =>
    have dropped := chain.length
    have taken := Machine.readOperator_length found
    exact induction.binary (fun after ends => chain.admits_of_operator (by simp [found]) ends)
      (right_rereads shorter (by omega) read)

/-- A single item is read again when its chain is. -/
theorem ItemsReread.single (reread : Rereads expression) : ItemsReread [expression] := by
  have written : Expression.renderItems [expression] = expression.render := by
    rw [Expression.renderItems]
  refine ⟨written ▸ reread.framed, fun {after} rest closes => ?_⟩
  obtain ⟨trimmed, dotless, plain⟩ := closes.plain
  have again := reread.again rest (expression.admits_of_closes closes)
  rw [trimmed, expression.stays_of_ends (.closes closes)] at again
  rw [written, itemList?_single_iff, chain?_eq_some_iff, again, Expression.areItemsLegible]
  constructor
  · rintro ⟨⟨⟨⟨legible, -⟩, same⟩, -⟩, -⟩
    exact ⟨legible, same⟩
  · rintro ⟨legible, rfl⟩
    exact ⟨⟨⟨⟨legible, rfl⟩, rfl⟩, plain⟩, dotless⟩

/-- Several items are read again when the first is complete before the dot. -/
theorem ItemsReread.cons {first : Expression} {others : List Expression} (here : Rereads first)
    (admits : ∀ after, Continues after → first.Admits after) (later : ItemsReread others) :
    ItemsReread (first :: others) := by
  refine ⟨framed_items here later, fun {after} rest closes => ?_⟩
  rw [← here.dotted_iff admits later closes, renderItems_cons first later.nonempty,
    List.append_assoc, List.cons_append, itemList?_cons_iff later.nonempty]
  constructor
  · rintro ⟨next, chain, more⟩
    exact ⟨next, (chain?_eq_some_iff.1 chain).1, more⟩
  · rintro ⟨next, chain, more⟩
    exact ⟨next, chain?_eq_some_iff.2 ⟨chain, rfl⟩, more⟩

/-- Items that are read are read again when those of shorter texts are. -/
theorem items_reread_below (shorter : RereadBelow bound) (short : text.length ≤ bound)
    (read : itemList? text = some (items, rest)) : ItemsReread items := by
  cases items with
  | nil => exact absurd rfl (itemList?_nonempty read)
  | cons first others =>
    by_cases several : others = []
    · rw [several] at read ⊢
      have chain := (chain?_eq_some_iff.1 (itemList?_single_iff.1 read).1).1
      exact .single (chain_rereads shorter short chain)
    · obtain ⟨next, here, more⟩ := (itemList?_cons_iff several).1 read
      have chain := (chain?_eq_some_iff.1 here).1
      have dropped := chain.length
      simp only [List.length_cons] at dropped
      exact .cons (chain_rereads shorter short chain)
        (fun after continues => chain.admits_of_dot continues) (shorter (by omega) more)

/-- Items that are read are read again from their written form, exactly when they are legible. -/
theorem items_reread (read : itemList? text = some (items, rest)) : ItemsReread items := by
  have below (bound : Nat) : RereadBelow bound := by
    induction bound with
    | zero => exact fun short => absurd short (Nat.not_lt_zero _)
    | succ bound induction =>
      exact fun short read => items_reread_below induction (Nat.lt_succ_iff.1 short) read
  exact below (text.length + 1) (Nat.lt_succ_self _) read

end Grammar

end Bracework
