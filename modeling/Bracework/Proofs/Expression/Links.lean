import Bracework.Proofs.Expression.Rules

/-!
# What each rule gives

A rule that gives a value leaves no doubt how it came to it: from the shape of the value follows
which branch of the rule was taken, and what its parts were read from. Each rule is described here
by one equivalence for each shape of its value.

The operators behind an operand are read one after the other, the expression so far being the left
side of the next. An expression is therefore complete at one place of the text only, and that is
where its own last operator has been read.
-/

namespace Bracework

/-- A digit belongs to names, and begins nothing but a number. -/
theorem digit_plain {character : Char} (digit : isDigit character = true) :
    isNameChar character = true ∧ isQuote character = false ∧ beginsPath character = false := by
  have bounds : 48 ≤ character.toNat ∧ character.toNat ≤ 57 := by
    simpa [isDigit, Char.isDigit, UInt32.le_iff_toNat_le] using digit
  have ascii : character.toNat < 0x80 := by omega
  have letter : isLetter character = false := by
    rw [isLetter, if_pos ascii]
    apply Bool.eq_false_iff.2
    intro alpha
    have atLeast : 'A'.val ≤ character.val ∨ 'a'.val ≤ character.val := by
      rcases Bool.or_eq_true_iff.1 alpha with upper | lower
      · have cased : 'A'.val ≤ character.val ∧ character.val ≤ 'Z'.val := of_decide_eq_true upper
        exact Or.inl cased.1
      · have cased := Bool.and_eq_true_iff.1
          (show (decide ('a'.val ≤ character.val) && decide (character.val ≤ 'z'.val)) from lower)
        exact Or.inr (of_decide_eq_true cased.1)
    have outside : 65 ≤ character.toNat ∨ 97 ≤ character.toNat :=
      atLeast.imp UInt32.le_iff_toNat_le.1 UInt32.le_iff_toNat_le.1
    omega
  have other (mark : Char) (outside : isDigit mark = false) : character ≠ mark := by
    rintro rfl
    rw [outside] at digit
    cases digit
  refine ⟨?_, ?_, ?_⟩
  · have alphanumeric : character.isDigit = true := digit
    simp [isNameChar, isLetterOrNumber, ascii, Char.isAlphanum, alphanumeric]
  · simp [isQuote, other '\'' rfl, other '"' rfl]
  · simp [beginsPath, letter, other '_' rfl, other '.' rfl,
      other '~' rfl, other '$' rfl, other '?' rfl]

/-- A character that begins a path begins no literal. -/
theorem beginsPath_plain {character : Char} (begins : beginsPath character = true) :
    isQuote character = false ∧ isDigit character = false := by
  constructor
  · apply Bool.eq_false_iff.2
    intro quote
    simp only [isQuote, Bool.or_eq_true, beq_iff_eq] at quote
    rcases quote with rfl | rfl
    · cases begins
    · cases begins
  · apply Bool.eq_false_iff.2
    intro digit
    rw [(digit_plain digit).2.2] at begins
    cases begins

/-- An operand: neither a sequence nor an operation. -/
def Expression.IsOperand : Expression → Prop
  | .sequence _ => False
  | .binary _ _ _ => False
  | .invert _ => False
  | _ => True

namespace Grammar

variable {text rest after : Text} {expression left right : Expression} {operator : BinaryOperator}

/-! ### What is left -/

/-- What is left behind a value has the property that its rule proves of it. -/
theorem bare_property {value : Type} {property : Text → Prop} {found : value}
    {reading : Option (value × { rest : Text // property rest })}
    (read : bare reading = some (found, rest)) : property rest := by
  obtain ⟨⟨_, behind⟩, -, same⟩ := Option.map_eq_some_iff.1 read
  cases same
  exact behind.property

/-- An operand takes at least one character. -/
theorem operand?_length (read : operand? text = some (expression, rest)) :
    rest.length < text.length := bare_property read

/-- The right side of an operator takes at least one character. -/
theorem right?_length (read : right? text = some (expression, rest)) :
    rest.length < text.length := bare_property read

/-- An argument takes at least one character. -/
theorem argument?_length {argument : Argument Expression}
    (read : argument? text = some (argument, rest)) : rest.length < text.length :=
  bare_property read

/-- Blanks before an operand do not count. -/
theorem operand?_skip (text : Text) : operand? (skip text) = operand? text := by
  rw [operand?_eq, operand?_eq, skip_skip]

/-- Blanks before the right side of an operator do not count. -/
theorem right?_skip (text : Text) : right? (skip text) = right? text := by
  rw [right?_eq, right?_eq, operand?_skip]

/-- Blanks before an argument do not count. -/
theorem argument?_skip (text : Text) : argument? (skip text) = argument? text := by
  rw [argument?_eq, argument?_eq, skip_skip]

/-- Blanks before arguments do not count. -/
theorem argumentList?_skip (text : Text) : argumentList? (skip text) = argumentList? text := by
  rw [argumentList?_eq, argumentList?_eq, argument?_skip]

/-! ### Operands -/

/-- How an operand is read from where it begins: its first character says whether it is a string, a
number, or a path. -/
inductive OperandRead : Text → Expression → Text → Prop
  | string {first : Char} {tail behind : Text} {literal : StringLiteral}
      (quote : isQuote first = true)
      (read : StringLiteral.read (first :: tail) = .ok (literal, behind)) :
      OperandRead (first :: tail) (.string literal) behind
  | number {first : Char} {tail behind : Text} {literal : NumberLiteral}
      (digit : isDigit first = true)
      (read : NumberLiteral.read (first :: tail) = .ok (literal, behind)) :
      OperandRead (first :: tail) (.number literal) behind
  | path {first : Char} {tail behind : Text} {expression : Expression}
      (begins : beginsPath first = true)
      (read : pathOrCall? (first :: tail) = some (expression, behind)) :
      OperandRead (first :: tail) expression behind

/-- An operand is read from its first character on, and the blanks behind it are dropped. -/
theorem operand?_eq_some_iff : operand? text = some (expression, rest) ↔
    ∃ behind, OperandRead (skip text) expression behind ∧ rest = skip behind := by
  rw [operand?_eq]
  cases skip text with
  | nil =>
    constructor
    · intro found
      cases found
    · rintro ⟨behind, operand, -⟩
      cases operand
  | cons first tail =>
    dsimp only
    constructor
    · intro found
      split at found
      · rename_i quote
        split at found
        · cases found
        · rename_i literal behind read
          cases found
          exact ⟨behind, .string quote read, rfl⟩
      · split at found
        · rename_i digit
          split at found
          · cases found
          · rename_i literal behind read
            cases found
            exact ⟨behind, .number digit read, rfl⟩
        · split at found
          · rename_i begins
            obtain ⟨⟨value, behind⟩, read, same⟩ := Option.map_eq_some_iff.1 found
            cases same
            exact ⟨behind, .path begins read, rfl⟩
          · cases found
    · rintro ⟨behind, operand, rfl⟩
      cases operand with
      | string quote read => simp only [quote, if_true, read]
      | number digit read =>
        simp only [(digit_plain digit).2.1, digit, read]
        rfl
      | path begins read =>
        obtain ⟨notQuote, notDigit⟩ := beginsPath_plain begins
        simp only [notQuote, notDigit, begins, if_true, read]
        rfl

/-- What a path begins is a path or a call. -/
theorem pathOrCall?_cases (read : pathOrCall? text = some (expression, rest)) :
    ∃ draft behind, readDraft PathDraft.empty text = some (draft, behind) ∧
      ((∃ segments, expression = .path segments ∧ draft.compile = .ok segments ∧ rest = behind) ∨
        ∃ inside receiver formatter arguments, expression = .call receiver formatter arguments ∧
          Text.after? ['('] behind = some inside ∧
          draft.compileCall = .ok (receiver, formatter) ∧
          arguments? inside = some (arguments, rest)) := by
  rw [pathOrCall?_eq] at read
  split at read
  · cases read
  · rename_i draft behind taken
    refine ⟨draft, behind, taken, ?_⟩
    split at read
    · rename_i inside opened
      split at read
      · cases read
      · rename_i receiver formatter compiled
        obtain ⟨⟨arguments, last⟩, found, same⟩ := Option.map_eq_some_iff.1 read
        cases same
        exact Or.inr ⟨inside, receiver, formatter, arguments, rfl, opened, compiled, found⟩
    · split at read
      · cases read
      · rename_i segments compiled
        cases read
        exact Or.inl ⟨segments, rfl, compiled, rfl⟩

/-- What a path begins has the shape of a path or of a call. -/
theorem pathOrCall?_shape (read : pathOrCall? text = some (expression, rest)) :
    (∃ segments, expression = .path segments) ∨
      ∃ receiver formatter arguments, expression = .call receiver formatter arguments := by
  obtain ⟨draft, behind, -, ⟨segments, path, -⟩ | ⟨_, receiver, formatter, arguments, call, -⟩⟩ :=
    pathOrCall?_cases read
  · exact Or.inl ⟨segments, path⟩
  · exact Or.inr ⟨receiver, formatter, arguments, call⟩

/-- What is read as an operand is one, and leaves no blank. -/
theorem operand?_isOperand (read : operand? text = some (expression, rest)) :
    expression.IsOperand ∧ skip rest = rest := by
  obtain ⟨behind, operand, rfl⟩ := operand?_eq_some_iff.1 read
  refine ⟨?_, skip_skip behind⟩
  generalize skip text = trimmed at operand
  cases operand with
  | string => trivial
  | number => trivial
  | path begins read =>
    obtain ⟨segments, rfl⟩ | ⟨receiver, formatter, arguments, rfl⟩ := pathOrCall?_shape read
    · trivial
    · trivial

/-! ### Chains -/

/-- An operand and some of the operators behind it, each with all before it as its left side. -/
inductive Chains (text : Text) : Expression → Text → Prop
  | operand {expression : Expression} {rest : Text}
      (read : operand? text = some (expression, rest)) : Chains text expression rest
  | invert {expression : Expression} {rest next : Text} (chain : Chains text expression rest)
      (found : Operator.read? rest = some (.invert, next)) :
      Chains text (.invert expression) (skip next)
  | binary {left right : Expression} {operator : BinaryOperator} {rest next after : Text}
      (chain : Chains text left rest)
      (found : Operator.read? rest = some (.binary operator, next))
      (read : right? next = some (right, after)) :
      Chains text (.binary operator left right) after

/-- The operators that are read behind an operand continue its chain up to where no operator
stands. -/
theorem Chains.links {left : Expression} {rest : Text} (chain : Chains text left rest)
    (read : links? left rest = some (expression, after)) :
    Chains text expression after ∧ Operator.read? after = none := by
  rw [links?_eq] at read
  split at read
  · rename_i ended
    cases read
    exact ⟨chain, ended⟩
  · rename_i next found
    have dropped := Machine.readOperator_length found
    have blanks := skip_length next
    exact (chain.invert found).links read
  · rename_i operator next found
    have dropped := Machine.readOperator_length found
    split at read
    · cases read
    · rename_i right behind readRight
      have shorter := right?_length readRight
      exact (chain.binary found readRight).links read
termination_by rest.length

/-- A part of a chain is read on from where it ends. -/
theorem Chains.readOn (chain : Chains text expression rest) :
    chain? text = links? expression rest := by
  induction chain with
  | operand read => simp only [chain?_eq, read]
  | invert chain found induction =>
    rw [induction, links?_eq]
    simp only [found]
  | binary chain found read induction =>
    rw [induction, links?_eq]
    simp only [found, read]

/-- A chain is complete where no operator stands. -/
theorem chain?_eq_some_iff : chain? text = some (expression, rest) ↔
    Chains text expression rest ∧ Operator.read? rest = none := by
  constructor
  · intro read
    rw [chain?_eq] at read
    split at read
    · cases read
    · rename_i operand behind found
      exact (Chains.operand found).links read
  · rintro ⟨chain, ended⟩
    rw [chain.readOn, links?_eq]
    simp only [ended]

/-- An operand is a chain where it has been read. -/
theorem chains_operand_iff (isOperand : expression.IsOperand) :
    Chains text expression rest ↔ operand? text = some (expression, rest) := by
  constructor
  · intro chain
    cases chain with
    | operand read => exact read
    | invert => exact isOperand.elim
    | binary => exact isOperand.elim
  · exact .operand

/-- An inverted expression is complete behind its mark and the blanks there. -/
theorem chains_invert_iff : Chains text (.invert expression) rest ↔
    ∃ before next, Chains text expression before ∧
      Operator.read? before = some (.invert, next) ∧ rest = skip next := by
  constructor
  · intro chain
    cases chain with
    | operand read => exact (operand?_isOperand read).1.elim
    | invert chain found => exact ⟨_, _, chain, found, rfl⟩
  · rintro ⟨before, next, chain, found, rfl⟩
    exact .invert chain found

/-- An operation is complete behind the right side of its operator. -/
theorem chains_binary_iff : Chains text (.binary operator left right) rest ↔
    ∃ before next, Chains text left before ∧
      Operator.read? before = some (.binary operator, next) ∧
      right? next = some (right, rest) := by
  constructor
  · intro chain
    cases chain with
    | operand read => exact (operand?_isOperand read).1.elim
    | binary chain found read => exact ⟨_, _, chain, found, read⟩
  · rintro ⟨before, next, chain, found, read⟩
    exact .binary chain found read

/-- No chain is a sequence. -/
theorem Chains.not_sequence {items : List Expression} : ¬Chains text (.sequence items) rest := by
  intro chain
  cases chain with
  | operand read => exact (operand?_isOperand read).1.elim

/-- A chain takes at least one character. -/
theorem Chains.length (chain : Chains text expression rest) : rest.length < text.length := by
  induction chain with
  | operand read => exact operand?_length read
  | @invert expression rest next chain found shorter =>
    have dropped := Machine.readOperator_length found
    have blanks := skip_length next
    omega
  | binary chain found read shorter =>
    have dropped := Machine.readOperator_length found
    have taken := right?_length read
    omega

/-! ### Items and right sides -/

/-- At least one item is read. -/
theorem itemList?_nonempty {items : List Expression} (read : itemList? text = some (items, rest)) :
    items ≠ [] := by
  obtain ⟨⟨found, behind⟩, readItems, same⟩ := Option.map_eq_some_iff.1 read
  cases same
  exact readItems_nonempty readItems

/-- A single item is a chain with no dot behind it. -/
theorem itemList?_single_iff : itemList? text = some ([expression], rest) ↔
    chain? text = some (expression, rest) ∧ Text.after? ['.'] rest = none := by
  rw [itemList?_eq]
  constructor
  · intro found
    split at found
    · cases found
    · rename_i chain behind read
      split at found
      · rename_i next dotted
        obtain ⟨⟨others, last⟩, more, same⟩ := Option.map_eq_some_iff.1 found
        cases same
        exact absurd rfl (itemList?_nonempty more)
      · rename_i missing
        cases found
        exact ⟨read, missing⟩
  · rintro ⟨read, missing⟩
    simp only [read, missing]

/-- Several items are a chain with a dot behind it, and the others behind the dot. -/
theorem itemList?_cons_iff {items : List Expression} (several : items ≠ []) :
    itemList? text = some (expression :: items, rest) ↔
      ∃ next, chain? text = some (expression, '.' :: next) ∧
        itemList? next = some (items, rest) := by
  rw [itemList?_eq]
  constructor
  · intro found
    split at found
    · cases found
    · rename_i chain behind read
      split at found
      · rename_i next dotted
        obtain ⟨⟨others, last⟩, more, same⟩ := Option.map_eq_some_iff.1 found
        cases same
        have shape : behind = '.' :: next := Text.after?_eq_some_iff.1 dotted
        exact ⟨next, by rw [read, shape], more⟩
      · cases found
        exact absurd rfl several
  · rintro ⟨next, read, more⟩
    simp only [read, Text.after?, if_true, more, Option.map_some]

/-- The first item is a chain. -/
theorem itemList?_first {items : List Expression}
    (read : itemList? text = some (expression :: items, rest)) :
    ∃ behind, Chains text expression behind := by
  by_cases several : items = []
  · rw [several] at read
    exact ⟨rest, (chain?_eq_some_iff.1 (itemList?_single_iff.1 read).1).1⟩
  · obtain ⟨next, here, -⟩ := (itemList?_cons_iff several).1 read
    exact ⟨_, (chain?_eq_some_iff.1 here).1⟩

/-- Behind items, neither a dot nor an operator is left. -/
theorem itemList?_closed {items : List Expression} (read : itemList? text = some (items, rest)) :
    Text.after? ['.'] rest = none ∧ Operator.read? rest = none := by
  induction items generalizing text with
  | nil => exact absurd rfl (itemList?_nonempty read)
  | cons first others induction =>
    by_cases several : others = []
    · rw [several] at read
      obtain ⟨chain, dotless⟩ := itemList?_single_iff.1 read
      exact ⟨dotless, (chain?_eq_some_iff.1 chain).2⟩
    · obtain ⟨next, -, more⟩ := (itemList?_cons_iff several).1 read
      exact induction more

/-- No item is a sequence itself. -/
theorem itemList?_not_sequence {items inner : List Expression}
    (read : itemList? text = some (items, rest)) : .sequence inner ∉ items := by
  have other {first : Expression} {text rest : Text} (chain : chain? text = some (first, rest)) :
      .sequence inner ≠ first := by
    rintro rfl
    exact (chain?_eq_some_iff.1 chain).1.not_sequence
  induction items generalizing text with
  | nil => simp
  | cons first others induction =>
    by_cases several : others = []
    · rw [several] at read ⊢
      simpa using other (itemList?_single_iff.1 read).1
    · obtain ⟨next, here, more⟩ := (itemList?_cons_iff several).1 read
      simpa using ⟨other here, induction more⟩

/-- Items that are no sequences are found again in their expression. -/
theorem sequenceOf_injective {items others : List Expression}
    (same : sequenceOf items = sequenceOf others) (plain : ∀ inner, .sequence inner ∉ items)
    (otherPlain : ∀ inner, .sequence inner ∉ others) : items = others := by
  unfold sequenceOf at same
  split at same
  · split at same
    · rw [same]
    · exact absurd (List.mem_singleton.2 same.symm) (plain others)
  · split at same
    · exact absurd (List.mem_singleton.2 same) (otherPlain items)
    · exact Expression.sequence.inj same

/-- An operand is a right side when no dot stands behind it. -/
theorem right?_operand_iff (isOperand : expression.IsOperand) :
    right? text = some (expression, rest) ↔
      operand? text = some (expression, rest) ∧ Text.after? ['.'] rest = none := by
  rw [right?_eq]
  constructor
  · intro found
    split at found
    · cases found
    · rename_i first behind read
      split at found
      · obtain ⟨⟨others, last⟩, more, same⟩ := Option.map_eq_some_iff.1 found
        cases same
        exact isOperand.elim
      · rename_i missing
        cases found
        exact ⟨read, missing⟩
  · rintro ⟨read, missing⟩
    simp only [read, missing]

/-- A sequence is a right side that begins with an operand and has the other items behind a dot. -/
theorem right?_sequence_iff {items : List Expression} :
    right? text = some (.sequence items, rest) ↔
      ∃ first others next, items = first :: others ∧
        operand? text = some (first, '.' :: next) ∧ itemList? next = some (others, rest) := by
  rw [right?_eq]
  constructor
  · intro found
    split at found
    · cases found
    · rename_i first behind read
      split at found
      · rename_i next dotted
        obtain ⟨⟨others, last⟩, more, same⟩ := Option.map_eq_some_iff.1 found
        cases same
        have shape : behind = '.' :: next := Text.after?_eq_some_iff.1 dotted
        exact ⟨first, others, next, rfl, by rw [read, shape], more⟩
      · cases found
        exact (operand?_isOperand read).1.elim
  · rintro ⟨first, others, next, rfl, read, more⟩
    simp only [read, Text.after?, if_true, more, Option.map_some]

/-- A right side is an operand or a sequence. -/
theorem right?_shape (read : right? text = some (expression, rest)) :
    expression.IsOperand ∨ ∃ items, expression = .sequence items := by
  rw [right?_eq] at read
  split at read
  · cases read
  · rename_i first behind found
    split at read
    · obtain ⟨⟨others, last⟩, -, same⟩ := Option.map_eq_some_iff.1 read
      cases same
      exact Or.inr ⟨_, rfl⟩
    · cases read
      exact Or.inl (operand?_isOperand found).1

/-- No dot is left behind a right side. -/
theorem right?_dotless (read : right? text = some (expression, rest)) :
    Text.after? ['.'] rest = none := by
  rcases right?_shape read with isOperand | ⟨items, rfl⟩
  · exact ((right?_operand_iff isOperand).1 read).2
  · obtain ⟨first, others, next, -, -, more⟩ := right?_sequence_iff.1 read
    exact (itemList?_closed more).1

/-! ### Arguments -/

/-- At least one argument is read in a list of arguments. -/
theorem argumentList?_nonempty {arguments : List (Argument Expression)}
    (read : argumentList? text = some (arguments, rest)) : arguments ≠ [] := by
  rintro rfl
  rw [argumentList?_eq] at read
  split at read
  · cases read
  · split at read
    · obtain ⟨found, -, same⟩ := Option.map_eq_some_iff.1 read
      cases same
    · obtain ⟨found, -, same⟩ := Option.map_eq_some_iff.1 read
      cases same

/-- There are no arguments when the bracket closes at once. -/
theorem arguments?_nil_iff : arguments? text = some ([], rest) ↔ skip text = ')' :: rest := by
  rw [arguments?_eq]
  constructor
  · intro found
    split at found
    · rename_i behind closed
      cases found
      exact Text.after?_eq_some_iff.1 closed
    · exact absurd rfl (argumentList?_nonempty found)
  · intro closed
    simp only [closed, Text.after?, if_true]

/-- There are arguments when the bracket does not close at once. -/
theorem arguments?_cons_iff {arguments : List (Argument Expression)} (several : arguments ≠ []) :
    arguments? text = some (arguments, rest) ↔
      Text.after? [')'] (skip text) = none ∧ argumentList? text = some (arguments, rest) := by
  rw [arguments?_eq]
  constructor
  · intro found
    split at found
    · cases found
      exact absurd rfl several
    · rename_i missing
      exact ⟨missing, found⟩
  · rintro ⟨missing, read⟩
    simp only [missing, read]

/-- The last argument has the closing bracket behind it. -/
theorem argumentList?_single_iff {argument : Argument Expression} :
    argumentList? text = some ([argument], rest) ↔
      argument? text = some (argument, ')' :: rest) := by
  rw [argumentList?_eq]
  constructor
  · intro found
    split at found
    · cases found
    · rename_i first behind read
      split at found
      · obtain ⟨⟨others, last⟩, more, same⟩ := Option.map_eq_some_iff.1 found
        cases same
        exact absurd rfl (argumentList?_nonempty more)
      · obtain ⟨last, closed, same⟩ := Option.map_eq_some_iff.1 found
        cases same
        have shape : behind = ')' :: rest := Text.after?_eq_some_iff.1 closed
        rw [read, shape]
  · intro read
    simp [read, Text.after?]

/-- An argument that is not the last has a comma behind it, and then the others. -/
theorem argumentList?_cons_iff {argument : Argument Expression}
    {arguments : List (Argument Expression)} (several : arguments ≠ []) :
    argumentList? text = some (argument :: arguments, rest) ↔
      ∃ next, argument? text = some (argument, ',' :: next) ∧
        argumentList? next = some (arguments, rest) := by
  rw [argumentList?_eq]
  constructor
  · intro found
    split at found
    · cases found
    · rename_i first behind read
      split at found
      · rename_i next separated
        obtain ⟨⟨others, last⟩, more, same⟩ := Option.map_eq_some_iff.1 found
        cases same
        have shape : behind = ',' :: next := Text.after?_eq_some_iff.1 separated
        exact ⟨next, by rw [read, shape], more⟩
      · obtain ⟨last, closed, same⟩ := Option.map_eq_some_iff.1 found
        cases same
        exact absurd rfl several
  · rintro ⟨next, read, more⟩
    simp only [read, Text.after?, if_true, more, Option.map_some]

/-- The value of an argument is what its items stand for. -/
theorem argument?_iff {argument : Argument Expression} :
    argument? text = some (argument, rest) ↔
      ∃ behind items, readName (skip text) = some (argument.name, behind) ∧
        itemList? behind = some (items, rest) ∧ argument.value = sequenceOf items := by
  rw [argument?_eq]
  constructor
  · intro found
    split at found
    · cases found
    · rename_i name behind named
      obtain ⟨⟨items, last⟩, read, same⟩ := Option.map_eq_some_iff.1 found
      cases same
      exact ⟨behind, items, named, read, rfl⟩
  · rintro ⟨behind, items, named, read, value⟩
    simp only [named, read, Option.map_some, ← value]

end Grammar

end Bracework
