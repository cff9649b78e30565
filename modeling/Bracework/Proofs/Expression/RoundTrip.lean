import Mathlib
import Bracework.Expression.Parser
import Bracework.Proofs.Expression.Acceptance
import Bracework.Proofs.Expression.Rereading

/-!
# Round trips of expressions

The written form of an expression that was read is read as the same expression exactly when it is
legible on its own. A text that can be at most a path is taken without the machine, so a path on its
own may begin with any character of a name that is no digit, where the machine asks for a letter.
-/

namespace Bracework

open Grammar

variable {text rest : Text} {expression : Expression} {items : List Expression}

namespace Grammar

/-- A whole text is read as items with nothing behind them. -/
theorem readWhole_eq_some_iff : readWhole text = some expression ↔
    ∃ items, itemList? text = some (items, []) ∧ expression = sequenceOf items := by
  unfold readWhole itemList? bare
  constructor
  · intro read
    split at read
    · rename_i items _ found
      cases read
      exact ⟨items, by rw [found]; rfl, rfl⟩
    · cases read
  · rintro ⟨items, read, rfl⟩
    obtain ⟨⟨found, behind, shorter⟩, same, shape⟩ := Option.map_eq_some_iff.1 read
    cases shape
    rw [same]

/-- Items are read again as a whole text exactly when they are legible. -/
theorem ItemsReread.readWhole_iff (reread : ItemsReread items)
    (plain : ∀ inner, .sequence inner ∉ items) :
    readWhole (Expression.renderItems items) = some (sequenceOf items) ↔
      Expression.areItemsLegible items = true := by
  have again := reread.again [] .nothing
  rw [List.append_nil] at again
  rw [readWhole_eq_some_iff]
  constructor
  · rintro ⟨others, read, same⟩
    obtain rfl : items = others :=
      sequenceOf_injective same plain fun _ => itemList?_not_sequence read
    exact (again.1 read).1
  · intro legible
    exact ⟨items, again.2 ⟨legible, rfl⟩, rfl⟩

end Grammar

namespace Expression

/-! ### How a text on its own is read -/

/-- Whether a text is taken as a path, without the machine. -/
def isBarePath (text : Text) : Bool := isPlain text && !text.head?.any isDigit

/-- A text that is taken as a path is read when its characters are taken and make a path. -/
theorem readTrimmed_bare (isBare : isBarePath text = true) :
    readTrimmed text = .ok expression ↔ ∃ draft segments,
      takePath PathDraft.empty text = .ok draft ∧ draft.compile = .ok segments ∧
        expression = .path segments := by
  obtain ⟨plain, digit⟩ : isPlain text = true ∧ text.head?.any isDigit = false := by
    simpa [isBarePath] using isBare
  rw [readTrimmed, if_pos plain, readPlain, if_neg (by simp [digit])]
  cases takePath PathDraft.empty text with
  | error refusal => simp [bind, Except.bind]
  | ok draft =>
    cases compiled : draft.compile with
    | error fault => simp [bind, Except.bind, compiled]
    | ok segments => simp [bind, Except.bind, compiled, pure, Except.pure, eq_comm]

/-- Any other text is read by the grammar. -/
theorem readTrimmed_other (other : isBarePath text = false) :
    readTrimmed text = .ok expression ↔ readWhole text = some expression := by
  have run : (Machine.start text).run = .ok expression ↔ readWhole text = some expression := by
    rw [← Machine.outcome_eq_some_iff, Machine.outcome_start]
  unfold readTrimmed
  split
  · rename_i plain
    have digit : text.head?.any isDigit = true := by simpa [isBarePath, plain] using other
    rw [readPlain, if_pos digit]
    split
    · rename_i fault refused
      have unread : operand? text = none := by
        apply Option.eq_none_iff_forall_ne_some.2
        rintro ⟨operand, rest⟩ read
        obtain ⟨literal, behind, -, found, -⟩ := (operand?_number_iff digit).1 read
        rw [refused] at found
        cases found
      have none : readWhole text = none := by
        apply Option.eq_none_iff_forall_ne_some.2
        intro found read
        obtain ⟨items, readItems, -⟩ := readWhole_eq_some_iff.1 read
        rw [itemList?_eq, chain?_eq, unread] at readItems
        cases readItems
      rw [none]
      simp
    · rename_i literal found
      have operand : operand? text = some (.number literal, []) :=
        (operand?_number_iff digit).2 ⟨literal, [], rfl, found, rfl⟩
      have item : itemList? text = some ([.number literal], []) :=
        itemList?_single_iff.2 ⟨chain?_eq_some_iff.2 ⟨.operand operand, rfl⟩, rfl⟩
      rw [readWhole_eq_some_iff.2 ⟨_, item, rfl⟩]
      simp [sequenceOf]
    · exact run
  · exact run

/-- A text is read without the blanks around it. -/
theorem parse_eq_ok_iff : parse text = .ok expression ↔
    readTrimmed text.trimBlanks = .ok expression := by
  have empty (found : Expression) : readTrimmed [] ≠ .ok found := by
    intro read
    obtain ⟨draft, segments, taken, compiled, -⟩ := (readTrimmed_bare rfl).1 read
    cases taken
    cases compiled
  have located : (Located.parse ⟨text, 0⟩).expression = (parseAt text).toOption := by
    rw [Located.parse]
    cases parseAt text <;> rfl
  have trimmed : (parseAt text).toOption = (readTrimmed text.trimBlanks).toOption := by
    unfold parseAt
    by_cases none : text.trimBlanks = []
    · rw [none, if_pos rfl]
      cases read : readTrimmed [] with
      | error => rfl
      | ok found => exact absurd read (empty found)
    · rw [if_neg none]
      cases readTrimmed text.trimBlanks <;> rfl
  unfold parse
  dsimp only
  rw [located, trimmed]
  cases readTrimmed text.trimBlanks with
  | error => simp [Except.toOption]
  | ok found => simp [Except.toOption]

/-! ### Written forms on their own -/

/-- A text is taken as a path when it has no bracket and no operator, and begins with no quote and
no digit. -/
theorem isBarePath_iff : isBarePath text = true ↔ '(' ∉ text ∧
    (∀ character ∈ text, isOperatorChar character = false) ∧ text.head?.any isQuote = false ∧
      text.head?.any isDigit = false := by
  simp [isBarePath, isPlain, and_assoc]

/-- The characters of a path are taken as a path, unless one belongs to an operator or the first is
a digit. -/
theorem isBarePath_of_chars (chars : ∀ character ∈ text, isPathChar character = true)
    (plain : ∀ character ∈ text, isOperatorChar character = false)
    (digit : text.head?.any isDigit = false) : isBarePath text = true := by
  refine isBarePath_iff.2 ⟨fun member => ?_, plain, ?_, digit⟩
  · have isChar := chars '(' member
    revert isChar
    decide
  · apply Bool.eq_false_iff.2
    intro quote
    obtain ⟨first, rest, rfl, isFirst⟩ := exists_cons_of_head quote
    have isChar := chars first (List.mem_cons_self ..)
    simp only [isQuote, Bool.or_eq_true, beq_iff_eq] at isFirst
    revert isChar
    rcases isFirst with rfl | rfl <;> decide

/-- The characters of named segments belong to no operator. -/
theorem renderAll_named {named : List Segment} (areNamed : ∀ segment ∈ named, segment.IsNamed) :
    ∀ character ∈ Segment.renderAll named, isOperatorChar character = false := by
  have name (segment : Segment) (isNamed : segment.IsNamed) :
      ∀ character ∈ segment.name, isOperatorChar character = false := by
    cases isNamed with
    | member nonempty chars =>
      exact fun character member => (nameChar_plain (List.all_eq_true.1 chars _ member)).1
    | enclosing => exact List.forall_mem_singleton.2 rfl
    | current => exact List.forall_mem_singleton.2 rfl
  have after (previous : Text) (dotted : Segment.separatorAfter previous = ['.'])
      (rest : List Segment) (areNamed : ∀ segment ∈ rest, segment.IsNamed) :
      ∀ character ∈ Segment.renderAfter previous rest, isOperatorChar character = false := by
    induction rest generalizing previous with
    | nil => simp [Segment.renderAfter]
    | cons segment rest induction =>
      obtain ⟨here, later⟩ := List.forall_mem_cons.1 areNamed
      rw [Segment.renderAfter, dotted]
      intro character member
      rcases List.mem_append.1 member with first | last
      · rcases List.mem_cons.1 first with rfl | inName
        · rfl
        · exact name segment here character inName
      · exact induction segment.name (Segment.separatorAfter_named here) later character last
  cases named with
  | nil => simp [Segment.renderAll]
  | cons segment rest =>
    obtain ⟨here, later⟩ := List.forall_mem_cons.1 areNamed
    intro character member
    rcases List.mem_append.1 member with inName | last
    · exact name segment here character inName
    · exact after _ (Segment.separatorAfter_named here) rest later character last

/-- A path with an operator's character in it, a slash, begins with a step. -/
theorem opensPath_or_plain {segments : List Segment} (isPath : Segment.IsPath segments) :
    opensPath (Segment.renderAll segments) = true ∨
      ∀ character ∈ Segment.renderAll segments, isOperatorChar character = false := by
  cases isPath with
  | current => exact Or.inl rfl
  | @steps root named isRoot count areNamed nonempty =>
    rcases isRoot with rfl | rfl
    · cases count with
      | zero => exact Or.inr (renderAll_named areNamed)
      | succ count => exact Or.inl rfl
    · exact Or.inl rfl

/-- A path on its own is read again when its first character is no digit and its dots are
written. -/
theorem parse_render_path {segments : List Segment} (isPath : Segment.IsPath segments) :
    parse (Expression.path segments).render = .ok (.path segments) ↔
      (Expression.path segments).readsAlone = true := by
  have reread := path_rereads isPath
  have takes := PathDraft.takes_renderAll isPath
  have written : (Expression.path segments).render = Segment.renderAll segments := by
    rw [Expression.render]
  rw [parse_eq_ok_iff, reread.framed.trimBlanks_eq, written, readsAlone, Bool.and_eq_true,
    Bool.not_eq_true', Bool.not_eq_true', decide_eq_false_iff_not]
  cases isBare : isBarePath (Segment.renderAll segments) with
  | true =>
    obtain ⟨-, -, -, digit⟩ := isBarePath_iff.1 isBare
    rw [readTrimmed_bare isBare]
    constructor
    · rintro ⟨draft, found, taken, compiled, same⟩
      cases same
      rw [takes.takePath] at taken
      cases taken
      exact ⟨digit, fun loses => PathDraft.segmentsOf_losesDot loses segments compiled⟩
    · rintro ⟨-, keeps⟩
      exact ⟨_, segments, takes.takePath, PathDraft.segmentsOf_renderAll isPath keeps, rfl⟩
  | false =>
    have legible := (ItemsReread.single reread).readWhole_iff (by simp)
    rw [renderItems, written, areItemsLegible, isLegible, Bool.and_eq_true, Bool.not_eq_true',
      decide_eq_false_iff_not] at legible
    have opens : opensPath (Segment.renderAll segments) = true ↔
        (Segment.renderAll segments).head?.any isDigit = false := by
      constructor
      · intro opens
        obtain ⟨first, rest, shape, begins⟩ := exists_cons_of_head opens
        rw [shape]
        exact (beginsPath_plain begins).2
      · intro digit
        rcases opensPath_or_plain isPath with opens | plain
        · exact opens
        · have bare := isBarePath_of_chars takes.chars plain digit
          rw [isBare] at bare
          cases bare
    rw [opens] at legible
    rw [readTrimmed_other isBare]
    exact legible

/-- What neither a quote nor a digit begins is no literal. -/
theorem operand?_no_literal (trimmed : skip text = text) (quote : text.head?.any isQuote = false)
    (digit : text.head?.any isDigit = false) (read : operand? text = some (expression, rest)) :
    (∀ literal, expression ≠ .string literal) ∧ ∀ literal, expression ≠ .number literal := by
  obtain ⟨behind, operand, -⟩ := operand?_eq_some_iff.1 read
  rw [trimmed] at operand
  cases operand with
  | string isQuote =>
    rw [List.head?_cons, Option.any_some, isQuote] at quote
    cases quote
  | number isDigit =>
    rw [List.head?_cons, Option.any_some, isDigit] at digit
    cases digit
  | path begins read =>
    obtain ⟨segments, rfl⟩ | ⟨receiver, formatter, arguments, rfl⟩ := pathOrCall?_shape read
    · exact ⟨by simp, by simp⟩
    · exact ⟨by simp, by simp⟩

/-- Items that are legible and no path are not taken as a path. -/
theorem isBarePath_of_legible (reread : ItemsReread items)
    (plain : ∀ inner, .sequence inner ∉ items)
    (other : ∀ segments, sequenceOf items ≠ .path segments)
    (legible : areItemsLegible items = true) : isBarePath (renderItems items) = false := by
  obtain ⟨others, read, same⟩ :=
    readWhole_eq_some_iff.1 ((reread.readWhole_iff plain).2 legible)
  obtain rfl : items = others :=
    sequenceOf_injective same plain fun _ => itemList?_not_sequence read
  apply Bool.eq_false_iff.2
  intro bare
  obtain ⟨uncalled, noOperator, noQuote, noDigit⟩ := isBarePath_iff.1 bare
  cases items with
  | nil => exact itemList?_nonempty read rfl
  | cons first others =>
    have inside : ∀ character ∈ first.render, character ∈ renderItems (first :: others) := by
      intro character member
      cases others with
      | nil => rwa [renderItems]
      | cons second others =>
        rw [renderItems]
        exact List.mem_append_left _ (List.mem_append_left _ member)
    obtain ⟨behind, chain⟩ := itemList?_first read
    have unquoted {left : Text}
        (read : operand? (renderItems (first :: others)) = some (first, left)) :=
      operand?_no_literal (skip_operand reread.framed.begins) noQuote noDigit read
    cases first with
    | path segments =>
      -- alone it would be the whole expression, and a dot behind it would make it longer
      cases others with
      | nil => exact other segments rfl
      | cons second others =>
        rw [areItemsLegible, stays, Bool.and_false, Bool.false_and] at legible
        cases legible
    | call receiver formatter arguments =>
      exact uncalled (inside '(' (by simp [render]))
    | number literal =>
      have isOperand : (Expression.number literal).IsOperand := trivial
      exact (unquoted ((chains_operand_iff isOperand).1 chain)).2 literal rfl
    | string literal =>
      have isOperand : (Expression.string literal).IsOperand := trivial
      exact (unquoted ((chains_operand_iff isOperand).1 chain)).1 literal rfl
    | sequence inner => exact plain inner (List.mem_cons_self ..)
    | binary operator left right =>
      obtain ⟨mark, member, isMark⟩ : ∃ mark ∈ operator.symbol, isOperatorChar mark = true := by
        cases operator <;> exact ⟨_, List.mem_cons_self .., rfl⟩
      rw [noOperator mark (inside mark (by simp [render, member]))] at isMark
      cases isMark
    | invert operand =>
      have mark := noOperator '!' (inside '!' (by simp [render]))
      cases mark

/-- A path that is read as a whole text is one that may be read. -/
theorem isPath_of_read {segments : List Segment} (read : itemList? text = some (items, rest))
    (single : sequenceOf items = .path segments) : Segment.IsPath segments := by
  have item : items = [.path segments] := by
    unfold sequenceOf at single
    split at single
    · rw [single]
    · cases single
  rw [item] at read
  obtain ⟨behind, chain⟩ := itemList?_first read
  have isOperand : (Expression.path segments).IsOperand := trivial
  obtain ⟨left, operand, -⟩ := operand?_eq_some_iff.1 ((chains_operand_iff isOperand).1 chain)
  generalize skip text = trimmed at operand
  cases operand with
  | path begins read =>
    obtain ⟨draft, left, -, ⟨found, same, compiled, -⟩ | ⟨_, _, _, _, call, -⟩⟩ :=
      pathOrCall?_cases read
    · cases same
      exact PathDraft.segmentsOf_isPath compiled
    · cases call

/-- Reading the written form of an expression that was read gives the same expression, exactly when
the expression is legible on its own.

A path on its own is taken character by character in both readings. Anything else was read by the
grammar, and its items are read again exactly when they are legible; what has to be excluded is that
their written form is taken as a path. -/
theorem parse_render_iff (read : parse text = .ok expression) :
    parse expression.render = .ok expression ↔ expression.readsAlone = true := by
  rw [parse_eq_ok_iff] at read
  cases isBare : isBarePath text.trimBlanks with
  | true =>
    obtain ⟨draft, segments, -, compiled, rfl⟩ := (readTrimmed_bare isBare).1 read
    exact parse_render_path (PathDraft.segmentsOf_isPath compiled)
  | false =>
    obtain ⟨items, found, rfl⟩ := readWhole_eq_some_iff.1 ((readTrimmed_other isBare).1 read)
    have reread := items_reread found
    by_cases isPath : ∃ segments, sequenceOf items = .path segments
    · obtain ⟨segments, single⟩ := isPath
      rw [single]
      exact parse_render_path (isPath_of_read found single)
    · have other : ∀ segments, sequenceOf items ≠ .path segments :=
        fun segments same => isPath ⟨segments, same⟩
      have plain (inner : List Expression) : .sequence inner ∉ items := itemList?_not_sequence found
      have alone : (sequenceOf items).readsAlone = areItemsLegible items := by
        rw [← isLegible_sequenceOf]
        unfold readsAlone
        split
        · rename_i segments same
          exact absurd same (other segments)
        · rfl
      rw [parse_eq_ok_iff, render_sequenceOf, reread.framed.trimBlanks_eq, alone]
      cases bare : isBarePath (renderItems items) with
      | true =>
        constructor
        · intro again
          obtain ⟨draft, segments, -, -, same⟩ := (readTrimmed_bare bare).1 again
          exact absurd same (other segments)
        · intro legible
          rw [isBarePath_of_legible reread plain other legible] at bare
          cases bare
      | false => rw [readTrimmed_other bare, reread.readWhole_iff plain]

/-- A sequence with a call, an operator, a mark and a string with its own quote in it. -/
theorem parse_render_sequence : ∃ expression,
    parse "~a.f( ../b,[ n ]'it\\'s') +1 !.c" = .ok expression ∧
      expression.render = "~a.f(../b, [n]'it\\'s') + 1!.c" ∧
      parse expression.render = .ok expression := by
  have read : parse "~a.f( ../b,[ n ]'it\\'s') +1 !.c" = .ok (.sequence
      [.invert (.binary .add
        (.call [Segment.outermost, ⟨"a", .data⟩] "f"
          [⟨none, .path [Segment.enclosing, ⟨"b", .data⟩]⟩, ⟨some "n", .string ⟨"it's", '\''⟩⟩])
        (.number ⟨"1", .integer 1⟩)),
      .path [⟨"c", .data⟩]]) := by
    cbv
  exact ⟨_, read, by cbv, (parse_render_iff read).2 (by cbv)⟩

/-- Without the dot before it, a name of digits is a number. -/
theorem parse_render_leading_dot :
    let path : Expression := .path [⟨"1", .data⟩]
    parse ".1" = .ok path ∧ parse path.render = .ok (.number ⟨"1", .integer 1⟩) ∧
      parse path.render ≠ .ok path := by
  intro path
  have again : parse path.render = .ok (.number ⟨"1", .integer 1⟩) := rfl
  refine ⟨rfl, again, ?_⟩
  rw [again]
  simp [path]

end Expression

end Bracework
