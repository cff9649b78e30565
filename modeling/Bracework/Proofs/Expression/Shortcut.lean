import Bracework.Proofs.Expression.Refusal
import Bracework.Proofs.Expression.RoundTrip

/-!
# The shortcut for plain texts

A text without a call, an operator and a leading quote is read without the machine: as a number when
it begins with a digit, and otherwise as a path, character by character. Where both ways accept such
a text they agree on its meaning, but there are texts that only one of them accepts:

    ²       taken as a path, since every character of a name may stand in one; the machine asks
            for a character that begins a path
    a .b    refused, since a path has no blank in it; the machine reads two paths

A text is told from these two by its first character and by the operands in it, so it can be said
exactly when the shortcut changes nothing.
-/

namespace Bracework

open Grammar

variable {text rest : Text} {expression : Expression} {items : List Expression}

/-! ### Plain texts in the grammar -/

/-- A symbol begins with a character of operators. -/
theorem Operator.read?_head {operator : Operator}
    (found : Operator.read? text = some (operator, rest)) :
    ∃ mark ∈ text, isOperatorChar mark = true := by
  obtain ⟨candidate, -, matched⟩ := List.exists_of_findSome?_eq_some found
  obtain ⟨behind, rested, same⟩ := Option.map_eq_some_iff.1 matched
  cases same
  have whole := Text.after?_eq_some_iff.1 rested
  have symbol : ∃ mark ∈ operator.symbol, isOperatorChar mark = true := by
    cases operator with
    | invert => exact ⟨'!', List.mem_cons_self .., rfl⟩
    | binary operator => cases operator <;> exact ⟨_, List.mem_cons_self .., rfl⟩
  obtain ⟨mark, member, isMark⟩ := symbol
  exact ⟨mark, whole ▸ List.mem_append_left _ member, isMark⟩

namespace Grammar

/-- Dropping blanks leaves a suffix. -/
theorem skip_suffix (text : Text) : skip text <:+ text := List.dropWhile_suffix isBlank

/-- Where no call is written, an operand leaves a suffix of the text. -/
theorem operand?_suffix (uncalled : '(' ∉ text)
    (read : operand? text = some (expression, rest)) : rest <:+ text := by
  obtain ⟨behind, operand, rfl⟩ := operand?_eq_some_iff.1 read
  have trimmed := skip_suffix text
  refine (skip_suffix behind).trans (List.IsSuffix.trans ?_ trimmed)
  generalize skip text = left at operand trimmed
  cases operand with
  | string quote found => exact StringLiteral.read_suffix found
  | number digit found => exact NumberLiteral.read_suffix found
  | path begins found =>
    obtain ⟨draft, after, taken, branch⟩ := pathOrCall?_cases found
    obtain ⟨path, -, whole⟩ := readDraft_taken taken
    rcases branch with ⟨segments, -, -, rfl⟩ | ⟨inside, _, _, _, -, opened, -⟩
    · exact ⟨path, whole.symm⟩
    · have call : '(' ∈ after := Text.after?_eq_some_iff.1 opened ▸ List.mem_cons_self ..
      exact absurd (trimmed.subset (whole ▸ List.mem_append_right path call)) uncalled

/-- A text without a call and without an operator. -/
structure Unmarked (text : Text) : Prop where
  uncalled : '(' ∉ text
  noOperator : ∀ character ∈ text, isOperatorChar character = false

/-- What is left of such a text is one. -/
theorem Unmarked.of_suffix (unmarked : Unmarked text) (behind : rest <:+ text) :
    Unmarked rest :=
  ⟨fun call => unmarked.uncalled (behind.subset call),
    fun character member => unmarked.noOperator character (behind.subset member)⟩

/-- Such a text has no operators to read. -/
theorem Unmarked.read?_none (unmarked : Unmarked text) : Operator.read? text = none := by
  apply Option.eq_none_iff_forall_ne_some.2
  rintro ⟨operator, after⟩ found
  obtain ⟨mark, member, isMark⟩ := Operator.read?_head found
  rw [unmarked.noOperator mark member] at isMark
  cases isMark

/-- A chain in such a text is a single operand. -/
theorem Unmarked.operand_of_chains (unmarked : Unmarked text)
    (chain : Chains text expression rest) : operand? text = some (expression, rest) := by
  have unread {before : Text} {left : Expression} {operator : Operator} {next : Text}
      (operand : operand? text = some (left, before))
      (found : Operator.read? before = some (operator, next)) : False := by
    have behind := operand?_suffix unmarked.uncalled operand
    rw [(unmarked.of_suffix behind).read?_none] at found
    cases found
  induction chain with
  | operand read => exact read
  | invert chain found induction => exact (unread induction found).elim
  | binary chain found read induction => exact (unread induction found).elim

/-- The items in such a text are operands. -/
theorem Unmarked.areOperands (unmarked : Unmarked text)
    (read : itemList? text = some (items, rest)) : ∀ item ∈ items, item.IsOperand := by
  induction items generalizing text with
  | nil => simp
  | cons first others induction =>
    have operand {behind : Text} (chain : chain? text = some (first, behind)) :
        operand? text = some (first, behind) :=
      unmarked.operand_of_chains (chain?_eq_some_iff.1 chain).1
    by_cases several : others = []
    · subst several
      have here := operand (itemList?_single_iff.1 read).1
      exact List.forall_mem_singleton.2 (operand?_isOperand here).1
    · obtain ⟨next, chain, more⟩ := (itemList?_cons_iff several).1 read
      have here := operand chain
      have behind : next <:+ text :=
        (List.suffix_cons ..).trans (operand?_suffix unmarked.uncalled here)
      exact List.forall_mem_cons.2
        ⟨(operand?_isOperand here).1, induction (unmarked.of_suffix behind) more⟩

end Grammar

namespace PathDraft

variable {draft next final : PathDraft}

/-- Nothing speaks against a character that is taken. -/
theorem refusal?_of_push {character : Char} (pushed : draft.push character = .ok next) :
    draft.refusal? character = none := by
  unfold push at pushed
  split at pushed
  · cases pushed
  · assumption

/-- Where no operator is written, a text that is taken as a whole is taken by the grammar. -/
theorem takes_of_takePath (noOperator : ∀ character ∈ text, isOperatorChar character = false)
    (taken : Expression.takePath draft text = .ok final) :
    draft.Takes text ∧ final.written = draft.written ++ text := by
  induction text generalizing draft with
  | nil =>
    cases taken
    exact ⟨trivial, by simp⟩
  | cons character rest induction =>
    obtain ⟨here, later⟩ := List.forall_mem_cons.1 noOperator
    rw [Expression.takePath] at taken
    cases isChar : isPathChar character with
    | false =>
      rw [isChar] at taken
      cases taken
    | true =>
      rw [isChar] at taken
      cases pushed : draft.push character with
      | error fault =>
        rw [pushed] at taken
        cases taken
      | ok next =>
        rw [pushed] at taken
        obtain ⟨takes, written⟩ := induction later taken
        have moved := Grammar.push_written pushed
        have continues : Grammar.continuesPath draft character = true := by
          have begins : beginsOperand character = true := by
            have notSlash : character ≠ '/' := by
              rintro rfl
              cases here
            simp [beginsOperand, isChar, notSlash]
          exact (beginsOperand_plain begins).2.2.2.2 draft
        refine ⟨⟨⟨continues, isChar, refusal?_of_push pushed⟩, ?_⟩, ?_⟩
        · rw [← moved]
          exact takes
        · rw [written, moved, List.append_assoc, List.singleton_append]

/-- What the grammar takes of a path is taken. -/
theorem takes_of_readDraft (found : readDraft draft text = some (final, rest)) :
    ∃ taken, text = taken ++ rest ∧ draft.Takes taken ∧
      final.written = draft.written ++ taken := by
  induction text generalizing draft with
  | nil =>
    cases found
    exact ⟨[], rfl, trivial, by simp⟩
  | cons character tail induction =>
    rw [readDraft] at found
    split at found
    · rename_i continues
      split at found
      · rename_i isChar
        split at found
        · cases found
        · rename_i next pushed
          obtain ⟨taken, whole, takes, written⟩ := induction found
          rw [push_written pushed] at written
          refine ⟨character :: taken, by rw [whole, List.cons_append],
            ⟨⟨continues, isChar, refusal?_of_push pushed⟩, ?_⟩, ?_⟩
          · rw [← push_written pushed]
            exact takes
          · rw [written, List.append_assoc, List.singleton_append]
      · cases found
    · cases found
      exact ⟨[], rfl, trivial, by simp⟩

end PathDraft

namespace Expression

/-- A text without a bracket, an operator and a leading quote is an unmarked one. -/
theorem isPlain_iff : isPlain text = true ↔
    Unmarked text ∧ text.head?.any isQuote = false := by
  have marks : Unmarked text ↔
      '(' ∉ text ∧ ∀ character ∈ text, isOperatorChar character = false :=
    ⟨fun unmarked => ⟨unmarked.uncalled, unmarked.noOperator⟩, fun both => ⟨both.1, both.2⟩⟩
  rw [marks]
  simp [isPlain, and_assoc]

/-- A plain text that begins with no digit is taken as a path when its characters make one. -/
theorem readPlain_path_iff (plain : isPlain text = true)
    (digit : text.head?.any isDigit = false) : readPlain text = .ok expression ↔
      ∃ segments, PathDraft.empty.Takes text ∧ PathDraft.segmentsOf text = .ok segments ∧
        expression = .path segments := by
  have bare : isBarePath text = true := by simp [isBarePath, plain, digit]
  have same : readPlain text = readTrimmed text := by rw [readTrimmed, if_pos plain]
  rw [same, readTrimmed_bare bare]
  constructor
  · rintro ⟨draft, segments, taken, compiled, rfl⟩
    obtain ⟨takes, written⟩ :=
      PathDraft.takes_of_takePath (isPlain_iff.1 plain).1.noOperator taken
    have whole : draft.written = text := written
    rw [PathDraft.compile, whole] at compiled
    exact ⟨segments, takes, compiled, rfl⟩
  · rintro ⟨segments, takes, compiled, rfl⟩
    exact ⟨⟨text⟩, segments, takes.takePath, compiled, rfl⟩

/-- A plain text that begins with a digit is read as the grammar reads it. -/
theorem readPlain_digit_iff (plain : isPlain text = true)
    (digit : text.head?.any isDigit = true) :
    readPlain text = .ok expression ↔ readWhole text = some expression := by
  have other : isBarePath text = false := by simp [isBarePath, digit]
  have same : readPlain text = readTrimmed text := by rw [readTrimmed, if_pos plain]
  rw [same, readTrimmed_other other]

/-! ### What only one way accepts -/

/-- A text that names segments, of which the first begins with a character of names that begins
neither a path nor a number: a numeral that is no digit. -/
def LeadsWithNumeral (text : Text) : Prop :=
  (text.head?.any fun character =>
    isNameChar character && !beginsPath character && !isDigit character) = true ∧
    ∃ named, (∀ segment ∈ named, segment.IsNamed) ∧ text = Segment.renderAll named

/-- A text that stands for a sequence and begins with no digit. -/
def IsSpacedSequence (text : Text) : Prop :=
  text.head?.any isDigit = false ∧ ∃ items, readWhole text = some (.sequence items)

/-- A path that is taken as a whole begins as the machine asks for, or with a numeral. -/
theorem opensPath_or_numeral (plain : isPlain text = true)
    (digit : text.head?.any isDigit = false) {segments : List Segment}
    (takes : PathDraft.empty.Takes text) (compiled : PathDraft.segmentsOf text = .ok segments) :
    opensPath text = true ∨ LeadsWithNumeral text := by
  cases text with
  | nil => cases compiled
  | cons first rest =>
    have isChar := takes.chars first (List.mem_cons_self ..)
    have operator := (isPlain_iff.1 plain).1.noOperator first (List.mem_cons_self ..)
    have notDigit : isDigit first = false := digit
    cases begins : beginsPath first with
    | true => exact Or.inl begins
    | false =>
      have isName : isNameChar first = true := by
        simp only [isPathChar, Bool.or_eq_true, beq_iff_eq] at isChar
        rcases isChar with ((((name | rfl) | rfl) | rfl) | rfl) | rfl
        · exact name
        · cases begins
        · cases begins
        · cases begins
        · cases operator
        · cases begins
      have notRoot : first ≠ '~' := nameChar_ne isName (by decide)
      have notDot : first ≠ '.' := nameChar_ne isName (by decide)
      refine Or.inr ⟨by simp [isName, begins, notDigit], ?_⟩
      -- neither the outermost context nor a step up can begin with such a character
      have root : PathDraft.splitRoot (first :: rest) = ([], first :: rest) := by
        rw [PathDraft.splitRoot] <;> simp [notRoot]
      have steps : PathDraft.parentSteps (first :: rest) = ([], first :: rest) := by
        rw [PathDraft.parentSteps] <;> simp [notDot]
      have behind : PathDraft.afterSteps [] (first :: rest) = first :: rest := by
        rw [PathDraft.afterSteps]
        simp [notDot]
      rw [PathDraft.segmentsOf_eq (List.cons_ne_nil _ _) (by simp [notDot]), root, steps] at compiled
      dsimp only at compiled
      rw [List.append_nil, behind] at compiled
      obtain ⟨-, named, areNamed, -, written⟩ := PathDraft.segmentsBehind_ok compiled
      exact ⟨named, areNamed, written⟩

/-- A path that is taken as a whole, and begins as the machine asks for, is read by the grammar. -/
theorem readWhole_of_takes (opens : opensPath text = true) {segments : List Segment}
    (takes : PathDraft.empty.Takes text) (compiled : PathDraft.segmentsOf text = .ok segments) :
    readWhole text = some (.path segments) := by
  obtain ⟨first, rest, rfl, begins⟩ := exists_cons_of_head opens
  have blank : isBlank first = false :=
    pathChar_not_blank (takes.chars first (List.mem_cons_self ..))
  have skipped : skip (first :: rest) = first :: rest :=
    Text.trimStart_eq_self fun character found => Option.some.inj found ▸ blank
  have drafted : readDraft PathDraft.empty (first :: rest) = some (⟨first :: rest⟩, []) := by
    have whole := takes.readDraft []
    rw [List.append_nil] at whole
    exact whole
  have path : pathOrCall? (first :: rest) = some (.path segments, []) := by
    rw [pathOrCall?_eq, drafted]
    simp only [Text.after?, PathDraft.compile, compiled]
  have operand : operand? (first :: rest) = some (.path segments, []) := by
    refine operand?_eq_some_iff.2 ⟨[], ?_, rfl⟩
    rw [skipped]
    exact .path begins path
  have item : itemList? (first :: rest) = some ([.path segments], []) :=
    itemList?_single_iff.2 ⟨chain?_eq_some_iff.2 ⟨.operand operand, rfl⟩, rfl⟩
  exact readWhole_eq_some_iff.2 ⟨_, item, rfl⟩

/-- Nothing is read where no operand begins. -/
theorem readWhole_numeral (leads : LeadsWithNumeral text) : readWhole text = none := by
  obtain ⟨numeral, -⟩ := leads
  obtain ⟨first, rest, rfl, isNumeral⟩ := exists_cons_of_head numeral
  simp only [Bool.and_eq_true, Bool.not_eq_true'] at isNumeral
  obtain ⟨⟨isName, notPath⟩, notDigit⟩ := isNumeral
  obtain ⟨-, blank, -, -, notQuote, -⟩ := nameChar_plain isName
  have skipped : skip (first :: rest) = first :: rest :=
    Text.trimStart_eq_self fun character found => Option.some.inj found ▸ blank
  have unread : operand? (first :: rest) = none := by
    rw [operand?_eq, skipped]
    simp [notQuote, notDigit, notPath]
  apply Option.eq_none_iff_forall_ne_some.2
  intro found read
  obtain ⟨items, readItems, -⟩ := readWhole_eq_some_iff.1 read
  rw [itemList?_eq, chain?_eq, unread] at readItems
  cases readItems

/-- What the grammar reads in a plain text that begins with no digit is a path that takes the whole
text, or a sequence. -/
theorem readWhole_cases (plain : isPlain text = true) (trimmed : text.trimBlanks = text)
    (digit : text.head?.any isDigit = false) (read : readWhole text = some expression) :
    (∃ segments, PathDraft.empty.Takes text ∧ PathDraft.segmentsOf text = .ok segments ∧
      expression = .path segments) ∨ ∃ items, expression = .sequence items := by
  obtain ⟨unmarked, quote⟩ := isPlain_iff.1 plain
  obtain ⟨first, last⟩ := Text.trim_stays isBlank text
  rw [show Text.trim isBlank text = text from trimmed] at first last
  have skipped : skip text = text := Text.trimStart_eq_self first
  obtain ⟨items, readItems, rfl⟩ := readWhole_eq_some_iff.1 read
  match items, readItems with
  | [], readItems => exact absurd rfl (itemList?_nonempty readItems)
  | one :: two :: more, _ => exact Or.inr ⟨_, rfl⟩
  | [single], readItems =>
    obtain ⟨chain, -⟩ := itemList?_single_iff.1 readItems
    have operand := unmarked.operand_of_chains (chain?_eq_some_iff.1 chain).1
    obtain ⟨noString, noNumber⟩ := operand?_no_literal skipped quote digit operand
    obtain ⟨behind, isOperand, nothing⟩ := operand?_eq_some_iff.1 operand
    rw [skipped] at isOperand
    cases isOperand with
    | string => exact absurd rfl (noString _)
    | number => exact absurd rfl (noNumber _)
    | path begins found =>
      obtain ⟨draft, after, taken, branch⟩ := pathOrCall?_cases found
      obtain ⟨path, whole, takes, written⟩ := PathDraft.takes_of_readDraft taken
      rcases branch with ⟨segments, rfl, compiled, rfl⟩ | ⟨inside, _, _, _, -, opened, -⟩
      · -- only blanks could stand behind the path, and no blank ends the text
        have none : behind = [] := by
          by_contra some
          have blanks := List.dropWhile_eq_nil_iff.1 nothing.symm
          have ends : behind.getLast some ∈ (path ++ behind).getLast? := by
            rw [List.getLast?_append_of_ne_nil _ some]
            exact List.getLast?_eq_some_getLast some
          have blank := blanks _ (List.getLast_mem some)
          rw [last _ (whole ▸ ends)] at blank
          cases blank
        rw [none, List.append_nil] at whole
        have taken : draft.written = path := written
        rw [PathDraft.compile, taken, ← whole] at compiled
        exact Or.inl ⟨segments, whole ▸ takes, compiled, rfl⟩
      · have call : '(' ∈ after := Text.after?_eq_some_iff.1 opened ▸ List.mem_cons_self ..
        exact absurd (whole ▸ List.mem_append_right path call) unmarked.uncalled

/-- A text that leads with a numeral is a path all the same. -/
theorem LeadsWithNumeral.takes (leads : LeadsWithNumeral text) :
    text.head?.any isDigit = false ∧ ∃ segments, PathDraft.empty.Takes text ∧
      PathDraft.segmentsOf text = .ok segments := by
  obtain ⟨numeral, named, areNamed, rfl⟩ := leads
  obtain ⟨first, rest, shape, isNumeral⟩ := exists_cons_of_head numeral
  simp only [Bool.and_eq_true, Bool.not_eq_true'] at isNumeral
  have nonempty : named ≠ [] := by
    rintro rfl
    cases shape
  have isPath : Segment.IsPath named := .steps (Or.inl rfl) 0 areNamed nonempty
  have keeps : ¬Segment.LosesDot named := by
    intro loses
    match named, loses with
    | head :: _ :: _, ⟨isRoot, _⟩ =>
      have isNamed := areNamed head (List.mem_cons_self ..)
      exact isNamed.name_plain.2.1 (congrArg Segment.name isRoot)
  exact ⟨by rw [shape]; exact isNumeral.2, named, PathDraft.takes_renderAll isPath,
    PathDraft.segmentsOf_renderAll isPath keeps⟩

/-- A spaced sequence is no path. -/
theorem IsSpacedSequence.readPlain_refused (spaced : IsSpacedSequence text)
    (plain : isPlain text = true) : ∃ refusal, readPlain text = .error refusal := by
  obtain ⟨digit, items, read⟩ := spaced
  cases shortcut : readPlain text with
  | error refusal => exact ⟨refusal, rfl⟩
  | ok expression =>
    obtain ⟨segments, takes, compiled, rfl⟩ := (readPlain_path_iff plain digit).1 shortcut
    rcases opensPath_or_numeral plain digit takes compiled with opens | leads
    · rw [readWhole_of_takes opens takes compiled] at read
      cases read
    · rw [readWhole_numeral leads] at read
      cases read

/-- A sequence in a plain text has two operands or more. -/
theorem areOperands_of_sequence (plain : isPlain text = true)
    (read : readWhole text = some (.sequence items)) :
    2 ≤ items.length ∧ ∀ item ∈ items, item.IsOperand := by
  obtain ⟨others, readItems, same⟩ := readWhole_eq_some_iff.1 read
  match others, readItems, same with
  | [], readItems, _ => exact absurd rfl (itemList?_nonempty readItems)
  | [single], readItems, same =>
    exact absurd (List.mem_singleton.2 same) (itemList?_not_sequence readItems)
  | one :: two :: more, readItems, same =>
    obtain rfl := Expression.sequence.inj same
    exact ⟨by simp, (isPlain_iff.1 plain).1.areOperands readItems⟩

/-- The shortcut for plain texts changes nothing exactly when the text neither leads with a numeral
nor is a spaced sequence. It accepts the one where the machine refuses, and refuses the other, which
has two operands or more, where the machine accepts. The two ways never accept with different
meanings.

Proof: a text that begins with a digit goes to the grammar either way. Any other text that the
shortcut accepts is a path as a whole, which the grammar reads from its first character on if it
asks for such a character; and what the grammar reads of such a text is a path as a whole or a
sequence. -/
theorem readPlain_agrees_iff (plain : isPlain text = true) (trimmed : text.trimBlanks = text) :
    ((∀ expression, readPlain text = .ok expression ↔
      (Machine.start text).run = .ok expression) ↔
        ¬LeadsWithNumeral text ∧ ¬IsSpacedSequence text) ∧
    (LeadsWithNumeral text → ∃ segments refusal, readPlain text = .ok (.path segments) ∧
      (Machine.start text).run = .error refusal) ∧
    (IsSpacedSequence text → ∃ refusal items, readPlain text = .error refusal ∧
      (Machine.start text).run = .ok (.sequence items) ∧ 2 ≤ items.length ∧
        ∀ item ∈ items, item.IsOperand) := by
  have machine (expression : Expression) : (Machine.start text).run = .ok expression ↔
      readWhole text = some expression := by
    rw [← Machine.outcome_eq_some_iff, Machine.outcome_start]
  have numeral : LeadsWithNumeral text → ∃ segments refusal,
      readPlain text = .ok (.path segments) ∧ (Machine.start text).run = .error refusal := by
    intro leads
    obtain ⟨digit, segments, takes, compiled⟩ := leads.takes
    have taken := (readPlain_path_iff plain digit).2 ⟨segments, takes, compiled, rfl⟩
    cases ran : (Machine.start text).run with
    | error refusal => exact ⟨segments, refusal, taken, rfl⟩
    | ok expression =>
      have read := (machine expression).1 ran
      rw [readWhole_numeral leads] at read
      cases read
  have spaced : IsSpacedSequence text → ∃ refusal items, readPlain text = .error refusal ∧
      (Machine.start text).run = .ok (.sequence items) ∧ 2 ≤ items.length ∧
        ∀ item ∈ items, item.IsOperand := by
    intro isSpaced
    obtain ⟨refusal, refused⟩ := isSpaced.readPlain_refused plain
    obtain ⟨-, items, read⟩ := isSpaced
    exact ⟨refusal, items, refused, (machine _).2 read, areOperands_of_sequence plain read⟩
  refine ⟨⟨fun agree => ⟨fun leads => ?_, fun isSpaced => ?_⟩, ?_⟩, numeral, spaced⟩
  · obtain ⟨segments, refusal, taken, refused⟩ := numeral leads
    rw [(agree _).1 taken] at refused
    cases refused
  · obtain ⟨refusal, items, refused, read, -⟩ := spaced isSpaced
    rw [(agree _).2 read] at refused
    cases refused
  · rintro ⟨noNumeral, notSpaced⟩ expression
    rw [machine]
    cases digit : text.head?.any isDigit with
    | true => exact readPlain_digit_iff plain digit
    | false =>
      rw [readPlain_path_iff plain digit]
      constructor
      · rintro ⟨segments, takes, compiled, rfl⟩
        rcases opensPath_or_numeral plain digit takes compiled with opens | leads
        · exact readWhole_of_takes opens takes compiled
        · exact absurd leads noNumeral
      · intro read
        rcases readWhole_cases plain trimmed digit read with path | ⟨items, rfl⟩
        · exact path
        · exact absurd ⟨digit, items, read⟩ notSpaced

/-- A blank before the dot makes two paths for the machine, and none for the shortcut. -/
theorem readPlain_blank_before_dot :
    let text : Text := "a .b"
    isPlain text = true ∧ text ≠ [] ∧ text.trimBlanks = text ∧
      ¬∀ expression, readPlain text = .ok expression ↔
        (Machine.start text).run = .ok expression := by
  intro text
  have refused : readPlain text = .error ⟨" .b", .strangeInPath ' '⟩ := rfl
  have read : (Machine.start text).run =
      .ok (.sequence [.path [⟨"a", .data⟩], .path [⟨"b", .data⟩]]) := by cbv
  refine ⟨rfl, by decide, rfl, fun agree => ?_⟩
  rw [(agree _).2 read] at refused
  cases refused

/-- A numeral that is no digit may stand in a path, and the machine begins none with it. -/
theorem readPlain_leading_numeral :
    let text : Text := ['²', '.', 'a']
    (isPlain text = true ∧ text.trimBlanks = text) ∧ ∃ segments refusal,
      readPlain text = .ok (.path segments) ∧ (Machine.start text).run = .error refusal := by
  intro text
  have plain : isPlain text = true := rfl
  have trimmed : text.trimBlanks = text := rfl
  have areNamed : ∀ segment ∈ ([⟨['²'], .data⟩, ⟨['a'], .data⟩] : List Segment),
      segment.IsNamed := by
    refine List.forall_mem_cons.2 ⟨.member (by decide) (by decide +kernel), ?_⟩
    exact List.forall_mem_singleton.2 (.member (by decide) (by decide))
  exact ⟨⟨plain, trimmed⟩,
    (readPlain_agrees_iff plain trimmed).2.1 ⟨by decide +kernel, _, areNamed, rfl⟩⟩

end Expression

end Bracework
