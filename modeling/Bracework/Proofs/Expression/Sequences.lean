import Bracework.Proofs.Expression.Descent

/-!
# Sequences and arguments

A dot behind an item of a list starts the next item of that list. A dot behind any other finished
operand first puts a list in the place of the operand. Both are described here for the machine,
and with them the right side of an operator, which becomes a sequence when a dot follows it, and
the arguments of a call, whose values are sequences when they have several items.

Each statement assumes that the rules for shorter texts are followed. The recursion over all of
them is put together where the whole text is read.
-/

namespace Bracework.Machine

open Grammar Arena

variable {machine : Machine} {slot : Slot} {name : Option Text} {id : PartId} {text : Text}
  {below : List Frame}

/-- A text that neither a blank, nor a dot, nor an operator begins: nothing of it belongs to the
sequence in front of it. -/
structure Closed (rest : Text) : Prop where
  trimmed : skip rest = rest
  dotless : Text.after? ['.'] rest = none
  plain : Operator.read? rest = none

/-! ### Chains -/

/-- In a vacant slot of no operator, a chain is taken and placed as the grammar says. -/
def ChainFollowed (text : Text) : Prop :=
  ∀ (machine : Machine) (slot : Slot) (name : Option Text) (below : List Frame) (owner : Part),
    machine.rest = text → machine.frames = .expression slot name .operand :: below →
    machine.arena.part? slot.owner = some owner → Vacant slot.index owner →
    machine.arena.isOperation slot.owner = false →
    machine.Follows (readChain text) fun found next =>
      next.rest = found.2 ∧ skip next.rest = next.rest ∧ Operator.read? next.rest = none ∧ ∃ id,
        next.frames = .expression slot name (.finished id) :: below ∧
        Placed machine.arena next.arena slot name id found.1

/-- A chain is an operand, and then the operators behind it. -/
theorem chain_followed (operand : OperandFollowed text)
    (links : ∀ rest, rest.length < text.length → LinksFollowed rest) : ChainFollowed text := by
  intro machine slot name below owner left top present vacant notOwned
  have followed := operand machine slot name below owner left top present
  rw [readChain]
  split
  · rename_i unread
    exact followed.refused unread
  · rename_i first rest shorter read
    obtain ⟨next, same, nextLeft, trimmed, id, nextTop, placed⟩ := followed.reaches read
    rw [nextLeft] at trimmed
    have chained := (links rest shorter next machine.arena slot name id below owner first nextLeft
      trimmed nextTop present vacant notOwned placed).of_outcome same
    split
    · rename_i unread
      exact chained.refused unread
    · rename_i found after bound linked
      rw [linked] at chained
      exact chained

/-! ### Items of a list -/

/-- In the first free slot of a list, items are taken and added to the list as the grammar
says. -/
def ItemsFollowed (text : Text) : Prop :=
  ∀ (machine : Machine) (list : PartId) (ids : List PartId) (below : List Frame),
    machine.rest = text →
    machine.frames = .expression ⟨list, ids.length⟩ none .operand :: below →
    machine.arena.part? list = some (.list ids) →
    machine.Follows (readItems text) fun found next =>
      next.rest = found.2 ∧ Closed next.rest ∧ ∃ index id,
        next.frames = .expression ⟨list, index⟩ none (.finished id) :: below ∧
        ItemsAdded machine.arena next.arena list ids found.1

/-- A dot behind an item of a list starts the next item. -/
theorem outcome_dot_item {after : Text}
    (top : machine.frames = .expression slot name (.finished id) :: below)
    (left : machine.rest = '.' :: after) (listed : machine.arena.isList slot.owner = true) :
    machine.outcome = outcome { machine with
      rest := after
      frames := .expression ⟨slot.owner, slot.index + 1⟩ none .operand :: below } := by
  have blank : isBlank '.' = false := by decide
  apply outcome_step left
  simp [step, top, finished, blank, followUp, listed, replaceTop, advance]

/-- A dot behind an operand that is no item puts a list in its place, and starts the second item
of that list. -/
theorem outcome_dot_promote {after : Text}
    (top : machine.frames = .expression slot name (.finished id) :: below)
    (left : machine.rest = '.' :: after) (unlisted : machine.arena.isList slot.owner = false) :
    machine.outcome = outcome { machine with
      rest := after
      arena := machine.arena.inserted slot none (.list [id])
      frames := .expression ⟨machine.arena.next, 1⟩ none .operand :: below } := by
  have blank : isBlank '.' = false := by decide
  apply outcome_step left
  simp [step, top, finished, blank, followUp, unlisted, replaceTop, advance, insert, inserted]

/-- The items of a list are a chain, and then those behind the dot that follows it. -/
theorem items_followed (chain : ChainFollowed text)
    (items : ∀ rest, rest.length < text.length → ItemsFollowed rest) : ItemsFollowed text := by
  intro machine list ids below left top present
  have notOwned : machine.arena.isOperation list = false := by
    simp only [isOperation, present]
  have followed := chain machine ⟨list, ids.length⟩ none below (.list ids) left top present rfl
    notOwned
  rw [readItems]
  split
  · rename_i unread
    exact followed.refused unread
  · rename_i first after shorter read
    obtain ⟨next, same, nextLeft, trimmed, plain, id, nextTop, placed⟩ := followed.reaches read
    have extended : next.arena.part? list = some (.list (ids ++ [id])) := by
      rw [placed.owner, present]
      simp only [Option.map_some, fill, setOrAppend_end]
    split
    · rename_i behind dotted
      have shape : next.rest = '.' :: behind := by
        rw [nextLeft]
        exact Text.after?_eq_some_iff.1 dotted
      have listed : next.arena.isList list = true := by
        simp only [isList, extended]
      have dropped := after_shorter dotted
      -- the list owns the chain already, so the dot only moves on to its next slot
      let moved : Machine := { next with
        rest := behind
        frames := .expression ⟨list, ids.length + 1⟩ none .operand :: below }
      have movedTop : moved.frames =
          .expression ⟨list, (ids ++ [id]).length⟩ none .operand :: below := by
        rw [List.length_append]
        rfl
      have stepped : next.outcome = moved.outcome := outcome_dot_item nextTop shape listed
      have more := (items behind (by omega) moved list (ids ++ [id]) below rfl movedTop
        extended).of_outcome (same.trans stepped)
      split
      · rename_i unread
        exact more.refused unread
      · rename_i others last lastBound readOthers
        obtain ⟨final, finalSame, finalLeft, closed, index, lastId, finalTop, added⟩ :=
          more.reaches readOthers
        exact ⟨final, finalSame, finalLeft, closed, index, lastId, finalTop,
          ItemsAdded.cons present placed added⟩
    · rename_i dotless
      exact ⟨next, same, nextLeft, ⟨trimmed, nextLeft ▸ dotless, plain⟩, ids.length, id, nextTop,
        ItemsAdded.single present placed⟩

/-! ### Operands that become lists -/

/-- A finished frame that nothing more belongs to is dropped, when its slot lies in no list of
top-level items and the frame below it waits. -/
theorem outcome_closed {under : Frame}
    (top : machine.frames = .expression slot name (.finished id) :: under :: below)
    (waits : Waits under) (inner : slot.owner ≠ root) (closed : Closed machine.rest) :
    machine.outcome = machine.pop.outcome :=
  outcome_pop top waits inner closed.trimmed closed.dotless (Or.inr closed.plain)

/-- A dot behind an operand that is no item makes it the first item of a list that takes its
place, and the items behind the dot are added to that list. Nothing more belongs to them then, and
the waiting frame below is reached. -/
theorem promoted_followed {before : Arena} {owner : Part} {first : Expression} {after : Text}
    {under : Frame} (items : ItemsFollowed after)
    (top : machine.frames = .expression slot name (.finished id) :: under :: below)
    (waits : Waits under) (dotted : Text.after? ['.'] machine.rest = some after)
    (present : before.part? slot.owner = some owner) (vacant : Vacant slot.index owner)
    (unlisted : before.isList slot.owner = false)
    (placed : Placed before machine.arena slot name id first) :
    machine.Follows (readItems after) fun found next =>
      next.rest = found.2 ∧ skip next.rest = next.rest ∧ next.frames = under :: below ∧ ∃ list,
        Placed before next.arena slot name list (.sequence (first :: found.1)) := by
  obtain ⟨older, larger⟩ := placed.older present
  have newer : slot.owner < machine.arena.next := Nat.lt_of_lt_of_le older larger
  have inner : machine.arena.next ≠ root := Nat.ne_of_gt (Nat.zero_lt_of_lt newer)
  have notListed : machine.arena.isList slot.owner = false := placed.isList_eq.trans unlisted
  have left : machine.rest = '.' :: after := Text.after?_eq_some_iff.1 dotted
  have followed := (items _ machine.arena.next [id] (under :: below) rfl rfl
    (part?_inserted_new newer)).of_outcome (outcome_dot_promote top left notListed)
  refine followed.extend ?_
  rintro found next ⟨rest, closed, index, last, frames, added⟩
  have popped : next.outcome = next.pop.outcome := outcome_closed frames waits inner closed
  refine ⟨next.pop, popped, rest, closed.trimmed, ?_, machine.arena.next,
    placed.sequence present vacant added⟩
  simp only [pop, frames, List.tail_cons]

/-! ### The right side of an operator -/

/-- The right side of an operator is an operand, or a sequence when a dot follows the operand. -/
theorem right_followed (operand : OperandFollowed text)
    (items : ∀ rest, rest.length < text.length → ItemsFollowed rest) : RightFollowed text := by
  intro machine applied slot name below operator left atText top present inner
  have followed := operand machine ⟨applied, 1⟩ none (.expression slot name (.finished applied) ::
    below) (.operation operator left none) atText top present
  rw [readRight]
  split
  · rename_i unread
    exact followed.refused unread
  · rename_i first rest shorter read
    obtain ⟨next, same, nextLeft, trimmed, id, nextTop, placed⟩ := followed.reaches read
    split
    · rename_i behind dotted
      have dropped := after_shorter dotted
      have unlisted : machine.arena.isList applied = false := by
        simp only [isList, present]
      have promoted := (promoted_followed (items behind (by omega)) nextTop trivial
        (nextLeft ▸ dotted) present rfl unlisted placed).of_outcome same
      split
      · rename_i unread
        exact promoted.refused unread
      · rename_i others last lastBound readOthers
        obtain ⟨final, finalSame, finalLeft, finalTrimmed, finalTop, list, whole⟩ :=
          promoted.reaches readOthers
        exact ⟨final, finalSame, finalLeft, finalTrimmed, finalTop, list, whole⟩
    · rename_i dotless
      have owned : next.arena.isOperation applied = true := by
        rw [placed.isOperation_eq]
        simp only [isOperation, present]
      have popped : next.outcome = next.pop.outcome :=
        outcome_pop nextTop trivial inner trimmed (nextLeft ▸ dotless) (Or.inl owned)
      refine ⟨next.pop, same.trans popped, nextLeft, trimmed, ?_, id, placed⟩
      simp only [pop, nextTop, List.tail_cons]

/-! ### Arguments -/

/-- The optional name of an argument is taken as the grammar says, and the operand of its value
is next. -/
theorem name_followed {call : PartId} (top : machine.frames = .argumentStart call :: below)
    (trimmed : skip machine.rest = machine.rest) :
    machine.Follows (readName machine.rest) fun found next =>
      next.rest = found.2 ∧ next.arena = machine.arena ∧ next.frames =
        .expression ⟨call, machine.arena.argumentCount call⟩ found.1 .operand :: below := by
  cases left : machine.rest with
  | nil =>
    -- no name is read at the end of the text, and the missing operand is noticed either way
    let waiting := machine.replaceTop
      (.expression ⟨call, machine.arena.argumentCount call⟩ none .operand)
    have waitingTop : waiting.frames =
        .expression ⟨call, machine.arena.argumentCount call⟩ none .operand :: below := by
      simp only [waiting, replaceTop, top, List.tail_cons]
    have refused : machine.outcome = none := outcome_missing left top (Or.inl ⟨call, rfl⟩)
    have waitingRefused : waiting.outcome = none :=
      outcome_missing left waitingTop (Or.inr (Or.inr ⟨_, _, rfl⟩))
    exact ⟨waiting, refused.trans waitingRefused.symm, left, rfl, waitingTop⟩
  | cons character tail =>
    have blank : isBlank character = false := not_blank_of_skip (left ▸ trimmed)
    by_cases bracket : character = '['
    · subst bracket
      simp only [readName]
      split
      · rename_i closed
        apply outcome_refused ⟨machine.rest, .unclosedArgumentName⟩ left
        simp only [step, top, argumentStart, blank, closed, refuse, if_true]
        rfl
      · rename_i closing rest closed
        split
        · rename_i invalid
          apply outcome_refused ⟨machine.rest,
            .invalidArgumentName (Text.trimSpace (tail.takeWhile (· ≠ ']')))⟩ left
          simp only [step, top, argumentStart, blank, closed, refuse, if_true, if_pos invalid]
          rfl
        · rename_i valid
          refine ⟨(machine.advance rest).replaceTop (.expression
            ⟨call, machine.arena.argumentCount call⟩
            (some (Text.trimSpace (tail.takeWhile (· ≠ ']')))) .operand), ?_, rfl, rfl, ?_⟩
          · apply outcome_step left
            simp only [step, top, argumentStart, blank, closed, if_true, if_neg valid]
            rfl
          · simp only [replaceTop, advance, top, List.tail_cons]
    · have unnamed : readName (character :: tail) = some (none, character :: tail) := by
        simp only [readName]
        split
        · rename_i other same
          exact absurd (List.cons.inj same).1 bracket
        · rfl
      rw [unnamed]
      refine ⟨machine.replaceTop
        (.expression ⟨call, machine.arena.argumentCount call⟩ none .operand), ?_, left, rfl, ?_⟩
      · apply outcome_step left
        simp [step, top, argumentStart, blank, bracket]
      · simp only [replaceTop, top, List.tail_cons]

/-- The value of an argument is taken as the grammar says. It is placed as one expression, and
the frame of the call is reached again. -/
theorem value_followed {call : PartId} {under : Frame} {path : PathPart}
    (chain : ChainFollowed text)
    (items : ∀ rest, rest.length < text.length → ItemsFollowed rest) (left : machine.rest = text)
    (top : machine.frames =
      .expression ⟨call, path.arguments.length⟩ name .operand :: under :: below)
    (waits : Waits under) (present : machine.arena.part? call = some (.path path))
    (inner : call ≠ root) :
    machine.Follows (readItems text) fun found next =>
      next.rest = found.2 ∧ skip next.rest = next.rest ∧ next.frames = under :: below ∧ ∃ id,
        Placed machine.arena next.arena ⟨call, path.arguments.length⟩ name id
          (sequenceOf found.1) := by
  have notOwned : machine.arena.isOperation call = false := by
    simp only [isOperation, present]
  have unlisted : machine.arena.isList call = false := by
    simp only [isList, present]
  have followed := chain machine ⟨call, path.arguments.length⟩ name (under :: below) (.path path)
    left top present rfl notOwned
  rw [readItems]
  split
  · rename_i unread
    exact followed.refused unread
  · rename_i first after shorter read
    obtain ⟨next, same, nextLeft, trimmed, plain, id, nextTop, placed⟩ := followed.reaches read
    split
    · rename_i behind dotted
      have dropped := after_shorter dotted
      have promoted := (promoted_followed (items behind (by omega)) nextTop waits
        (nextLeft ▸ dotted) present rfl unlisted placed).of_outcome same
      split
      · rename_i unread
        exact promoted.refused unread
      · rename_i others last lastBound readOthers
        obtain ⟨final, finalSame, finalLeft, finalTrimmed, finalTop, list, whole⟩ :=
          promoted.reaches readOthers
        have several : sequenceOf (first :: others) = .sequence (first :: others) :=
          sequenceOf_cons (readItems_nonempty readOthers)
        exact ⟨final, finalSame, finalLeft, finalTrimmed, finalTop, list, several ▸ whole⟩
    · rename_i dotless
      have closed : Closed next.rest := ⟨trimmed, nextLeft ▸ dotless, plain⟩
      have popped : next.outcome = next.pop.outcome := outcome_closed nextTop waits inner closed
      refine ⟨next.pop, same.trans popped, nextLeft, trimmed, ?_, id, placed⟩
      simp only [pop, nextTop, List.tail_cons]

/-- An argument is taken as the grammar says: its name, and then its value. -/
theorem argument_followed {call : PartId} {under : Frame} {path : PathPart}
    (chain : ∀ rest, rest.length ≤ text.length → ChainFollowed rest)
    (items : ∀ rest, rest.length < text.length → ItemsFollowed rest)
    (left : skip machine.rest = skip text)
    (top : machine.frames = .argumentStart call :: under :: below) (waits : Waits under)
    (present : machine.arena.part? call = some (.path path)) (inner : call ≠ root) :
    machine.Follows (readArgument text) fun found next =>
      next.rest = found.2 ∧ skip next.rest = next.rest ∧ next.frames = under :: below ∧ ∃ id,
        Placed machine.arena next.arena ⟨call, path.arguments.length⟩ found.1.name id
          found.1.value := by
  let trimmed := machine.advance (skip text)
  have skipped : machine.outcome = trimmed.outcome := by
    rw [outcome_skip top trivial, left]
  have count : trimmed.arena.argumentCount call = path.arguments.length := by
    simp only [trimmed, advance, argumentCount, path?, present]
  have named : machine.Follows (readName (skip text)) fun found next =>
      next.rest = found.2 ∧ next.arena = machine.arena ∧ next.frames =
        .expression ⟨call, path.arguments.length⟩ found.1 .operand :: under :: below := by
    have taken := name_followed (show trimmed.frames = _ from top) (skip_skip text)
    rw [count] at taken
    exact taken.of_outcome skipped
  rw [readArgument]
  split
  · rename_i unread
    exact named.refused unread
  · rename_i name rest read
    obtain ⟨next, same, nextLeft, arena, nextTop⟩ := named.reaches read
    have bound : rest.length ≤ text.length :=
      Nat.le_trans (readName_length read) (skip_length text)
    have valued := (value_followed (chain rest bound)
      (fun after shorter => items after (Nat.lt_of_lt_of_le shorter bound)) nextLeft nextTop waits
      (arena ▸ present) inner).of_outcome same
    rw [arena] at valued
    split
    · rename_i unread
      exact valued.refused unread
    · rename_i found behind shorter readValue
      rw [readValue] at valued
      exact valued

/-- Arguments are taken one behind the other as the grammar says, if their values are and those
behind a comma are. -/
theorem arguments_followed
    (chain : ∀ rest, rest.length ≤ text.length → ChainFollowed rest)
    (items : ∀ rest, rest.length < text.length → ItemsFollowed rest)
    (arguments : ∀ rest, rest.length < text.length → ArgumentsFollowed rest) :
    ArgumentsFollowed text := by
  intro machine slot name call below path left top present inner
  have followed := argument_followed chain items left top trivial present inner
  rw [readArgumentList]
  split
  · rename_i unread
    exact followed.refused unread
  · rename_i first rest shorter read
    obtain ⟨next, same, nextLeft, trimmed, nextTop, id, placed⟩ := followed.reaches read
    have called := placed.called present
    split
    · rename_i behind separated
      have shape : next.rest = ',' :: behind := by
        rw [nextLeft]
        exact Text.after?_eq_some_iff.1 separated
      have dropped := after_shorter separated
      have blank : isBlank ',' = false := by decide
      let waiting := (next.advance behind).push (.argumentStart call)
      have stepped : next.outcome = waiting.outcome := by
        apply outcome_step shape
        simp [step, nextTop, Machine.arguments, blank, waiting]
      have waitingTop : waiting.frames =
          .argumentStart call :: .expression slot name (.arguments call) :: below := by
        simp only [waiting, push, advance, nextTop]
      have more := (arguments behind (by omega) waiting slot name call below _ rfl waitingTop
        called inner).of_outcome (same.trans stepped)
      split
      · rename_i unread
        exact more.refused unread
      · rename_i others last lastBound readOthers
        obtain ⟨final, finalSame, finalLeft, finalTop, added⟩ := more.reaches readOthers
        exact ⟨final, finalSame, finalLeft, finalTop, ArgumentsAdded.cons present placed added⟩
    · rename_i unseparated
      split
      · rename_i behind closed
        have shape : next.rest = ')' :: behind := by
          rw [nextLeft]
          exact Text.after?_eq_some_iff.1 closed
        have blank : isBlank ')' = false := by decide
        let done := (next.advance behind).replaceTop (.expression slot name (.finished call))
        have stepped : next.outcome = done.outcome := by
          apply outcome_step shape
          simp [step, nextTop, Machine.arguments, blank, done]
        refine ⟨done, same.trans stepped, rfl, ?_,
          ArgumentsAdded.cons present placed (ArgumentsAdded.none called)⟩
        simp only [done, replaceTop, advance, nextTop, List.tail_cons]
      · rename_i unclosed
        have refused : next.outcome = none := by
          replace unseparated : Text.after? [','] next.rest = none := nextLeft ▸ unseparated
          replace unclosed : Text.after? [')'] next.rest = none := nextLeft ▸ unclosed
          cases shape : next.rest with
          | nil => exact outcome_missing shape nextTop (Or.inr (Or.inl ⟨_, _, _, rfl⟩))
          | cons character tail =>
            have blank : isBlank character = false := not_blank_of_skip (shape ▸ trimmed)
            have comma : character ≠ ',' := by
              rintro rfl
              simp [shape, Text.after?] at unseparated
            have closing : character ≠ ')' := by
              rintro rfl
              simp [shape, Text.after?] at unclosed
            apply outcome_refused ⟨next.rest, .missingSeparator⟩ shape
            simp [step, nextTop, Machine.arguments, blank, comma, closing, refuse]
        exact same.trans refused

/-! ### All rules together -/

/-- Every rule of the grammar is followed on a text. -/
structure Followed (text : Text) : Prop where
  links : LinksFollowed text
  right : RightFollowed text
  items : ItemsFollowed text
  arguments : ArgumentsFollowed text

/-- Every rule is followed on every text, by induction on its length: each rule but the links
calls itself and the others on shorter texts, or a rule before it on the same text. -/
theorem followed (text : Text) : Followed text := by
  induction length : text.length using Nat.strongRecOn generalizing text with
  | ind size induction =>
    have shorter (rest : Text) (less : rest.length < text.length) : Followed rest :=
      induction rest.length (length ▸ less) rest rfl
    have operand (rest : Text) (bound : rest.length ≤ text.length) : OperandFollowed rest :=
      operand_followed fun inside less => (shorter inside (Nat.lt_of_lt_of_le less bound)).arguments
    have chain (rest : Text) (bound : rest.length ≤ text.length) : ChainFollowed rest :=
      chain_followed (operand rest bound) fun after less =>
        (shorter after (Nat.lt_of_lt_of_le less bound)).links
    have items (rest : Text) (less : rest.length < text.length) : ItemsFollowed rest :=
      (shorter rest less).items
    have whole : text.length ≤ text.length := Nat.le_refl _
    exact
      { links := links_followed (fun rest less => (shorter rest less).links)
          (fun rest less => (shorter rest less).right)
        right := right_followed (operand text whole) items
        items := items_followed (chain text whole) items
        arguments := arguments_followed chain items fun rest less =>
          (shorter rest less).arguments }

end Bracework.Machine
