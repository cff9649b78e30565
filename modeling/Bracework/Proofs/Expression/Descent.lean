import Bracework.Proofs.Expression.Outcome
import Bracework.Proofs.Expression.Region

/-!
# Operands and operators of the machine

A machine whose innermost frame waits for an operand, with any frames below, does what the
grammar does with the same rest: it is refused in the end if the grammar reads nothing, and
otherwise it comes to a machine that has left what the grammar has left, with the same frames
below and the expression of the grammar in the slot of its frame.

Paths come first, then calls, whose arguments are assumed to be followed, then operands, and at
last the operators behind an operand. An operator takes the slot of what is before it, so the
expression placed there is described from the arena before the first operand on.
-/

namespace Bracework.Machine

open Grammar Arena

variable {machine : Machine} {slot : Slot} {name : Option Text} {id : PartId} {text : Text}
  {below : List Frame}

/-! ### Paths -/

/-- A path goes on with a character when the character neither opens a call nor ends the path. -/
theorem continuesPath_eq (draft : PathDraft) (character : Char) :
    continuesPath draft character = (character != '(' && !endsPath draft character) := by
  by_cases slash : character = '/'
  · subst slash
    have plain : isBlank '/' = false ∧ endsArgument '/' = false := by decide
    simp [continuesPath, endsPath, plain]
  · by_cases dot : character = '.'
    · subst dot
      have plain : isBlank '.' = false ∧ isOperatorChar '.' = false := by decide
      simp [continuesPath, endsPath, plain]
    · have notDot : (character == '.') = false := beq_eq_false_iff_ne.mpr dot
      have notSlash : (character == '/') = false := beq_eq_false_iff_ne.mpr slash
      simp [continuesPath, endsPath, slash, notDot, notSlash, bne, Bool.and_assoc]

/-- The draft of a path that is being taken. -/
theorem draft_eq {path : PathPart} (present : machine.arena.part? id = some (.path path)) :
    machine.draft id = path.draft := by
  simp only [draft, path?, present]

/-- A machine at a path, all but the draft of which stays the same. -/
structure TakesPath (machine next : Machine) (id : PartId) (path : PathPart) : Prop where
  frames : next.frames = machine.frames
  grown : Grown machine.arena next.arena id
  next_eq : next.arena.next = machine.arena.next
  part : next.arena.part? id = some (.path path)

/-- Taking a path follows the grammar, and stops where the path does not go on. The induction is
on the text, with the draft in the arena as far as it has been taken. -/
theorem draft_followed {path : PathPart} (left : machine.rest = text)
    (top : machine.frames = .expression slot name (.path id) :: below)
    (present : machine.arena.part? id = some (.path path)) :
    machine.Follows (readDraft path.draft text) fun found next =>
      next.rest = found.2 ∧ TakesPath machine next id { path with draft := found.1 } ∧
        ∀ character tail, found.2 = character :: tail →
          continuesPath found.1 character = false := by
  induction text generalizing machine path with
  | nil =>
    refine ⟨machine, rfl, left, ⟨rfl, Grown.refl _ _, rfl, present⟩, ?_⟩
    intro character tail impossible
    simp at impossible
  | cons character tail induction =>
    by_cases goes : continuesPath path.draft character = true
    · obtain ⟨opening, ends⟩ : character ≠ '(' ∧ endsPath path.draft character = false := by
        simpa [continuesPath_eq] using goes
      simp only [readDraft, goes, if_true]
      by_cases fits : isPathChar character = true
      · simp only [fits, if_true]
        cases pushed : path.draft.push character with
        | error fault =>
          apply outcome_refused ⟨character :: tail, .path fault⟩ left
          simp [step, top, pathCharacter, opening, draft_eq present, ends, fits, pushed, refuse,
            left]
        | ok draft =>
          let taken := { machine with
            arena := machine.arena.modifyPath id fun path => { path with draft } }.advance tail
          have stepped : machine.step character tail = .ok taken := by
            simp [step, top, pathCharacter, opening, draft_eq present, ends, fits, pushed, taken]
          have takenPart : taken.arena.part? id = some (.path { path with draft }) :=
            part?_modifyPath_same present
          have grown : Grown machine.arena taken.arena id :=
            ⟨by simp [taken, advance], fun other _ different => part?_modifyPath_other different⟩
          have followed := induction (show taken.rest = tail from rfl) top takenPart
          refine (followed.of_outcome (outcome_step left stepped)).mono ?_
          rintro found next ⟨rest, takes, stops⟩
          exact ⟨rest, ⟨takes.frames, grown.trans takes.grown (Or.inl rfl),
            takes.next_eq.trans next_modifyPath, takes.part⟩, stops⟩
      · simp only [fits, Bool.false_eq_true, if_false]
        apply outcome_refused ⟨character :: tail, .strangeInPath character⟩ left
        simp [step, top, pathCharacter, opening, draft_eq present, ends, fits, refuse, left]
    · simp only [readDraft, goes, Bool.false_eq_true, if_false]
      refine ⟨machine, rfl, left, ⟨rfl, Grown.refl _ _, rfl, present⟩, ?_⟩
      intro next rest same
      obtain ⟨rfl, rfl⟩ := List.cons.inj same
      simpa using goes

/-- A path that the rest does not continue is finished, or the machine is refused. -/
theorem outcome_finishPath {path : PathPart}
    (top : machine.frames = .expression slot name (.path id) :: below)
    (present : machine.arena.part? id = some (.path path))
    (closed : Text.after? ['('] machine.rest = none)
    (stops : ∀ character tail, machine.rest = character :: tail →
      continuesPath path.draft character = false) :
    machine.outcome = (machine.finishPath id).toOption.bind fun finishing =>
      (finishing.replaceTop (.expression slot name (.finished id))).outcome := by
  cases left : machine.rest with
  | nil =>
    rw [outcome_end left]
    cases ended : machine.finishPath id with
    | error refusal => simp [endPath, top, ended, bind, Except.bind, Except.toOption]
    | ok finishing =>
      have finishedLeft : (finishing.replaceTop (.expression slot name (.finished id))).rest = [] :=
        (finishPath_keeps ended).1.trans left
      simp only [Except.toOption, Option.bind_some, outcome_end finishedLeft]
      simp only [endPath, top, ended, replaceTop]
      rfl
  | cons character tail =>
    have opening : character ≠ '(' := by
      rintro rfl
      simp [left, Text.after?] at closed
    have ends : endsPath path.draft character = true := by
      simpa [continuesPath_eq, opening] using stops character tail left
    have stepped : machine.step character tail = (do
        let finishing ← machine.finishPath id
        return finishing.replaceTop (.expression slot name (.finished id))) := by
      simp [step, top, pathCharacter, opening, draft_eq present, ends]
    cases ended : machine.finishPath id with
    | error refusal =>
      rw [outcome_refused refusal left (by rw [stepped, ended]; rfl)]
      rfl
    | ok finishing =>
      rw [outcome_step left (by rw [stepped, ended]; rfl)]
      rfl

/-- Where a path ends, it compiles and is finished, or the machine is refused. -/
theorem compile_followed {path : PathPart}
    (top : machine.frames = .expression slot name (.path id) :: below)
    (present : machine.arena.part? id = some (.path path))
    (closed : Text.after? ['('] machine.rest = none)
    (stops : ∀ character tail, machine.rest = character :: tail →
      continuesPath path.draft character = false) :
    machine.Follows path.draft.compile.toOption fun segments next =>
      next.rest = machine.rest ∧ next.frames = .expression slot name (.finished id) :: below ∧
        Grown machine.arena next.arena id ∧ next.arena.next = machine.arena.next ∧
        next.arena.part? id = some (.path { path with segments }) := by
  have ended := outcome_finishPath top present closed stops
  simp only [finishPath, path?, present] at ended
  cases compiled : path.draft.compile with
  | error fault =>
    simp only [compiled] at ended
    exact ended
  | ok segments =>
    simp only [compiled] at ended
    refine ⟨_, ended, rfl, ?_, ⟨Nat.le_of_eq next_modifyPath.symm, ?_⟩, next_modifyPath,
      part?_modifyPath_same present⟩
    · simp only [replaceTop, top, List.tail_cons]
    · exact fun other _ different => part?_modifyPath_other different

/-! ### Calls -/

/-- From the start of an argument on, the arguments of a call are taken as the grammar says, and
then the call is finished. -/
def ArgumentsFollowed (text : Text) : Prop :=
  ∀ (machine : Machine) (slot : Slot) (name : Option Text) (call : PartId) (below : List Frame)
    (path : PathPart), skip machine.rest = skip text →
    machine.frames = .argumentStart call :: .expression slot name (.arguments call) :: below →
    machine.arena.part? call = some (.path path) → call ≠ root →
    machine.Follows (readArgumentList text) fun found next =>
      next.rest = found.2 ∧ next.frames = .expression slot name (.finished call) :: below ∧
        ArgumentsAdded machine.arena next.arena call path found.1

/-- A `(` behind a path whose last name is a formatter opens a call, the arguments of which are
taken as the grammar says. -/
theorem call_followed {path : PathPart} {inside : Text} {receiver : List Segment}
    {formatter : Text} (left : machine.rest = '(' :: inside)
    (top : machine.frames = .expression slot name (.path id) :: below)
    (present : machine.arena.part? id = some (.path path)) (inner : id ≠ root)
    (compiled : path.draft.compileCall = .ok (receiver, formatter))
    (arguments : ArgumentsFollowed inside) :
    machine.Follows (readArguments inside) fun found next =>
      next.rest = found.2 ∧ next.frames = .expression slot name (.finished id) :: below ∧
        ArgumentsAdded machine.arena next.arena id
          { path with segments := receiver, formatter := some formatter } found.1 := by
  let arena := machine.arena.modifyPath id fun path =>
    { path with segments := receiver, formatter := some formatter }
  let opened : Machine := { machine with
    rest := skip inside, arena, frames := .expression slot name (.arguments id) :: below }
  have openedPart : opened.arena.part? id = some (.path
      { path with segments := receiver, formatter := some formatter }) :=
    part?_modifyPath_same present
  have openedGrown : Grown machine.arena arena id :=
    ⟨Nat.le_of_eq next_modifyPath.symm, fun other _ different => part?_modifyPath_other different⟩
  have stepped : machine.step '(' inside = .ok (if (skip inside).head?.all (· = ')') then opened
      else opened.push (.argumentStart id)) := by
    have after : Text.trimStart isBlank inside = skip inside := rfl
    simp only [step, top, pathCharacter, if_true, openCall, draft_eq present, compiled,
      replaceTop, advance, List.tail_cons, after]
    cases shape : skip inside with
    | nil => simp [opened, arena, shape]
    | cons next rest => by_cases closing : next = ')' <;> simp [opened, arena, shape, closing]
  rw [readArguments]
  split
  · rename_i rest closed
    have shape : skip inside = ')' :: rest := Text.after?_eq_some_iff.1 closed
    have blank : isBlank ')' = false := by decide
    let done := (opened.advance rest).replaceTop (.expression slot name (.finished id))
    have opening : machine.outcome = opened.outcome :=
      outcome_step left (by simp [stepped, shape])
    have closing : opened.outcome = done.outcome := by
      refine outcome_step (show opened.rest = ')' :: rest from shape) ?_
      simp [step, opened, Machine.arguments, blank, done]
    refine ⟨done, opening.trans closing, rfl, rfl, openedGrown, [], ?_, Settled.argumentsAt_nil⟩
    rw [List.append_nil]
    exact openedPart
  · rename_i closed
    have pushed : machine.outcome = (opened.push (.argumentStart id)).outcome := by
      cases shape : skip inside with
      | nil =>
        have openedLeft : opened.rest = [] := shape
        have taken : machine.outcome = opened.outcome :=
          outcome_step left (by simp [stepped, shape])
        rw [taken, outcome_missing openedLeft rfl (Or.inr (Or.inl ⟨_, _, _, rfl⟩)),
          outcome_missing (show (opened.push (.argumentStart id)).rest = [] from openedLeft) rfl
            (Or.inl ⟨_, rfl⟩)]
      | cons next rest =>
        have notClosing : next ≠ ')' := by
          rintro rfl
          simp [shape, Text.after?] at closed
        exact outcome_step left (by simp [stepped, shape, notClosing])
    have skipped : skip (opened.push (.argumentStart id)).rest = skip inside := skip_skip inside
    refine ((arguments _ slot name id below _ skipped rfl openedPart inner).of_outcome
      pushed).mono ?_
    rintro found next ⟨rest, frames, grown, added, part, settled⟩
    have same : opened.arena.next = machine.arena.next := next_modifyPath
    refine ⟨rest, frames, openedGrown.trans grown (Or.inl rfl), added, part, ?_⟩
    rw [← same]
    exact settled

/-- A new path is taken, and called when a `(` follows, as the grammar says. -/
theorem path_followed (left : machine.rest = text)
    (top : machine.frames = .expression slot name (.path id) :: below)
    (present : machine.arena.part? id = some (.path (PathPart.start text)))
    (newest : machine.arena.next = id + 1) (inner : id ≠ root)
    (arguments : ∀ inside, inside.length < text.length → ArgumentsFollowed inside) :
    machine.Follows (readPath text) fun found next =>
      next.rest = found.2 ∧ next.frames = .expression slot name (.finished id) :: below ∧
        Grown machine.arena next.arena id ∧
        Settled next.arena id next.arena.next (next.arena.next - id) (expressionAt id) found.1 := by
  have drafted := draft_followed left top present
  rw [readPath]
  split
  · rename_i taken
    exact drafted.refused taken
  · rename_i draft rest taken
    obtain ⟨middle, same, middleLeft, takes, stops⟩ := drafted.reaches taken
    have middleNext : middle.arena.next = id + 1 := takes.next_eq.trans newest
    have middleTop : middle.frames = .expression slot name (.path id) :: below :=
      takes.frames.trans top
    split
    · rename_i inside opened
      have shape : middle.rest = '(' :: inside := by
        rw [middleLeft]
        exact Text.after?_eq_some_iff.1 opened
      have shorter : inside.length < text.length :=
        Nat.lt_of_lt_of_le (after_shorter opened) (readDraft_length taken)
      split
      · rename_i fault compiled
        refine same.trans (outcome_refused ⟨middle.rest, .formatter fault⟩ shape ?_)
        simp [step, middleTop, pathCharacter, openCall, draft_eq takes.part, compiled, refuse]
      · rename_i receiver formatter compiled
        have called := call_followed shape middleTop takes.part inner compiled
          (arguments inside shorter)
        split
        · rename_i unread
          exact same.trans (called.refused unread)
        · rename_i found behind bound read
          obtain ⟨last, lastSame, lastLeft, lastTop, added⟩ := called.reaches read
          exact ⟨last, same.trans lastSame, lastLeft, lastTop,
            takes.grown.trans added.toGrown (Or.inl rfl), added.settled_call middleNext rfl rfl⟩
    · rename_i closed
      have compiles := compile_followed middleTop takes.part (middleLeft ▸ closed)
        (middleLeft ▸ stops)
      split
      · rename_i fault compiled
        simp only [compiled] at compiles
        exact same.trans compiles
      · rename_i segments compiled
        simp only [compiled] at compiles
        obtain ⟨last, lastSame, lastLeft, lastTop, grown, lastNext, part⟩ := compiles
        have older : id < last.arena.next := lt_next part
        have region := Settled.path part rfl (Nat.le_refl id) older
        exact ⟨last, same.trans lastSame, lastLeft.trans middleLeft, lastTop,
          takes.grown.trans grown (Or.inl rfl),
          region.widen (fun _ _ _ => rfl) (Nat.le_refl _) (Nat.le_refl _) (by lia)⟩

/-! ### Operands -/

/-- In a vacant slot an operand is taken and placed as the grammar says. -/
def OperandFollowed (text : Text) : Prop :=
  ∀ (machine : Machine) (slot : Slot) (name : Option Text) (below : List Frame) (owner : Part),
    machine.rest = text → machine.frames = .expression slot name .operand :: below →
    machine.arena.part? slot.owner = some owner →
    machine.Follows (readOperand text) fun found next =>
      next.rest = found.2 ∧ skip next.rest = next.rest ∧ ∃ id,
        next.frames = .expression slot name (.finished id) :: below ∧
        Placed machine.arena next.arena slot name id found.1

/-- A machine that has finished an operand passes over the blanks behind it. -/
theorem finished_followed {next : Machine} {before : Arena} {expression : Expression}
    {rest : Text} (same : machine.outcome = next.outcome)
    (top : next.frames = .expression slot name (.finished id) :: below) (left : next.rest = rest)
    (placed : Placed before next.arena slot name id expression) :
    ∃ last : Machine, machine.outcome = last.outcome ∧ last.rest = skip rest ∧
      skip last.rest = last.rest ∧ ∃ id,
        last.frames = .expression slot name (.finished id) :: below ∧
        Placed before last.arena slot name id expression := by
  refine ⟨next.advance (skip next.rest), same.trans (outcome_skip top trivial), ?_, ?_, id, top,
    placed⟩
  · rw [← left]
    rfl
  · exact skip_skip next.rest

/-- A literal that has been read takes the vacant slot and is finished. -/
theorem literal_followed {part : Part} {expression : Expression} {first : Char}
    {tail rest : Text} (older : slot.owner < machine.arena.next)
    (top : machine.frames = .expression slot name .operand :: below)
    (left : machine.rest = first :: tail)
    (stepped : machine.step first tail = .ok (((machine.insert slot name part).advance
      rest).replaceTop (.expression slot name (.finished machine.arena.next))))
    (settled : Settled (machine.arena.inserted slot name part) machine.arena.next
      (machine.arena.next + 1) 1 (expressionAt machine.arena.next) expression) :
    ∃ last : Machine, machine.outcome = last.outcome ∧ last.rest = skip rest ∧
      skip last.rest = last.rest ∧ ∃ id,
        last.frames = .expression slot name (.finished id) :: below ∧
        Placed machine.arena last.arena slot name id expression := by
  have finishedTop : (((machine.insert slot name part).advance rest).replaceTop
      (.expression slot name (.finished machine.arena.next))).frames =
        .expression slot name (.finished machine.arena.next) :: below := by
    simp only [replaceTop, advance, insert, top, List.tail_cons]
  refine finished_followed (outcome_step left stepped) finishedTop rfl ?_
  apply placed_of_inserted older (Grown.refl _ _) rfl (Grown.refl _ _)
  rw [next_inserted]
  exact settled.widen (fun _ _ _ => rfl) (Nat.le_refl _) (Nat.le_refl _) (by lia)

/-- Where no blanks are left in front, an operand is taken as the grammar says. -/
theorem trimmed_followed {owner : Part} (left : machine.rest = skip text)
    (top : machine.frames = .expression slot name .operand :: below)
    (present : machine.arena.part? slot.owner = some owner)
    (arguments : ∀ inside, inside.length < text.length → ArgumentsFollowed inside) :
    machine.Follows (readOperand text) fun found next =>
      next.rest = found.2 ∧ skip next.rest = next.rest ∧ ∃ id,
        next.frames = .expression slot name (.finished id) :: below ∧
        Placed machine.arena next.arena slot name id found.1 := by
  have older : slot.owner < machine.arena.next := lt_next present
  rw [readOperand]
  split
  · rename_i shape
    exact outcome_missing (left.trans shape) top (Or.inr (Or.inr ⟨_, _, rfl⟩))
  · rename_i first tail shape
    rw [shape] at left
    have trimmed : skip (first :: tail) = first :: tail := by
      rw [← shape, skip_skip]
    have blank : isBlank first = false := not_blank_of_skip trimmed
    split
    · rename_i quote
      split
      · rename_i fault read
        apply outcome_refused ⟨machine.rest, .string fault⟩ left
        simp [step, top, operand, blank, quote, left, read, refuse]
      · rename_i literal rest read
        refine literal_followed older top left ?_ (Settled.string (part?_inserted_new older)
          (Nat.le_refl _) (Nat.lt_succ_self _))
        simp [step, top, operand, blank, quote, left, read]
    · rename_i notQuote
      split
      · rename_i digit
        split
        · rename_i fault read
          apply outcome_refused ⟨machine.rest, .number fault⟩ left
          simp [step, top, operand, blank, notQuote, digit, left, read, refuse]
        · rename_i literal rest read
          refine literal_followed older top left ?_ (Settled.number (part?_inserted_new older)
            (Nat.le_refl _) (Nat.lt_succ_self _))
          simp [step, top, operand, blank, notQuote, digit, left, read]
      · rename_i notDigit
        split
        · rename_i begins
          let opened := (machine.insert slot name (.path (PathPart.start machine.rest))).replaceTop
            (.expression slot name (.path machine.arena.next))
          have stepped : machine.outcome = opened.outcome := by
            apply outcome_step left
            simp [step, top, operand, blank, notQuote, notDigit, begins, opened]
          have openedLeft : opened.rest = first :: tail := left
          have openedTop : opened.frames =
              .expression slot name (.path machine.arena.next) :: below := by
            simp only [opened, replaceTop, insert, top, List.tail_cons]
          have openedPart : opened.arena.part? machine.arena.next =
              some (.path (PathPart.start (first :: tail))) := by
            rw [← left]
            exact part?_inserted_new older
          have inner : machine.arena.next ≠ root := Nat.ne_of_gt (Nat.zero_lt_of_lt older)
          have bound := skip_length text
          rw [shape] at bound
          have followed := path_followed openedLeft openedTop openedPart next_inserted inner
            fun inside shorter => arguments inside (Nat.lt_of_lt_of_le shorter bound)
          split
          · rename_i unread
            exact stepped.trans (followed.refused unread)
          · rename_i found rest bound read
            obtain ⟨last, same, lastLeft, lastTop, grown, settled⟩ := followed.reaches read
            refine finished_followed (stepped.trans same) lastTop lastLeft ?_
            exact placed_of_inserted older (Grown.refl _ _) rfl grown settled
        · rename_i notBegins
          apply outcome_refused ⟨machine.rest, .notAnOperand first⟩ left
          simp [step, top, operand, blank, notQuote, notDigit, notBegins, refuse]

/-- Operands are taken as the grammar says if the arguments of shorter calls are. -/
theorem operand_followed
    (arguments : ∀ inside, inside.length < text.length → ArgumentsFollowed inside) :
    OperandFollowed text := by
  intro machine slot name below owner left top present
  have skipped : machine.outcome = (machine.advance (skip text)).outcome := by
    rw [outcome_skip top trivial, left]
  have trimmed : (machine.advance (skip text)).rest = skip text := rfl
  exact (trimmed_followed trimmed top present arguments).of_outcome skipped

/-! ### Operators -/

/-- Behind a finished operand in the slot of no operator, the operators that follow are taken as
the grammar says. -/
def LinksFollowed (text : Text) : Prop :=
  ∀ (machine : Machine) (before : Arena) (slot : Slot) (name : Option Text) (id : PartId)
    (below : List Frame) (owner : Part) (left : Expression), machine.rest = text →
    skip text = text → machine.frames = .expression slot name (.finished id) :: below →
    before.part? slot.owner = some owner → Vacant slot.index owner →
    before.isOperation slot.owner = false → Placed before machine.arena slot name id left →
    machine.Follows (readLinks left text) fun found next =>
      next.rest = found.2 ∧ skip next.rest = next.rest ∧ Operator.read? next.rest = none ∧ ∃ id,
        next.frames = .expression slot name (.finished id) :: below ∧
        Placed before next.arena slot name id found.1

/-- The right side of an operator is taken and placed as the grammar says, and the frame of the
operator is reached again. -/
def RightFollowed (text : Text) : Prop :=
  ∀ (machine : Machine) (applied : PartId) (slot : Slot) (name : Option Text)
    (below : List Frame) (operator : Operator) (left : PartId), machine.rest = text →
    machine.frames = .expression ⟨applied, 1⟩ none .operand ::
      .expression slot name (.finished applied) :: below →
    machine.arena.part? applied = some (.operation operator left none) → applied ≠ root →
    machine.Follows (readRight text) fun found next =>
      next.rest = found.2 ∧ skip next.rest = next.rest ∧
        next.frames = .expression slot name (.finished applied) :: below ∧ ∃ id,
        Placed machine.arena next.arena ⟨applied, 1⟩ none id found.1

/-- An operator that takes no right side takes the slot of its operand. -/
theorem outcome_invert {rest : Text}
    (top : machine.frames = .expression slot name (.finished id) :: below)
    (read : Operator.read? machine.rest = some (.invert, rest))
    (unowned : machine.arena.isOperation slot.owner = false) :
    machine.outcome = outcome { machine with
      rest := skip rest
      arena := machine.arena.inserted slot none (.operation .invert id none)
      frames := .expression slot name (.finished machine.arena.next) :: below } := by
  obtain ⟨character, tail, left⟩ : ∃ character tail, machine.rest = character :: tail :=
    List.exists_cons_of_length_pos (Nat.zero_lt_of_lt (readOperator_length read))
  let applied : Machine := { machine with
    rest
    arena := machine.arena.inserted slot none (.operation .invert id none)
    frames := .expression slot name (.finished machine.arena.next) :: below }
  have stepped : machine.step character tail = .ok applied := by
    rw [step_operator top left read]
    simp [applyOperator, read, unowned, Operator.isBinary, replaceTop, advance, insert, top,
      applied, inserted]
  have skipped : applied.outcome = (applied.advance (skip rest)).outcome :=
    outcome_skip rfl trivial
  exact (outcome_step left stepped).trans skipped

/-- An operator between operands takes the slot of its left side, and a frame waits for its right
side. -/
theorem outcome_binary {operator : BinaryOperator} {rest : Text}
    (top : machine.frames = .expression slot name (.finished id) :: below)
    (read : Operator.read? machine.rest = some (.binary operator, rest))
    (unowned : machine.arena.isOperation slot.owner = false) :
    machine.outcome = outcome { machine with
      rest
      arena := machine.arena.inserted slot none (.operation (.binary operator) id none)
      frames := .expression ⟨machine.arena.next, 1⟩ none .operand ::
        .expression slot name (.finished machine.arena.next) :: below } := by
  obtain ⟨character, tail, left⟩ : ∃ character tail, machine.rest = character :: tail :=
    List.exists_cons_of_length_pos (Nat.zero_lt_of_lt (readOperator_length read))
  apply outcome_step left
  rw [step_operator top left read]
  simp [applyOperator, read, unowned, Operator.isBinary, replaceTop, advance, insert, push, top,
    inserted]

/-- Operators are taken as the grammar says if those behind them and their right sides are. -/
theorem links_followed (links : ∀ rest, rest.length < text.length → LinksFollowed rest)
    (right : ∀ rest, rest.length < text.length → RightFollowed rest) : LinksFollowed text := by
  intro machine before slot name id below owner first left trimmed top present vacant notOwned
    placed
  have newer : slot.owner < machine.arena.next :=
    Nat.lt_of_lt_of_le (lt_next present) placed.larger
  have unowned : machine.arena.isOperation slot.owner = false :=
    placed.isOperation_eq.trans notOwned
  rw [readLinks]
  split
  · rename_i unread
    exact ⟨machine, rfl, left, left ▸ trimmed, left ▸ unread, id, top, placed⟩
  · rename_i rest read
    have shorter : rest.length < text.length := readOperator_length read
    have bound := skip_length rest
    have followed := (links (skip rest) (by omega) _ before slot name machine.arena.next below
      owner (.invert first) rfl (skip_skip rest) rfl present vacant notOwned
      (placed.invert present vacant)).of_outcome (outcome_invert top (left ▸ read) unowned)
    split
    · rename_i unread
      exact followed.refused unread
    · rename_i found behind behindBound chained
      rw [chained] at followed
      exact followed
  · rename_i operator rest read
    have shorter : rest.length < text.length := readOperator_length read
    have inner : machine.arena.next ≠ root := Nat.ne_of_gt (Nat.zero_lt_of_lt newer)
    -- the arena of the operator without its right side is where the right side starts from
    have rightFollowed := (right rest shorter _ machine.arena.next slot name below
      (.binary operator) id rfl rfl (part?_inserted_new newer) inner).of_outcome
        (outcome_binary top (left ▸ read) unowned)
    split
    · rename_i unread
      exact rightFollowed.refused unread
    · rename_i second after afterShorter rightRead
      obtain ⟨next, same, nextLeft, nextTrimmed, nextTop, side, sidePlaced⟩ :=
        rightFollowed.reaches rightRead
      rw [nextLeft] at nextTrimmed
      have followed := (links after (by omega) next before slot name machine.arena.next below owner
        (.binary operator first second) nextLeft nextTrimmed nextTop present vacant notOwned
        (placed.binary present vacant sidePlaced)).of_outcome same
      split
      · rename_i unread
        exact followed.refused unread
      · rename_i found behind behindBound chained
        rw [chained] at followed
        exact followed

end Bracework.Machine
