import Bracework.Expression.Reader
import Bracework.Proofs.Expression.Refusal

/-!
# The moves of the expression machine

A step that is not refused is one of fifteen moves. Each of them names the innermost frame that it
needs, what the frame becomes, and what is done to the arena; all that a step checks before it is
left as a hypothesis of its move. What holds of every step is shown move by move, without looking at
the characters that a step tells apart.

The machine goes from a state to another by such steps, and a state is reached when some number of
them leads to it from the start.
-/

namespace Bracework

/-- A text stands behind at least one character of another. -/
def Text.Behind (tail text : Text) : Prop := ∃ taken, taken ≠ [] ∧ text = taken ++ tail

/-- A shorter suffix stands behind at least one character. -/
theorem Text.behind_of_suffix {tail text : Text} (suffix : tail <:+ text)
    (shorter : tail.length < text.length) : tail.Behind text := by
  obtain ⟨taken, rfl⟩ := suffix
  refine ⟨taken, ?_, rfl⟩
  rintro rfl
  exact Nat.lt_irrefl _ shorter

/-- What stands behind at least one character is shorter. -/
theorem Text.Behind.shorter {tail text : Text} (behind : tail.Behind text) :
    tail.length < text.length := by
  obtain ⟨taken, nonempty, rfl⟩ := behind
  have positive := List.length_pos_iff.2 nonempty
  rw [List.length_append]
  omega

namespace Machine

variable {machine next : Machine} {slot : Slot} {name : Option Text} {id : PartId}
  {character : Char} {tail : Text} {below : List Frame}

/-- A literal has no parts below it. -/
def IsLiteral : Part → Prop
  | .number _ => True
  | .string _ => True
  | _ => False

/-- The machine after a `(` that makes a call of a path. -/
def opened (machine : Machine) (slot : Slot) (name : Option Text) (id : PartId)
    (receiver : List Segment) (formatter tail : Text) : Machine :=
  ({ machine with arena := machine.arena.modifyPath id fun path =>
    { path with segments := receiver, formatter := some formatter } }.advance tail).replaceTop
      (.expression slot name (.arguments id))

/-- The machine after an operator that takes an operand as its left side. -/
def applied (machine : Machine) (slot : Slot) (name : Option Text) (id : PartId)
    (operator : Operator) (tail : Text) : Machine :=
  ((machine.insert slot none (.operation operator id none)).advance tail).replaceTop
    (.expression slot name (.finished machine.arena.next))

/-- What one step can do to a machine. -/
inductive Move (machine : Machine) : Machine → Prop where
  /-- Characters that mean nothing to the innermost frame are passed over. -/
  | pass {tail : Text} (behind : tail.Behind machine.rest) : Move machine (machine.advance tail)
  /-- An argument begins, behind its name if it has one. -/
  | argument {call : PartId} {below : List Frame} {tail : Text} {name : Option Text}
      (top : machine.frames = .argumentStart call :: below)
      (behind : tail = machine.rest ∨ tail.Behind machine.rest) :
      Move machine ((machine.advance tail).replaceTop
        (.expression ⟨call, machine.arena.argumentCount call⟩ name .operand))
  /-- A literal takes the vacant slot. -/
  | literal {slot : Slot} {name : Option Text} {below : List Frame} {part : Part} {tail : Text}
      (top : machine.frames = .expression slot name .operand :: below)
      (isLiteral : IsLiteral part) (behind : tail.Behind machine.rest) :
      Move machine (((machine.insert slot name part).advance tail).replaceTop
        (.expression slot name (.finished machine.arena.next)))
  /-- A path that begins here takes the vacant slot. -/
  | path {slot : Slot} {name : Option Text} {below : List Frame}
      (top : machine.frames = .expression slot name .operand :: below) :
      Move machine ((machine.insert slot name (.path (PathPart.start machine.rest))).replaceTop
        (.expression slot name (.path machine.arena.next)))
  /-- A path takes a character. -/
  | pathCharacter {slot : Slot} {name : Option Text} {id : PartId} {below : List Frame}
      {draft : PathDraft} {tail : Text}
      (top : machine.frames = .expression slot name (.path id) :: below)
      (behind : tail.Behind machine.rest) :
      Move machine ({ machine with
        arena := machine.arena.modifyPath id fun path => { path with draft } }.advance tail)
  /-- A path is finished. -/
  | pathEnd {slot : Slot} {name : Option Text} {id : PartId} {below : List Frame} {ended : Machine}
      (top : machine.frames = .expression slot name (.path id) :: below)
      (finishes : machine.finishPath id = .ok ended) :
      Move machine (ended.replaceTop (.expression slot name (.finished id)))
  /-- A path becomes a call, and the call or the text ends here. -/
  | call {slot : Slot} {name : Option Text} {id : PartId} {below : List Frame}
      {receiver : List Segment} {formatter tail : Text}
      (top : machine.frames = .expression slot name (.path id) :: below)
      (behind : tail.Behind machine.rest) :
      Move machine (machine.opened slot name id receiver formatter tail)
  /-- A path becomes a call, and its first argument begins. -/
  | callWith {slot : Slot} {name : Option Text} {id : PartId} {below : List Frame}
      {receiver : List Segment} {formatter tail : Text}
      (top : machine.frames = .expression slot name (.path id) :: below)
      (behind : tail.Behind machine.rest) :
      Move machine ((machine.opened slot name id receiver formatter tail).push (.argumentStart id))
  /-- A comma announces an argument. -/
  | nextArgument {slot : Slot} {name : Option Text} {id : PartId} {below : List Frame} {tail : Text}
      (top : machine.frames = .expression slot name (.arguments id) :: below)
      (behind : tail.Behind machine.rest) :
      Move machine ((machine.advance tail).push (.argumentStart id))
  /-- A call is finished. -/
  | callEnd {slot : Slot} {name : Option Text} {id : PartId} {below : List Frame} {tail : Text}
      (top : machine.frames = .expression slot name (.arguments id) :: below)
      (behind : tail.Behind machine.rest) :
      Move machine ((machine.advance tail).replaceTop (.expression slot name (.finished id)))
  /-- A dot behind an item announces the next item of the same list. -/
  | nextItem {slot : Slot} {name : Option Text} {id : PartId} {below : List Frame} {tail : Text}
      (top : machine.frames = .expression slot name (.finished id) :: below)
      (listed : machine.arena.isList slot.owner = true) (behind : tail.Behind machine.rest) :
      Move machine ((machine.advance tail).replaceTop
        (.expression ⟨slot.owner, slot.index + 1⟩ none .operand))
  /-- A dot behind any other operand makes a list of it. -/
  | promote {slot : Slot} {name : Option Text} {id : PartId} {below : List Frame} {tail : Text}
      (top : machine.frames = .expression slot name (.finished id) :: below)
      (unlisted : machine.arena.isList slot.owner = false) (behind : tail.Behind machine.rest) :
      Move machine (((machine.insert slot none (.list [id])).advance tail).replaceTop
        (.expression ⟨machine.arena.next, 1⟩ none .operand))
  /-- A finished frame is dropped, unless it fills a slot of the top-level list. -/
  | drop {slot : Slot} {name : Option Text} {id : PartId} {below : List Frame}
      (top : machine.frames = .expression slot name (.finished id) :: below)
      (inner : slot.owner ≠ Arena.root ∨ machine.arena.isOperation slot.owner = true) :
      Move machine machine.pop
  /-- The mark that inverts takes an operand. -/
  | unary {slot : Slot} {name : Option Text} {id : PartId} {below : List Frame} {tail : Text}
      {operator : Operator} (top : machine.frames = .expression slot name (.finished id) :: below)
      (free : machine.arena.isOperation slot.owner = false) (isUnary : operator.isBinary = false)
      (behind : tail.Behind machine.rest) :
      Move machine (machine.applied slot name id operator tail)
  /-- An operator takes an operand as its left side and waits for the right side. -/
  | binary {slot : Slot} {name : Option Text} {id : PartId} {below : List Frame} {tail : Text}
      {operator : Operator} (top : machine.frames = .expression slot name (.finished id) :: below)
      (free : machine.arena.isOperation slot.owner = false) (isBinary : operator.isBinary = true)
      (behind : tail.Behind machine.rest) :
      Move machine ((machine.applied slot name id operator tail).push
        (.expression ⟨machine.arena.next, 1⟩ none .operand))

/-! ### Every step is a move -/

/-- The rest behind the next character. -/
theorem behind_next (left : machine.rest = character :: tail) : tail.Behind machine.rest :=
  ⟨[character], List.cons_ne_nil _ _, left⟩

/-- A suffix of what stands behind the next character stands behind it as well. -/
theorem behind_suffix {after : Text} (left : machine.rest = character :: tail)
    (suffix : after <:+ tail) : after.Behind machine.rest := by
  obtain ⟨skipped, rfl⟩ := suffix
  exact ⟨character :: skipped, List.cons_ne_nil _ _, left⟩

theorem argumentStart_move {call : PartId} (left : machine.rest = character :: tail)
    (top : machine.frames = .argumentStart call :: below)
    (stepped : machine.argumentStart call character tail = .ok next) : Move machine next := by
  simp only [argumentStart] at stepped
  split at stepped
  · cases stepped
    exact .pass (behind_next left)
  · split at stepped
    · split at stepped
      · cases stepped
      · rename_i bracket after shape
        split at stepped
        · cases stepped
        · cases stepped
          have dropped : tail.dropWhile (· ≠ ']') <:+ tail := List.dropWhile_suffix (· ≠ ']')
          rw [shape] at dropped
          exact .argument top (Or.inr (behind_suffix left ((List.suffix_cons ..).trans dropped)))
    · cases stepped
      have begins : Move machine ((machine.advance machine.rest).replaceTop
          (.expression ⟨call, machine.arena.argumentCount call⟩ none .operand)) :=
        .argument top (Or.inl rfl)
      exact begins

theorem operand_move (left : machine.rest = character :: tail)
    (top : machine.frames = .expression slot name .operand :: below)
    (stepped : machine.operand slot name character tail = .ok next) : Move machine next := by
  simp only [operand] at stepped
  split at stepped
  · cases stepped
    exact .pass (behind_next left)
  · split at stepped
    · split at stepped
      · cases stepped
      · rename_i literal after found
        cases stepped
        exact .literal top trivial
          (Text.behind_of_suffix (StringLiteral.read_suffix found)
            (StringLiteral.read_length found))
    · split at stepped
      · rename_i digit
        split at stepped
        · cases stepped
        · rename_i literal after found
          cases stepped
          have suffix := NumberLiteral.read_suffix found
          rw [left] at found
          have shorter := NumberLiteral.read_length digit found
          rw [← left] at shorter
          exact .literal top trivial (Text.behind_of_suffix suffix shorter)
      · split at stepped
        · cases stepped
          exact .path top
        · cases stepped

theorem openCall_move (left : machine.rest = character :: tail)
    (top : machine.frames = .expression slot name (.path id) :: below)
    (stepped : machine.openCall slot name id tail = .ok next) : Move machine next := by
  have behind : (Text.trimStart isBlank tail).Behind machine.rest :=
    behind_suffix left (List.dropWhile_suffix isBlank)
  simp only [openCall] at stepped
  split at stepped
  · cases stepped
  · split at stepped
    · cases stepped
      exact .call top behind
    · split at stepped
      · cases stepped
        exact .call top behind
      · cases stepped
        exact .callWith top behind

theorem pathCharacter_move (left : machine.rest = character :: tail)
    (top : machine.frames = .expression slot name (.path id) :: below)
    (stepped : machine.pathCharacter slot name id character tail = .ok next) :
    Move machine next := by
  simp only [pathCharacter] at stepped
  split at stepped
  · exact openCall_move left top stepped
  · split at stepped
    · cases finishes : machine.finishPath id with
      | error refusal =>
        rw [finishes] at stepped
        cases stepped
      | ok ended =>
        rw [finishes] at stepped
        cases stepped
        exact .pathEnd top finishes
    · split at stepped
      · cases stepped
      · split at stepped
        · cases stepped
        · cases stepped
          exact .pathCharacter top (behind_next left)

theorem arguments_move (left : machine.rest = character :: tail)
    (top : machine.frames = .expression slot name (.arguments id) :: below)
    (stepped : machine.arguments slot name id character tail = .ok next) : Move machine next := by
  have behind := behind_next left
  simp only [arguments] at stepped
  split at stepped
  · cases stepped
    exact .pass behind
  · split at stepped
    · cases stepped
      exact .nextArgument top behind
    · split at stepped
      · cases stepped
        exact .callEnd top behind
      · cases stepped

theorem applyOperator_move (top : machine.frames = .expression slot name (.finished id) :: below)
    (stepped : machine.applyOperator slot name id = .ok next) : Move machine next := by
  simp only [applyOperator] at stepped
  split at stepped
  · cases stepped
  · rename_i operator after found
    split at stepped
    · rename_i owned
      cases stepped
      exact .drop top (Or.inr owned)
    · rename_i free
      have behind : after.Behind machine.rest :=
        Text.behind_of_suffix (Operator.read?_suffix found) (readOperator_length found)
      split at stepped
      · rename_i isBinary
        cases stepped
        exact .binary top (Bool.eq_false_iff.2 free) isBinary behind
      · rename_i isUnary
        cases stepped
        exact .unary top (Bool.eq_false_iff.2 free) (Bool.eq_false_iff.2 isUnary) behind

theorem finished_move (left : machine.rest = character :: tail)
    (top : machine.frames = .expression slot name (.finished id) :: below)
    (stepped : machine.finished slot name id character tail = .ok next) : Move machine next := by
  have behind := behind_next left
  simp only [finished] at stepped
  split at stepped
  · cases stepped
    exact .pass behind
  · split at stepped
    · cases stepped
      unfold followUp
      split
      · rename_i listed
        exact .nextItem top listed behind
      · rename_i unlisted
        exact .promote top (Bool.eq_false_iff.2 unlisted) behind
    · split at stepped
      · split at stepped
        · cases stepped
        · rename_i inner
          cases stepped
          exact .drop top (Or.inl inner)
      · split at stepped
        · cases stepped
        · split at stepped
          · exact applyOperator_move top stepped
          · cases stepped

/-- Every step that is not refused is a move. -/
theorem step_move (left : machine.rest = character :: tail)
    (stepped : machine.step character tail = .ok next) : Move machine next := by
  simp only [step] at stepped
  split at stepped
  · cases stepped
  · rename_i top
    exact argumentStart_move left top stepped
  · rename_i top
    split at stepped
    · exact operand_move left top stepped
    · exact pathCharacter_move left top stepped
    · exact arguments_move left top stepped
    · exact finished_move left top stepped

/-- At the end of the text, a machine is left as it is, or its path is finished. -/
theorem endPath_move (ended : machine.endPath = .ok next) : next = machine ∨ Move machine next := by
  unfold endPath at ended
  split at ended
  · rename_i slot name id below top
    cases finishes : machine.finishPath id with
    | error refusal =>
      rw [finishes] at ended
      cases ended
    | ok finishing =>
      rw [finishes] at ended
      cases ended
      exact Or.inr (.pathEnd top finishes)
  · cases ended
    exact Or.inl rfl

/-! ### Runs -/

/-- One machine goes to another by a step that is not refused. -/
def GoesTo (machine next : Machine) : Prop :=
  ∃ character tail, machine.rest = character :: tail ∧ machine.step character tail = .ok next

/-- One machine goes to another by a number of steps. -/
inductive Steps (machine : Machine) : Nat → Machine → Prop where
  | none : Steps machine 0 machine
  | more {count : Nat} {middle next : Machine} (before : Steps machine count middle)
      (goes : middle.GoesTo next) : Steps machine (count + 1) next

/-- The machine after its next step, if there is a step and it is not refused. -/
def stepped? (machine : Machine) : Option Machine :=
  match machine.rest with
  | [] => none
  | character :: tail => (machine.step character tail).toOption

/-- The machine after a number of steps, if they are not refused. -/
def after? : Nat → Machine → Option Machine
  | 0, machine => some machine
  | count + 1, machine => (after? count machine).bind stepped?

/-- A machine goes to the one after its next step. -/
theorem goesTo_of_stepped (taken : machine.stepped? = some next) : machine.GoesTo next := by
  rw [stepped?] at taken
  split at taken
  · cases taken
  · rename_i character tail left
    refine ⟨character, tail, left, ?_⟩
    cases stepped : machine.step character tail with
    | error refusal =>
      rw [stepped] at taken
      cases taken
    | ok following =>
      rw [stepped] at taken
      cases taken
      rfl

/-- A machine goes to the one after a number of steps by that number of steps. -/
theorem steps_of_after {count : Nat} (after : machine.after? count = some next) :
    Steps machine count next := by
  induction count generalizing next with
  | zero =>
    cases after
    exact .none
  | succ count induction =>
    obtain ⟨middle, before, last⟩ := Option.bind_eq_some_iff.1 after
    exact .more (induction before) (goesTo_of_stepped last)

/-- The states that the machine reaches on a text. -/
def Reached (text : Text) (machine : Machine) : Prop := ∃ count, Steps (start text) count machine

/-- What holds at the start and is kept by every move holds of every state that is reached. -/
theorem Reached.induction {text : Text} {invariant : Machine → Prop}
    (reached : Reached text machine) (first : invariant (start text))
    (keeps : ∀ machine next, invariant machine → Move machine next → invariant next) :
    invariant machine := by
  obtain ⟨count, steps⟩ := reached
  induction steps with
  | none => exact first
  | more before goes induction =>
    obtain ⟨character, tail, left, stepped⟩ := goes
    exact keeps _ _ induction (step_move left stepped)

end Machine

end Bracework
