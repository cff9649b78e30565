import Bracework.Expression.Reader
import Bracework.Proofs.Expression.Grammar

/-!
# Outcomes of the expression machine

What a machine ends with, if it is not refused, is its outcome. A step that is taken keeps the
outcome, and a refused step leaves none, so machines can be compared by their outcomes without
looking at the steps between them.

Three comparisons are made here. Blanks in front of the rest never matter, except inside a path.
A finished frame under which another finished frame or an open call waits can be dropped: the
next character either drops it, or is refused with it and without it. And at the end of the text
a finished frame is of no account.
-/

namespace Bracework.Machine

open Grammar (skip)

variable {value : Type} {machine next : Machine} {slot : Slot} {name : Option Text} {id : PartId}
  {character : Char} {tail : Text} {frame : Frame} {below : List Frame}

/-- The expression that a machine ends with, unless it is refused. -/
def outcome (machine : Machine) : Option Expression := machine.run.toOption

/-- The outcome is the expression of a run that is not refused. -/
theorem outcome_eq_some_iff {expression : Expression} :
    machine.outcome = some expression ↔ machine.run = .ok expression := by
  rw [outcome]
  cases machine.run <;> simp [Except.toOption]

/-- A step that is taken keeps the outcome. -/
theorem outcome_step (left : machine.rest = character :: tail)
    (stepped : machine.step character tail = .ok next) : machine.outcome = next.outcome := by
  have runs : machine.run = next.run := by
    rw [run]
    split
    · simp_all
    · rename_i first rest here
      obtain ⟨rfl, rfl⟩ : first = character ∧ rest = tail := by simpa [left] using here.symm
      split <;> simp_all
  rw [outcome, runs, outcome]

/-- A refused step leaves no outcome. -/
theorem outcome_refused (refusal : Refusal) (left : machine.rest = character :: tail)
    (stepped : machine.step character tail = .error refusal) : machine.outcome = none := by
  have runs : machine.run = .error refusal := by
    rw [run]
    split
    · simp_all
    · rename_i first rest here
      obtain ⟨rfl, rfl⟩ : first = character ∧ rest = tail := by simpa [left] using here.symm
      split <;> simp_all
  rw [outcome, runs]
  rfl

/-- At the end of the text, the outcome is the whole of the arena after the last path has been
finished, unless a frame misses something. -/
theorem outcome_end (left : machine.rest = []) : machine.outcome =
    machine.endPath.toOption.bind fun ended =>
      match ended.missing? with
      | some _ => none
      | none => ended.arena.whole? := by
  have runs : machine.run = machine.result := by
    rw [run]
    split
    · rfl
    · simp_all
  rw [outcome, runs, result]
  cases machine.endPath with
  | error refusal => rfl
  | ok ended =>
    simp only [bind, Except.bind, Except.toOption, Option.bind_some]
    cases ended.missing? with
    | some refusal => rfl
    | none => cases ended.arena.whole? <;> rfl

/-- A frame that misses something at the end of the text leaves no outcome. -/
theorem outcome_missing (left : machine.rest = []) (top : machine.frames = frame :: below)
    (open_ : (∃ call, frame = .argumentStart call) ∨
      (∃ slot name call, frame = .expression slot name (.arguments call)) ∨
      ∃ slot name, frame = .expression slot name .operand) : machine.outcome = none := by
  rw [outcome_end left]
  rcases open_ with ⟨call, rfl⟩ | ⟨slot, name, call, rfl⟩ | ⟨slot, name, rfl⟩ <;>
    simp [endPath, top, missing?, Except.toOption]

/-- A reading is followed by a machine when the machine has no outcome if nothing can be read,
and otherwise has the outcome of a machine that has been reached by what was read. -/
def Follows (machine : Machine) (reading : Option value) (reached : value → Machine → Prop) :
    Prop :=
  match reading with
  | none => machine.outcome = none
  | some found => ∃ next : Machine, machine.outcome = next.outcome ∧ reached found next

/-- Where nothing can be read, a machine that follows the reading has no outcome. -/
theorem Follows.refused {reading : Option value} {reached : value → Machine → Prop}
    (follows : machine.Follows reading reached) (unread : reading = none) :
    machine.outcome = none := by
  subst unread
  exact follows

/-- Where something is read, a machine that follows the reading reaches another machine of the
same outcome. -/
theorem Follows.reaches {reading : Option value} {reached : value → Machine → Prop} {found : value}
    (follows : machine.Follows reading reached) (read : reading = some found) :
    ∃ next : Machine, machine.outcome = next.outcome ∧ reached found next := by
  subst read
  exact follows

/-- A machine of the same outcome follows the same readings. -/
theorem Follows.of_outcome {reading : Option value} {reached : value → Machine → Prop}
    (same : machine.outcome = next.outcome) (follows : next.Follows reading reached) :
    machine.Follows reading reached := by
  cases reading with
  | none => exact same.trans follows
  | some found =>
    obtain ⟨last, equal, at_last⟩ := follows
    exact ⟨last, same.trans equal, at_last⟩

/-- What is reached by a reading may go on to another machine of the same outcome. -/
theorem Follows.extend {reading : Option value} {reached further : value → Machine → Prop}
    (follows : machine.Follows reading reached)
    (goes : ∀ found next, reached found next →
      ∃ last : Machine, next.outcome = last.outcome ∧ further found last) :
    machine.Follows reading further := by
  cases reading with
  | none => exact follows
  | some found =>
    obtain ⟨next, same, at_next⟩ := follows
    obtain ⟨last, equal, at_last⟩ := goes found next at_next
    exact ⟨last, same.trans equal, at_last⟩

/-- What is reached by a reading may be described by less. -/
theorem Follows.mono {reading : Option value} {reached wider : value → Machine → Prop}
    (follows : machine.Follows reading reached)
    (implies : ∀ found next, reached found next → wider found next) :
    machine.Follows reading wider :=
  follows.extend fun found next at_next => ⟨next, rfl, implies found next at_next⟩

/-! ### Blanks -/

/-- Every frame but one that is taking a path passes over blanks. -/
def PassesBlanks : Frame → Prop
  | .expression _ _ (.path _) => False
  | _ => True

/-- A blank is taken and changes nothing. -/
theorem step_blank (top : machine.frames = frame :: below) (passes : PassesBlanks frame)
    (blank : isBlank character) : machine.step character tail = .ok (machine.advance tail) := by
  cases frame with
  | argumentStart call => simp only [step, top, argumentStart, blank, if_true]
  | expression slot name stage =>
    cases stage with
    | operand => simp only [step, top, operand, blank, if_true]
    | path id => exact passes.elim
    | arguments id => simp only [step, top, arguments, blank, if_true]
    | finished id => simp only [step, top, finished, blank, if_true]

/-- Blanks in front of the rest do not change the outcome. -/
theorem outcome_skip (top : machine.frames = frame :: below) (passes : PassesBlanks frame) :
    machine.outcome = (machine.advance (skip machine.rest)).outcome := by
  have dropped (rest : Text) :
      (machine.advance rest).outcome = (machine.advance (skip rest)).outcome := by
    induction rest with
    | nil => rfl
    | cons first rest induction =>
      by_cases blank : isBlank first
      · have stepped : (machine.advance (first :: rest)).step first rest =
            .ok (machine.advance rest) :=
          step_blank top passes blank
        have taken : (machine.advance (first :: rest)).outcome = (machine.advance rest).outcome :=
          outcome_step rfl stepped
        have same : skip (first :: rest) = skip rest := by
          simp [skip, Text.trimStart, blank]
        rw [taken, induction, same]
      · have same : skip (first :: rest) = first :: rest := by
          simp [skip, Text.trimStart, blank]
        rw [same]
  exact dropped machine.rest

/-- A text that begins with a blank is shortened by dropping blanks. -/
theorem not_blank_of_skip (trimmed : skip (character :: tail) = character :: tail) :
    isBlank character = false := by
  apply Bool.eq_false_iff.mpr
  intro blank
  have shorter := Grammar.skip_length tail
  have dropped : skip (character :: tail) = skip tail := by
    simp [skip, Text.trimStart, blank]
  rw [← dropped, trimmed, List.length_cons] at shorter
  omega

/-! ### Operators -/

/-- What begins with an operator begins with a character of one. -/
theorem operatorChar_of_read {operator : Operator} {rest : Text}
    (found : Operator.read? (character :: tail) = some (operator, rest)) :
    isOperatorChar character = true := by
  obtain ⟨candidate, -, matched⟩ := List.exists_of_findSome?_eq_some found
  obtain ⟨after, begun, -⟩ := Option.map_eq_some_iff.1 matched
  have whole := Text.after?_eq_some_iff.1 begun
  have heads (symbol : Operator) :
      ∃ first others, symbol.symbol = first :: others ∧ isOperatorChar first = true := by
    cases symbol with
    | invert => exact ⟨_, _, rfl, by decide⟩
    | binary operator => cases operator <;> exact ⟨_, _, rfl, by decide⟩
  obtain ⟨first, others, shape, isOperator⟩ := heads candidate
  rw [shape, List.cons_append] at whole
  rw [(List.cons.inj whole).1]
  exact isOperator

/-- A character of an operator has no other part to play behind an operand. -/
theorem operatorChar_plain (operator : isOperatorChar character = true) :
    isBlank character = false ∧ character ≠ '.' ∧ endsArgument character = false ∧
      character ≠ '(' := by
  simp only [isOperatorChar, Bool.or_eq_true, beq_iff_eq] at operator
  rcases operator with ((((((((((rfl | rfl) | rfl) | rfl) | rfl) | rfl) | rfl) | rfl) | rfl) |
    rfl) | rfl) | rfl <;> decide

/-- An operator behind a finished operand is applied. -/
theorem step_operator {operator : Operator} {rest : Text}
    (top : machine.frames = .expression slot name (.finished id) :: below)
    (left : machine.rest = character :: tail)
    (found : Operator.read? machine.rest = some (operator, rest)) :
    machine.step character tail = machine.applyOperator slot name id := by
  rw [left] at found
  have isOperator := operatorChar_of_read found
  obtain ⟨blank, dot, ends, opening⟩ := operatorChar_plain isOperator
  simp [step, top, finished, blank, dot, ends, opening, isOperator]

/-! ### Finished frames -/

/-- A frame whose operand or call has been read up to here. -/
def Waits : Frame → Prop
  | .expression _ _ (.finished _) => True
  | .expression _ _ (.arguments _) => True
  | _ => False

/-- Where no path is being taken, the end of the text finishes none. -/
theorem endPath_of_waits (top : machine.frames = frame :: below) (waits : Waits frame) :
    machine.endPath = .ok machine := by
  cases frame with
  | argumentStart call => exact waits.elim
  | expression slot name stage =>
    cases stage with
    | operand => exact waits.elim
    | path id => exact waits.elim
    | arguments id => simp only [endPath, top]
    | finished id => simp only [endPath, top]

/-- A character that neither is passed over, nor ends an argument, nor begins an operator is
refused behind an operand and behind an argument. -/
theorem step_stray (top : machine.frames = frame :: below) (waits : Waits frame)
    (left : machine.rest = character :: tail) (blank : isBlank character = false)
    (ends : endsArgument character = false) (operator : Operator.read? machine.rest = none) :
    ∃ refusal, machine.step character tail = .error refusal := by
  have dot : character ≠ '.' := by
    rintro rfl
    exact absurd ends (by decide)
  have comma : character ≠ ',' := by
    rintro rfl
    exact absurd ends (by decide)
  have closing : character ≠ ')' := by
    rintro rfl
    exact absurd ends (by decide)
  cases frame with
  | argumentStart call => exact waits.elim
  | expression slot name stage =>
    cases stage with
    | operand => exact waits.elim
    | path id => exact waits.elim
    | arguments id =>
      simp [step, top, arguments, blank, comma, closing, refuse]
    | finished id =>
      simp only [step, top, finished, blank, dot, ends, Bool.false_eq_true, if_false]
      split
      · exact ⟨_, rfl⟩
      · split
        · simp [applyOperator, operator, refuse]
        · exact ⟨_, rfl⟩

/-- A finished frame above a waiting one can be dropped, where an operator that follows belongs
to the frame below.

Proof: the end of the text asks nothing of either frame. A character that ends an argument, or
begins an operator of the frame below, drops the frame itself. Any other is refused by both. -/
theorem outcome_pop {under : Frame}
    (top : machine.frames = .expression slot name (.finished id) :: under :: below)
    (waits : Waits under) (inner : slot.owner ≠ Arena.root)
    (trimmed : skip machine.rest = machine.rest)
    (dotless : Text.after? ['.'] machine.rest = none)
    (passed : machine.arena.isOperation slot.owner = true ∨ Operator.read? machine.rest = none) :
    machine.outcome = machine.pop.outcome := by
  cases left : machine.rest with
  | nil =>
    have poppedLeft : machine.pop.rest = [] := left
    have popped : machine.pop.frames = under :: below := by simp only [pop, top, List.tail_cons]
    have ended : machine.endPath = .ok machine := endPath_of_waits top trivial
    have poppedEnded : machine.pop.endPath = .ok machine.pop := endPath_of_waits popped waits
    have sameMissing : machine.missing? = machine.pop.missing? := by
      simp only [missing?, top, popped, List.findSome?_cons]
      rfl
    rw [outcome_end left, outcome_end poppedLeft, ended, poppedEnded]
    simp only [Except.toOption, Option.bind_some, sameMissing]
    rfl
  | cons character tail =>
    have poppedLeft : machine.pop.rest = character :: tail := left
    rw [left] at trimmed dotless passed
    have blank := not_blank_of_skip trimmed
    have dot : character ≠ '.' := by
      rintro rfl
      simp [Text.after?] at dotless
    by_cases ends : endsArgument character = true
    · apply outcome_step left
      simp [step, top, finished, blank, dot, ends, inner]
    · have notEnds : endsArgument character = false := by simpa using ends
      cases found : Operator.read? (character :: tail) with
      | none =>
        obtain ⟨refusal, refused⟩ :=
          step_stray top (show Waits (.expression slot name (.finished id)) from trivial) left
            blank notEnds (left ▸ found)
        have popped : machine.pop.frames = under :: below := by
          simp only [pop, top, List.tail_cons]
        obtain ⟨other, otherRefused⟩ :=
          step_stray popped waits poppedLeft blank notEnds (poppedLeft ▸ found)
        rw [outcome_refused refusal left refused, outcome_refused other poppedLeft otherRefused]
      | some applied =>
        have owned : machine.arena.isOperation slot.owner = true := by
          simpa [found] using passed
        apply outcome_step left
        rw [step_operator top left (left ▸ found)]
        simp [applyOperator, left, found, owned]

end Bracework.Machine
