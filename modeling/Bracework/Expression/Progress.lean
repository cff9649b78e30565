import Bracework.Expression.Machine

/-!
# Progress of the expression machine

Every step that is not refused either takes at least one character, or takes none and makes
the open frames lighter. The two together bound the number of steps by the text.
-/

namespace Bracework

namespace Machine

/-- One machine is ahead of another when it has less text left, or the same text and lighter
frames. -/
def Ahead (next machine : Machine) : Prop :=
  next.rest.length < machine.rest.length ∨
    (next.rest = machine.rest ∧ next.weight < machine.weight)

variable {machine next : Machine} {slot : Slot} {name : Option Text} {id : PartId}
  {character : Char} {tail : Text}

/-- Blanks dropped from the front of a text make it no longer. -/
theorem trimStart_length (drop : Char → Bool) (text : Text) :
    (Text.trimStart drop text).length ≤ text.length :=
  (List.dropWhile_suffix drop).length_le

theorem argumentStart_ahead {call : PartId} {below : List Frame}
    (left : machine.rest = character :: tail)
    (top : machine.frames = .argumentStart call :: below)
    (stepped : machine.argumentStart call character tail = .ok next) : next.Ahead machine := by
  simp only [argumentStart] at stepped
  split at stepped
  · cases stepped
    exact Or.inl (by simp [advance, left])
  · split at stepped
    · split at stepped
      · simp [refuse] at stepped
      · rename_i bracket after shape
        split at stepped
        · simp [refuse] at stepped
        · cases stepped
          have dropped := (List.dropWhile_suffix (· ≠ ']') (l := tail)).length_le
          rw [shape] at dropped
          refine Or.inl ?_
          simp only [replaceTop, advance, left, List.length_cons] at dropped ⊢
          omega
    · cases stepped
      exact Or.inr ⟨rfl, by simp [replaceTop, weight, top, Frame.weight]⟩

theorem operand_ahead {below : List Frame}
    (left : machine.rest = character :: tail)
    (top : machine.frames = .expression slot name .operand :: below)
    (stepped : machine.operand slot name character tail = .ok next) : next.Ahead machine := by
  simp only [operand] at stepped
  split at stepped
  · cases stepped
    exact Or.inl (by simp [advance, left])
  · split at stepped
    · split at stepped
      · simp [refuse] at stepped
      · rename_i literal after found
        cases stepped
        exact Or.inl (StringLiteral.read_length found)
    · split at stepped
      · rename_i digit
        split at stepped
        · simp [refuse] at stepped
        · rename_i literal after found
          cases stepped
          rw [left] at found
          refine Or.inl ?_
          rw [left]
          exact NumberLiteral.read_length digit found
      · split at stepped
        · cases stepped
          exact Or.inr ⟨rfl, by simp [replaceTop, insert, weight, top, Frame.weight]⟩
        · simp [refuse] at stepped

/-- Finishing a path changes neither the text left nor the frames. -/
theorem finishPath_keeps (finished : machine.finishPath id = .ok next) :
    next.rest = machine.rest ∧ next.frames = machine.frames := by
  simp only [finishPath] at finished
  split at finished
  · cases finished
    exact ⟨rfl, rfl⟩
  · split at finished
    · simp at finished
    · cases finished
      exact ⟨rfl, rfl⟩

theorem openCall_ahead (left : machine.rest = character :: tail)
    (stepped : machine.openCall slot name id tail = .ok next) : next.Ahead machine := by
  have trimmed := trimStart_length isBlank tail
  have shorter : (Text.trimStart isBlank tail).length < machine.rest.length := by
    rw [left, List.length_cons]
    omega
  simp only [openCall] at stepped
  split at stepped
  · simp [refuse] at stepped
  · split at stepped
    · cases stepped
      exact Or.inl shorter
    · split at stepped <;> cases stepped <;> exact Or.inl shorter

theorem pathCharacter_ahead {below : List Frame}
    (left : machine.rest = character :: tail)
    (top : machine.frames = .expression slot name (.path id) :: below)
    (stepped : machine.pathCharacter slot name id character tail = .ok next) :
    next.Ahead machine := by
  simp only [pathCharacter] at stepped
  split at stepped
  · exact openCall_ahead left stepped
  · split at stepped
    · cases ended : machine.finishPath id with
      | error refusal => simp [ended, bind, Except.bind] at stepped
      | ok finished =>
        obtain ⟨sameRest, sameFrames⟩ := finishPath_keeps ended
        simp only [ended, bind, Except.bind, pure, Except.pure] at stepped
        cases stepped
        refine Or.inr ⟨sameRest, ?_⟩
        simp [replaceTop, weight, sameFrames, top, Frame.weight]
    · split at stepped
      · simp [refuse] at stepped
      · split at stepped
        · simp [refuse] at stepped
        · cases stepped
          exact Or.inl (by simp [advance, left])

theorem arguments_ahead (left : machine.rest = character :: tail)
    (stepped : machine.arguments slot name id character tail = .ok next) :
    next.Ahead machine := by
  have shorter : tail.length < machine.rest.length := by simp [left]
  simp only [arguments] at stepped
  split at stepped
  · cases stepped
    exact Or.inl shorter
  · split at stepped
    · cases stepped
      exact Or.inl shorter
    · split at stepped
      · cases stepped
        exact Or.inl shorter
      · simp [refuse] at stepped

/-- An operator symbol has at least one character. -/
theorem symbol_ne_nil (operator : Operator) : operator.symbol ≠ [] := by
  cases operator with
  | invert => decide
  | binary operator => cases operator <;> decide

/-- What follows an operator symbol is shorter than the text was. -/
theorem readOperator_length {text after : Text} {operator : Operator}
    (found : Operator.read? text = some (operator, after)) : after.length < text.length := by
  obtain ⟨candidate, _, matched⟩ := List.exists_of_findSome?_eq_some found
  obtain ⟨rest, rested, same⟩ := Option.map_eq_some_iff.1 matched
  cases same
  rw [Text.after?_eq_some_iff.1 rested, List.length_append]
  have := List.length_pos_iff.2 (symbol_ne_nil operator)
  omega

/-- Dropping the innermost frame makes the frames lighter. -/
theorem pop_weight {frame : Frame} {below : List Frame} (top : machine.frames = frame :: below) :
    machine.pop.weight < machine.weight := by
  have heavy : 0 < frame.weight := by
    cases frame with
    | argumentStart call => simp [Frame.weight]
    | expression slot name stage => cases stage <;> simp [Frame.weight]
  simp only [pop, weight, top, List.tail_cons, List.foldr_cons]
  omega

theorem applyOperator_ahead {frame : Frame} {below : List Frame}
    (top : machine.frames = frame :: below)
    (stepped : machine.applyOperator slot name id = .ok next) : next.Ahead machine := by
  simp only [applyOperator] at stepped
  split at stepped
  · simp [refuse] at stepped
  · rename_i operator after found
    have shorter := readOperator_length found
    split at stepped
    · cases stepped
      exact Or.inr ⟨rfl, pop_weight top⟩
    · split at stepped <;> cases stepped <;> exact Or.inl shorter

theorem finished_ahead {frame : Frame} {below : List Frame}
    (left : machine.rest = character :: tail) (top : machine.frames = frame :: below)
    (stepped : machine.finished slot name id character tail = .ok next) : next.Ahead machine := by
  have shorter : tail.length < machine.rest.length := by simp [left]
  simp only [finished] at stepped
  split at stepped
  · cases stepped
    exact Or.inl shorter
  · split at stepped
    · cases stepped
      refine Or.inl ?_
      simp only [followUp]
      split <;> exact shorter
    · split at stepped
      · split at stepped
        · simp [refuse] at stepped
        · cases stepped
          exact Or.inr ⟨rfl, pop_weight top⟩
      · split at stepped
        · simp [refuse] at stepped
        · split at stepped
          · exact applyOperator_ahead top stepped
          · simp [refuse] at stepped

/-- Every step that is not refused makes progress. -/
theorem step_ahead (left : machine.rest = character :: tail)
    (stepped : machine.step character tail = .ok next) : next.Ahead machine := by
  simp only [step] at stepped
  split at stepped
  · simp [refuse] at stepped
  · rename_i top
    exact argumentStart_ahead left top stepped
  · rename_i top
    split at stepped
    · exact operand_ahead left top stepped
    · exact pathCharacter_ahead left top stepped
    · exact arguments_ahead left stepped
    · exact finished_ahead left top stepped

end Machine

end Bracework
