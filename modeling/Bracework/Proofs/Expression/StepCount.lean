import Bracework.Proofs.Expression.MachineMoves

/-!
# The number of steps of the expression machine

A step that takes no character makes the frames lighter, whatever weights the stages are given, as
long as an argument start weighs more than a waiting frame, that more than a path, and a path more
than what is finished or open. A step that takes characters may make them heavier, but by no more
than one argument start.

So a character pays for the step that takes it and for the weight that this step adds. With the
least weights that is five steps a character, and three steps for the frame at the start.
-/

namespace Bracework

/-- Weights of the stages of a frame. Each stage weighs less than the stages before it. -/
structure StageWeights where
  argumentStart : Nat
  operand : Nat
  path : Nat
  arguments : Nat
  finished : Nat
  operand_lt : operand < argumentStart
  path_lt : path < operand
  arguments_lt : arguments < path
  finished_lt : finished < path
  arguments_pos : 0 < arguments
  finished_pos : 0 < finished

namespace StageWeights

/-- The least weights of the stages. -/
def least : StageWeights :=
  ⟨4, 3, 2, 1, 1, by decide, by decide, by decide, by decide, by decide, by decide⟩

/-- The weight of a frame. -/
def ofFrame (weights : StageWeights) : Frame → Nat
  | .argumentStart _ => weights.argumentStart
  | .expression _ _ .operand => weights.operand
  | .expression _ _ (.path _) => weights.path
  | .expression _ _ (.arguments _) => weights.arguments
  | .expression _ _ (.finished _) => weights.finished

/-- The weight of several frames together. -/
def total (weights : StageWeights) (frames : List Frame) : Nat :=
  frames.foldr (fun frame total => weights.ofFrame frame + total) 0

@[simp] theorem total_cons (weights : StageWeights) (frame : Frame) (below : List Frame) :
    weights.total (frame :: below) = weights.ofFrame frame + weights.total below := by
  simp [total]

/-- No frame weighs nothing. -/
theorem ofFrame_pos (weights : StageWeights) (frame : Frame) : 0 < weights.ofFrame frame := by
  obtain ⟨argumentStart, operand, path, arguments, finished, _, _, _, _, _, _⟩ := weights
  cases frame with
  | argumentStart call =>
    simp only [ofFrame]
    omega
  | expression slot name stage =>
    cases stage <;> simp only [ofFrame] <;> omega

end StageWeights

namespace Machine

variable {machine next : Machine} {weights : StageWeights}

/-- One machine comes before another when characters have been taken between them and at most one
argument start has been added, or none have been taken and the frames have become lighter. -/
def Pays (weights : StageWeights) (machine next : Machine) : Prop :=
  (next.rest.Behind machine.rest ∧
    weights.total next.frames ≤ weights.total machine.frames + weights.argumentStart) ∨
  (next.rest = machine.rest ∧ weights.total next.frames < weights.total machine.frames)

/-- Finishing a path takes no character and leaves the frames alone. -/
theorem pathEnd_pays {slot : Slot} {name : Option Text} {id : PartId} {below : List Frame}
    (top : machine.frames = .expression slot name (.path id) :: below)
    (finishes : machine.finishPath id = .ok next) :
    Pays weights machine (next.replaceTop (.expression slot name (.finished id))) := by
  obtain ⟨sameRest, sameFrames⟩ := finishPath_keeps finishes
  refine Or.inr ⟨sameRest, ?_⟩
  have lighter := weights.finished_lt
  simp only [replaceTop, sameFrames, top, List.tail_cons, StageWeights.total_cons,
    StageWeights.ofFrame]
  omega

/-- Every move takes characters or makes the frames lighter. -/
theorem Move.pays (move : Move machine next) (weights : StageWeights) :
    Pays weights machine next := by
  have operand := weights.operand_lt
  have path := weights.path_lt
  have arguments := weights.arguments_lt
  have finished := weights.finished_lt
  cases move with
  | pass behind => exact Or.inl ⟨behind, Nat.le_add_right _ _⟩
  | argument top behind =>
    rcases behind with rfl | behind
    · refine Or.inr ⟨rfl, ?_⟩
      simp only [replaceTop, advance, top, List.tail_cons, StageWeights.total_cons,
        StageWeights.ofFrame]
      omega
    · refine Or.inl ⟨behind, ?_⟩
      simp only [replaceTop, advance, top, List.tail_cons, StageWeights.total_cons,
        StageWeights.ofFrame]
      omega
  | literal top isLiteral behind =>
    refine Or.inl ⟨behind, ?_⟩
    simp only [replaceTop, advance, insert, top, List.tail_cons, StageWeights.total_cons,
      StageWeights.ofFrame]
    omega
  | path top =>
    refine Or.inr ⟨rfl, ?_⟩
    simp only [replaceTop, insert, top, List.tail_cons, StageWeights.total_cons,
      StageWeights.ofFrame]
    omega
  | pathCharacter top behind => exact Or.inl ⟨behind, Nat.le_add_right _ _⟩
  | pathEnd top finishes => exact pathEnd_pays top finishes
  | call top behind =>
    refine Or.inl ⟨behind, ?_⟩
    simp only [opened, replaceTop, advance, top, List.tail_cons, StageWeights.total_cons,
      StageWeights.ofFrame]
    omega
  | callWith top behind =>
    refine Or.inl ⟨behind, ?_⟩
    simp only [push, opened, replaceTop, advance, top, List.tail_cons, StageWeights.total_cons,
      StageWeights.ofFrame]
    omega
  | nextArgument top behind =>
    refine Or.inl ⟨behind, ?_⟩
    simp only [push, advance, StageWeights.total_cons, StageWeights.ofFrame]
    omega
  | callEnd top behind =>
    refine Or.inl ⟨behind, ?_⟩
    simp only [replaceTop, advance, top, List.tail_cons, StageWeights.total_cons,
      StageWeights.ofFrame]
    omega
  | nextItem top listed behind =>
    refine Or.inl ⟨behind, ?_⟩
    simp only [replaceTop, advance, top, List.tail_cons, StageWeights.total_cons,
      StageWeights.ofFrame]
    omega
  | promote top unlisted behind =>
    refine Or.inl ⟨behind, ?_⟩
    simp only [replaceTop, advance, insert, top, List.tail_cons, StageWeights.total_cons,
      StageWeights.ofFrame]
    omega
  | @drop slot name id below top inner =>
    refine Or.inr ⟨rfl, ?_⟩
    have positive := weights.ofFrame_pos (.expression slot name (.finished id))
    simp only [pop, top, List.tail_cons, StageWeights.total_cons]
    omega
  | unary top free isUnary behind =>
    refine Or.inl ⟨behind, ?_⟩
    simp only [applied, replaceTop, advance, insert, top, List.tail_cons, StageWeights.total_cons,
      StageWeights.ofFrame]
    omega
  | binary top free isBinary behind =>
    refine Or.inl ⟨behind, ?_⟩
    simp only [push, applied, replaceTop, advance, insert, top, List.tail_cons,
      StageWeights.total_cons, StageWeights.ofFrame]
    omega

/-- What is left to pay for: each character with an argument start and a step, and the weight of the
frames. -/
def credit (weights : StageWeights) (machine : Machine) : Nat :=
  (weights.argumentStart + 1) * machine.rest.length + weights.total machine.frames

/-- A step costs at least one. -/
theorem Pays.credit_lt (pays : Pays weights machine next) :
    credit weights next < credit weights machine := by
  unfold credit
  rcases pays with ⟨behind, heavier⟩ | ⟨same, lighter⟩
  · have shorter : next.rest.length + 1 ≤ machine.rest.length := behind.shorter
    have paid := Nat.mul_le_mul_left (weights.argumentStart + 1) shorter
    rw [Nat.mul_add, Nat.mul_one] at paid
    omega
  · rw [same]
    omega

/-- The steps between two machines are paid for. -/
theorem Steps.paid {count : Nat} (steps : Steps machine count next) (weights : StageWeights) :
    count + credit weights next ≤ credit weights machine := by
  induction steps with
  | none => exact Nat.le_of_eq (Nat.zero_add _)
  | more before goes induction =>
    obtain ⟨character, tail, left, stepped⟩ := goes
    have costs := ((step_move left stepped).pays weights).credit_lt
    omega

/-- The steps of a run that begins with a step. -/
theorem Steps.first {middle : Machine} {count : Nat} (goes : machine.GoesTo middle)
    (steps : Steps middle count next) : Steps machine (count + 1) next := by
  induction steps with
  | none => exact .more .none goes
  | more before last induction => exact .more induction last

/-- A run has come to its end: at the end of the text with the result of the machine there, or at a
character with the refusal of the step that it asks for. -/
inductive Ends (last : Machine) : Except Refusal Expression → Prop where
  | atEnd (left : last.rest = []) : Ends last last.result
  | refused {character : Char} {tail : Text} {refusal : Refusal}
      (left : last.rest = character :: tail)
      (refused : last.step character tail = .error refusal) : Ends last (.error refusal)

/-- A run goes by steps until it comes to its end. -/
theorem exists_steps (machine : Machine) :
    ∃ count last, Steps machine count last ∧ Ends last machine.run := by
  fun_induction run machine with
  | case1 machine left => exact ⟨0, machine, .none, .atEnd left⟩
  | case2 machine character tail left refusal stepped =>
    exact ⟨0, machine, .none, .refused left stepped⟩
  | case3 machine character tail left next stepped induction =>
    obtain ⟨count, last, steps, ends⟩ := induction
    exact ⟨count + 1, last, steps.first ⟨character, tail, left, stepped⟩, ends⟩

/-- A step of the machine takes at least one character, or takes none and makes the frames lighter,
however the stages are weighed. No run on a text has more than five steps for each character and
three, and every run comes to the end of the text or to a refusal.

Proof: move by move, a step that takes characters adds at most the weight of an argument start. With
the least weights, a machine's credit of five for each character left and one for each unit of
weight goes down with every step. -/
theorem run_steps_linear (text : Text) :
    (∀ machine next, Reached text machine → machine.GoesTo next →
      (∃ taken, taken ≠ [] ∧ machine.rest = taken ++ next.rest) ∨
        (next.rest = machine.rest ∧ ∀ weights : StageWeights,
          weights.total next.frames < weights.total machine.frames)) ∧
    (∀ count machine, Steps (start text) count machine → count ≤ 5 * text.length + 3) ∧
    ∃ count last, Steps (start text) count last ∧ Ends last (start text).run := by
  refine ⟨?_, ?_, exists_steps (start text)⟩
  · rintro machine next - ⟨character, tail, left, stepped⟩
    have move := step_move left stepped
    by_cases same : next.rest = machine.rest
    · refine Or.inr ⟨same, fun weights => ?_⟩
      rcases move.pays weights with ⟨behind, -⟩ | ⟨-, lighter⟩
      · have shorter := behind.shorter
        rw [same] at shorter
        exact absurd shorter (Nat.lt_irrefl _)
      · exact lighter
    · rcases move.pays .least with ⟨behind, -⟩ | ⟨unchanged, -⟩
      · exact Or.inl behind
      · exact absurd unchanged same
  · intro count machine steps
    have paid := steps.paid .least
    have whole : credit .least (start text) = 5 * text.length + 3 := rfl
    omega

end Machine

end Bracework
