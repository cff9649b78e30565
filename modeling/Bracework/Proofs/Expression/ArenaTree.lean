import Bracework.Proofs.Expression.ReadingOut
import Mathlib.Data.List.Nodup

/-!
# The tree of an expression under construction

Between any two steps, the parts that the machine has read are a tree under the list of top-level
items. Each other part stands in exactly one slot, whether it is finished or still being read, and
the open frames know the slots that they fill. Operators are grouped to the left, and lists are
flat.

When the text is at its end and no frame misses anything, moving the parts out gives the
expression: each part is moved out once, and each operand is in the expression once, where it has
been read.
-/

namespace Bracework

/-- The numbers of parts in a frame. -/
def Frame.parts : Frame → List PartId
  | .argumentStart call => [call]
  | .expression slot _ stage => slot.owner :: stage.part?.toList

/-- An index is that of a vacant slot: one past the last argument of a call or the last item of a
list, or the right side that an operator between two operands does not have yet. -/
def Part.IsVacant : Part → Nat → Prop
  | .path call, index => call.formatter.isSome = true ∧ index = call.arguments.length
  | .number _, _ => False
  | .string _, _ => False
  | .list items, index => index = items.length
  | .operation operator _ right, index => operator.isBinary = true ∧ right = none ∧ index = 1

namespace Arena

variable {arena : Arena} {id owner : PartId} {slot : Slot} {stage : Stage} {frame : Frame}
  {below frames : List Frame} {ids : List PartId}

/-- The numbers in all slots: arguments, items, left sides and right sides. -/
def slots (arena : Arena) : List PartId := arena.parts.toList.flatMap Part.references

/-- The number in a slot. -/
def inSlot? (arena : Arena) (slot : Slot) : Option PartId := do
  let references ← arena.references? slot.owner
  references[slot.index]?

/-- In a tree, the root and the numbers in all slots are the numbers of the parts. -/
theorem IsTree.slots_perm (tree : IsTree arena ids) :
    (root :: arena.slots).Perm (List.range arena.next) := by
  have listed : (List.range arena.next).flatMap (fun id => (arena.references? id).getD []) =
      ((List.range arena.next).map arena.part?).flatMap
        fun part => (part.map Part.references).getD [] := by
    rw [List.flatMap_map]
    rfl
  have all : (List.range arena.next).flatMap (fun id => (arena.references? id).getD []) =
      arena.slots := by
    rw [listed, map_part?, List.flatMap_map]
    rfl
  have renumbered := tree.perm.flatMap_right fun id => (arena.references? id).getD []
  rw [all] at renumbered
  exact (renumbered.symm.cons root).trans (tree.spans.perm.trans tree.perm)

/-- A slot that holds a part has its number. -/
theorem Holds.inSlot (holds : arena.Holds slot id) : arena.inSlot? slot = some id := by
  obtain ⟨front, refers, index⟩ := holds.refers
  simp [inSlot?, refers, index]

/-- A slot that waits for a part is vacant. -/
theorem Awaits.isVacant (awaits : arena.Awaits slot) :
    ∃ owner, arena.part? slot.owner = some owner ∧ owner.IsVacant slot.index := by
  obtain ⟨kind, references, present, refers, waiting, index⟩ := awaits
  obtain ⟨owner, found, rfl, rfl⟩ := exists_part present refers
  refine ⟨owner, found, ?_⟩
  cases owner with
  | path path => exact ⟨waiting, by rw [index, Part.references, List.length_map]⟩
  | number literal => exact waiting
  | string literal => exact waiting
  | list items => exact index
  | operation operator left right =>
    obtain ⟨isBinary, single⟩ := waiting
    cases right with
    | none => exact ⟨isBinary, rfl, index⟩
    | some side => cases single

/-- The part of a stage is a part. -/
theorem Suits.lt_next (suits : arena.Suits stage) (holding : stage.part? = some id) :
    id < arena.next := by
  cases stage with
  | operand => cases holding
  | path path =>
    cases holding
    exact lt_next_of_kind suits
  | arguments call =>
    cases holding
    exact lt_next_of_kind suits
  | finished operand =>
    cases holding
    obtain ⟨kind, present, -⟩ := suits
    exact lt_next_of_kind present

/-- A frame is in place when it is about to start an argument of a call, waits for an operand in a
vacant slot, or holds a part. -/
inductive InPlace (arena : Arena) : Frame → Prop where
  | argumentStart {call : PartId} (isCall : arena.kind? call = some (.path true)) :
      InPlace arena (.argumentStart call)
  | vacant {slot : Slot} {name : Option Text} (awaits : arena.Awaits slot) :
      InPlace arena (.expression slot name .operand)
  | held {slot : Slot} {name : Option Text} {stage : Stage} {id : PartId}
      (holding : stage.part? = some id) (suits : arena.Suits stage) (holds : arena.Holds slot id) :
      InPlace arena (.expression slot name stage)

/-- Frames that lead to a slot hold parts. -/
theorem Supported.inPlace (supported : Supported arena below owner) :
    ∀ frame ∈ below, InPlace arena frame := by
  induction supported with
  | bottom =>
    intro frame member
    cases member
  | above waits suits holds inner hangs induction =>
    intro frame member
    rcases List.mem_cons.1 member with rfl | member
    · exact .held waits.holding suits holds
    · exact induction frame member

/-- All frames are in place. -/
theorem Fit.inPlace (fit : arena.Fit frames) : ∀ frame ∈ frames, InPlace arena frame := by
  intro frame member
  cases fit with
  | argumentStart isCall supported =>
    rcases List.mem_cons.1 member with rfl | member
    · exact .argumentStart isCall
    · exact supported.inPlace frame member
  | vacant awaits supported =>
    rcases List.mem_cons.1 member with rfl | member
    · exact .vacant awaits
    · exact supported.inPlace frame member
  | held holding suits holds supported =>
    rcases List.mem_cons.1 member with rfl | member
    · exact .held holding suits holds
    · exact supported.inPlace frame member

/-- A frame in place knows parts only. -/
theorem InPlace.parts_lt (inPlace : InPlace arena frame) : ∀ id ∈ frame.parts, id < arena.next := by
  intro id member
  cases inPlace with
  | argumentStart isCall =>
    obtain rfl := List.mem_singleton.1 member
    exact lt_next_of_kind isCall
  | vacant awaits =>
    obtain rfl := List.mem_singleton.1 member
    obtain ⟨kind, references, present, -⟩ := awaits
    exact lt_next_of_kind present
  | held holding suits holds =>
    rcases List.mem_cons.1 member with rfl | member
    · exact holds.owner_lt
    · rw [holding] at member
      obtain rfl := List.mem_singleton.1 member
      exact suits.lt_next holding

/-- The outermost frame fills a slot of the top-level list. -/
theorem Fit.outermost (fit : arena.Fit frames) (top : arena.kind? root = some .list) :
    ∃ slot name stage,
      frames.getLast? = some (.expression slot name stage) ∧ slot.owner = root := by
  cases fit with
  | argumentStart isCall supported =>
    cases supported with
    | bottom =>
      rw [top] at isCall
      cases isCall
    | above waits suits holds inner hangs =>
      rw [List.getLast?_cons_cons]
      exact inner.outermost _ _
  | vacant awaits supported => exact supported.outermost _ _
  | held holding suits holds supported => exact supported.outermost _ _

end Arena

namespace Machine

open Arena

variable {machine : Machine} {text : Text}

/-- The parts and frames of a machine as a tree under construction. -/
structure TreeShaped (machine : Machine) : Prop where
  frameParts : ∀ frame ∈ machine.frames, ∀ id ∈ frame.parts, id < machine.arena.next
  slotParts : ∀ id ∈ machine.arena.slots, id < machine.arena.next
  once : ∀ id, id < machine.arena.next → id ≠ root → machine.arena.slots.count id = 1
  top : root ∉ machine.arena.slots
  connected : ∀ id, id < machine.arena.next → Relation.ReflTransGen machine.arena.Refers root id
  acyclic : ∀ id, ¬Relation.TransGen machine.arena.Refers id id
  outermost : ∃ slot name stage,
    machine.frames.getLast? = some (.expression slot name stage) ∧ slot.owner = root
  held : ∀ slot name stage id, .expression slot name stage ∈ machine.frames →
    stage.part? = some id → machine.arena.inSlot? slot = some id
  vacant : ∀ slot name, .expression slot name .operand ∈ machine.frames →
    ∃ owner, machine.arena.part? slot.owner = some owner ∧ owner.IsVacant slot.index
  operators : ∀ id operator left right,
    machine.arena.part? id = some (.operation operator left right) →
      machine.arena.isList left = false ∧
        ∀ side ∈ right, operator.isBinary = true ∧ machine.arena.isOperation side = false
  lists : ∀ id items, machine.arena.part? id = some (.list items) →
    ∀ item ∈ items, machine.arena.isList item = false

/-- A sound machine is shaped like a tree. -/
theorem treeShaped_of_sound (sound : Sound machine.arena machine.frames) : machine.TreeShaped := by
  obtain ⟨ids, tree⟩ := sound.orderly.tree
  have numbers := tree.slots_perm
  obtain ⟨top, -⟩ := List.nodup_cons.1 (numbers.nodup_iff.2 List.nodup_range)
  have inPlace := sound.fit.inPlace
  refine ⟨?_, ?_, ?_, top, ?_, ?_, sound.fit.outermost sound.orderly.top, ?_, ?_, ?_, ?_⟩
  · intro frame member
    exact (inPlace frame member).parts_lt
  · intro id member
    exact List.mem_range.1 (numbers.mem_iff.1 (List.mem_cons_of_mem _ member))
  · intro id inside different
    have single := numbers.count_eq id
    rw [List.count_cons_of_ne (Ne.symm different)] at single
    rw [single, List.count_eq_one_of_mem List.nodup_range (List.mem_range.2 inside)]
  · intro id inside
    obtain ⟨first, isRoot, reach⟩ := tree.spans.reached id (tree.mem_iff.2 inside)
    obtain rfl := List.mem_singleton.1 isRoot
    exact reach
  · intro id cycle
    obtain ⟨child, ⟨references, present, listed⟩, -⟩ := Relation.TransGen.head'_iff.1 cycle
    exact tree.spans.acyclic tree.distinct id (tree.mem_iff.2 (lt_next_of_references present)) cycle
  · intro slot name stage id member holding
    cases inPlace _ member with
    | vacant awaits => cases holding
    | held found suits holds =>
      obtain rfl := Option.some.inj (found.symm.trans holding)
      exact holds.inSlot
  · intro slot name member
    cases inPlace _ member with
    | vacant awaits => exact awaits.isVacant
    | held holding suits holds => cases holding
  · intro id operator left right present
    have kind : machine.arena.kind? id = some (.operation operator.isBinary) := by
      rw [kind?, present, Option.map_some, Part.kind]
    have refers : machine.arena.references? id = some (left :: right.toList) := by
      rw [references?, present, Option.map_some, Part.references]
    obtain ⟨unlisted, rightSide⟩ := (sound.orderly.grouped _ _ _ kind refers).sides
    refine ⟨Bool.eq_false_iff.2 fun isList => unlisted (isList_iff.1 isList), ?_⟩
    intro side member
    obtain ⟨isBinary, free⟩ := rightSide side member
    refine ⟨isBinary, Bool.eq_false_iff.2 fun isOperation => ?_⟩
    obtain ⟨sideBinary, sideKind⟩ := isOperation_iff.1 isOperation
    exact free sideBinary sideKind
  · intro id items present item member
    have kind : machine.arena.kind? id = some .list := by
      rw [kind?, present, Option.map_some, Part.kind]
    have refers : machine.arena.references? id = some items := by
      rw [references?, present, Option.map_some, Part.references]
    have flat := sound.orderly.grouped _ _ _ kind refers item member
    exact Bool.eq_false_iff.2 fun isList => flat (isList_iff.1 isList)

/-- Whatever the text, every state that the machine reaches is shaped like a tree. When nothing is
missing at its end, the result is the expression that is moved out of the arena: no hole is met,
each part is moved out once, and the operands of the expression are those that have been read, each
once and in the same order. -/
theorem reached_tree (reached : Reached text machine) :
    machine.TreeShaped ∧
      ∀ ended, machine.endPath = .ok ended → ended.missing? = none → ∃ expression holes,
        machine.result = .ok expression ∧ ended.arena.takeWhole? = some (expression, holes) ∧
          holes.Perm (List.range ended.arena.next) ∧
            expression.operands = ended.arena.operands := by
  refine ⟨treeShaped_of_sound reached.sound, ?_⟩
  intro ended finishes nothingMissing
  have sound : Sound ended.arena ended.frames := by
    rcases endPath_move finishes with rfl | move
    · exact reached.sound
    · exact move.sound reached.sound
  have filled : ∀ slot name below, ended.frames ≠ .expression slot name .operand :: below := by
    intro slot name below top
    rw [missing?, top] at nothingMissing
    cases nothingMissing
  obtain ⟨expression, holes, whole, taken, all, operands⟩ :=
    sound.orderly.whole (sound.complete filled)
  refine ⟨expression, holes, ?_, taken, all, operands⟩
  rw [result, finishes]
  simp only [bind, Except.bind, nothingMissing, whole]
  rfl

/-- A sum whose right side has become a list, at the end of the text. -/
theorem reached_tree_sum :
    let text : Text := "a+b().c"
    let machine := ((start text).after? 11).getD (start text)
    Reached text machine ∧ machine.rest = [] ∧ machine.frames.length = 2 ∧
      machine.arena.slots = [2, 1, 4, 3, 5] ∧ machine.TreeShaped ∧ ∃ expression holes,
        machine.result = .ok expression ∧ List.Perm holes [0, 1, 2, 3, 4, 5] ∧
          expression.operands =
            [.path [⟨"a", .data⟩] none, .path [] (some "b"), .path [⟨"c", .data⟩] none] := by
  intro text machine
  have after : (start text).after? 11 = some machine := by decide +kernel
  have reached : Reached text machine := ⟨11, steps_of_after after⟩
  obtain ⟨shaped, reads⟩ := reached_tree reached
  let ended := machine.endPath.toOption.getD machine
  have finishes : machine.endPath = .ok ended := by decide +kernel
  obtain ⟨expression, holes, result, -, all, operands⟩ := reads ended finishes (by decide +kernel)
  have count : ended.arena.next = 6 := by decide +kernel
  have read : ended.arena.operands =
      [.path [⟨"a", .data⟩] none, .path [] (some "b"), .path [⟨"c", .data⟩] none] := by
    decide +kernel
  rw [count] at all
  exact ⟨reached, by decide +kernel, by decide +kernel, by decide +kernel, shaped, expression,
    holes, result, all, operands.trans read⟩

end Machine

end Bracework
