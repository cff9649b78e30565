import Bracework.Expression.Arena

/-!
# Regions of an arena

The parts that a piece of text adds to an arena have consecutive numbers, since the arena only
grows. A region is such a range of numbers. What is read out of a region is settled there: it
depends on no part outside, so slots of earlier parts may be refilled and later parts added
without changing it, and a depth of one level for each part of the region is always enough.

A finished expression is then described by three facts: its region is new, its number stands in
the slot that was reserved for it, and no other part from before the region has changed.
-/

namespace Bracework.Arena

variable {value : Type} {arena other before middle after : Arena} {part owner : Part}
  {id low high : PartId} {slot : Slot} {name : Option Text}

/-! ### Parts after an operation -/

@[simp] theorem next_alloc : (arena.alloc part).next = arena.next + 1 := by
  simp [alloc, next]

@[simp] theorem next_place : (arena.place slot id name).next = arena.next := by
  simp [place, next]

@[simp] theorem next_modifyPath {change : PathPart → PathPart} :
    (arena.modifyPath id change).next = arena.next := by
  simp [modifyPath, next]

/-- A number with a part is below the next one. -/
theorem lt_next (present : arena.part? id = some part) : id < arena.next := by
  obtain ⟨inside, -⟩ := Array.getElem?_eq_some_iff.1 present
  exact inside

/-- A new part has the next number; all others keep theirs. -/
theorem part?_alloc : (arena.alloc part).part? id =
    if id = arena.next then some part else arena.part? id := by
  simp only [alloc, part?, next, Array.getElem?_push]
  rfl

/-- Filling a slot changes its owner alone. -/
theorem part?_place {target : PartId} :
    (arena.place slot target name).part? id =
    if slot.owner = id then (arena.part? id).map (fun owner => fill owner slot.index target name)
    else arena.part? id := by
  simp only [place, part?, Array.getElem?_modify]

/-- Changing a path changes no other part. -/
theorem part?_modifyPath_other {change : PathPart → PathPart} (different : id ≠ low) :
    (arena.modifyPath low change).part? id = arena.part? id := by
  simp only [modifyPath, part?, Array.getElem?_modify, if_neg (Ne.symm different)]

/-- A changed path. -/
theorem part?_modifyPath_same {change : PathPart → PathPart} {path : PathPart}
    (present : arena.part? id = some (.path path)) :
    (arena.modifyPath id change).part? id = some (.path (change path)) := by
  rw [part?] at present
  simp only [modifyPath, part?, Array.getElem?_modify, present, if_true, Option.map_some]

/-! ### Vacant slots -/

/-- A slot is vacant when it is one past the last argument or item of its owner, or the right
side of an operator. -/
def Vacant (index : Nat) : Part → Prop
  | .path part => index = part.arguments.length
  | .list items => index = items.length
  | .operation _ _ _ => index = 1
  | _ => False

/-- An entry at the length of a list is appended. -/
theorem setOrAppend_end (entries : List value) (change : value → value) (added : value) :
    setOrAppend entries entries.length change added = entries ++ [added] := by
  simp [setOrAppend]

/-- An entry that has been appended is replaced. -/
theorem setOrAppend_last (entries : List value) (last added : value) (change : value → value) :
    setOrAppend (entries ++ [last]) entries.length change added = entries ++ [change last] := by
  have replaced (front : List value) :
      (front ++ [last]).modify front.length change = front ++ [change last] := by
    induction front with
    | nil => rfl
    | cons first rest induction => simp [induction]
  simp [setOrAppend, replaced]

/-- Refilling a slot that was vacant keeps the name from the first filling. -/
theorem fill_fill {index : Nat} {first second : PartId} {later : Option Text}
    (vacant : Vacant index owner) :
    fill (fill owner index first name) index second later = fill owner index second name := by
  cases owner with
  | path part =>
    obtain rfl : index = part.arguments.length := vacant
    simp only [fill, setOrAppend_end, setOrAppend_last]
  | list items =>
    obtain rfl : index = items.length := vacant
    simp only [fill, setOrAppend_end, setOrAppend_last]
  | operation operator left right =>
    obtain rfl : index = 1 := vacant
    rfl
  | number literal => exact vacant.elim
  | string literal => exact vacant.elim

/-! ### Settled readings -/

/-- Two arenas agree on a region when it has the same parts in both. -/
def Agree (left right : Arena) (low high : PartId) : Prop :=
  ∀ id, low ≤ id → id < high → right.part? id = left.part? id

/-- A reading is settled on a region from a depth on when it gives the same value in every arena
that agrees there, at that depth and at every larger one. -/
def Settled (arena : Arena) (low high : PartId) (depth : Nat)
    (read : Arena → Nat → Option value) (result : value) : Prop :=
  ∀ other, Agree arena other low high → ∀ deeper, depth ≤ deeper → read other deeper = some result

/-- The expression below a part, at most `depth` levels deep. -/
def expressionAt (id : PartId) (arena : Arena) (depth : Nat) : Option Expression :=
  arena.expression? depth id

/-- The expressions below several parts. -/
def expressionsAt (ids : List PartId) (arena : Arena) (depth : Nat) : Option (List Expression) :=
  ids.mapM (arena.expression? depth)

/-- The arguments whose values are the expressions below parts. -/
def argumentsAt (arguments : List (Argument PartId)) (arena : Arena) (depth : Nat) :
    Option (List (Argument Expression)) :=
  arguments.mapM fun argument =>
    (arena.expression? depth argument.value).map (⟨argument.name, ·⟩)

namespace Settled

variable {depth : Nat} {result : value} {reading : Arena → Nat → Option value}

/-- A settled reading is one of the arena itself. -/
theorem value_eq (settled : Settled arena low high depth reading result) {deeper : Nat}
    (enough : depth ≤ deeper) : reading arena deeper = some result :=
  settled arena (fun _ _ _ => rfl) deeper enough

/-- What is settled on a region is settled on every larger one and from every larger depth on,
in every arena that agrees on the smaller region. -/
theorem widen (settled : Settled arena low high depth reading result) {lowest highest : PartId}
    {deepest : Nat} (agree : Agree arena other low high) (below : lowest ≤ low)
    (above : high ≤ highest) (deeper : depth ≤ deepest) :
    Settled other lowest highest deepest reading result := by
  intro third same level enough
  refine settled third ?_ level (Nat.le_trans deeper enough)
  intro id inside outside
  rw [same id (by lia) (by lia), agree id inside outside]

/-- Reading no parts is settled. -/
theorem expressionsAt_nil : Settled arena low high depth (expressionsAt []) [] :=
  fun _ _ _ _ => rfl

/-- Reading parts one behind the other. -/
theorem expressionsAt_cons {ids : List PartId} {first : Expression} {rest : List Expression}
    (head : Settled arena low high depth (expressionAt id) first)
    (tail : Settled arena low high depth (expressionsAt ids) rest) :
    Settled arena low high depth (expressionsAt (id :: ids)) (first :: rest) := by
  intro other agree deeper enough
  have headValue : other.expression? deeper id = some first := head other agree deeper enough
  have tailValue : ids.mapM (other.expression? deeper) = some rest :=
    tail other agree deeper enough
  simp only [expressionsAt, List.mapM_cons, headValue, tailValue]
  rfl

/-- Reading no arguments is settled. -/
theorem argumentsAt_nil : Settled arena low high depth (argumentsAt []) [] :=
  fun _ _ _ _ => rfl

/-- Reading arguments one behind the other. -/
theorem argumentsAt_cons {arguments : List (Argument PartId)} {first : Expression}
    {rest : List (Argument Expression)}
    (head : Settled arena low high depth (expressionAt id) first)
    (tail : Settled arena low high depth (argumentsAt arguments) rest) :
    Settled arena low high depth (argumentsAt (⟨name, id⟩ :: arguments))
      (⟨name, first⟩ :: rest) := by
  intro other agree deeper enough
  have headValue : other.expression? deeper id = some first := head other agree deeper enough
  have tailValue := tail other agree deeper enough
  simp only [argumentsAt] at tailValue
  simp only [argumentsAt, List.mapM_cons, headValue, tailValue]
  rfl

/-- A part inside the region is settled one level above what is settled below it. -/
theorem of_part {whole : Expression} (present : arena.part? id = some part) (inside : low ≤ id)
    (outside : id < high)
    (unfolds : ∀ other, Agree arena other low high → other.part? id = some part →
      ∀ deeper, depth ≤ deeper → other.expression? (deeper + 1) id = some whole) :
    Settled arena low high (depth + 1) (expressionAt id) whole := by
  intro other agree deeper enough
  obtain ⟨level, rfl⟩ : ∃ level, deeper = level + 1 := ⟨deeper - 1, by lia⟩
  exact unfolds other agree (by rw [agree id inside outside, present]) level (by lia)

/-- A number stands for itself. -/
theorem number {literal : NumberLiteral} (present : arena.part? id = some (.number literal))
    (inside : low ≤ id) (outside : id < high) :
    Settled arena low high 1 (expressionAt id) (.number literal) := by
  refine of_part present inside outside ?_
  intro other agree found deeper enough
  simp only [expression?, found]

/-- A string stands for itself. -/
theorem string {literal : StringLiteral} (present : arena.part? id = some (.string literal))
    (inside : low ≤ id) (outside : id < high) :
    Settled arena low high 1 (expressionAt id) (.string literal) := by
  refine of_part present inside outside ?_
  intro other agree found deeper enough
  simp only [expression?, found]

/-- A path that is no call stands for its segments. -/
theorem path {path : PathPart} (present : arena.part? id = some (.path path))
    (plain : path.formatter = none) (inside : low ≤ id) (outside : id < high) :
    Settled arena low high 1 (expressionAt id) (.path path.segments) := by
  refine of_part present inside outside ?_
  intro other agree found deeper enough
  simp only [expression?, found, plain]

/-- A call stands for its receiver, its formatter and its arguments. -/
theorem call {path : PathPart} {formatter : Text} {arguments : List (Argument Expression)}
    (present : arena.part? id = some (.path path)) (named : path.formatter = some formatter)
    (inside : low ≤ id) (outside : id < high)
    (settled : Settled arena low high depth (argumentsAt path.arguments) arguments) :
    Settled arena low high (depth + 1) (expressionAt id)
      (.call path.segments formatter arguments) := by
  refine of_part present inside outside ?_
  intro other agree found deeper enough
  have below := settled other agree deeper enough
  simp only [argumentsAt] at below
  simp only [expression?, found, named, below, Option.map_some]

/-- A list stands for the sequence of its items. -/
theorem list {ids : List PartId} {items : List Expression}
    (present : arena.part? id = some (.list ids)) (inside : low ≤ id) (outside : id < high)
    (settled : Settled arena low high depth (expressionsAt ids) items) :
    Settled arena low high (depth + 1) (expressionAt id) (.sequence items) := by
  refine of_part present inside outside ?_
  intro other agree found deeper enough
  have below := settled other agree deeper enough
  simp only [expressionsAt] at below
  simp only [expression?, found, below, Option.map_some]

/-- The mark that inverts stands for its operand, inverted. -/
theorem invert {left : PartId} {operand : Expression}
    (present : arena.part? id = some (.operation .invert left none)) (inside : low ≤ id)
    (outside : id < high) (settled : Settled arena low high depth (expressionAt left) operand) :
    Settled arena low high (depth + 1) (expressionAt id) (.invert operand) := by
  refine of_part present inside outside ?_
  intro other agree found deeper enough
  have below := settled other agree deeper enough
  simp only [expressionAt] at below
  simp only [expression?, found, below, Option.map_some]

/-- An operator between two operands. -/
theorem binary {operator : BinaryOperator} {left right : PartId} {first second : Expression}
    (present : arena.part? id = some (.operation (.binary operator) left (some right)))
    (inside : low ≤ id) (outside : id < high)
    (leftSettled : Settled arena low high depth (expressionAt left) first)
    (rightSettled : Settled arena low high depth (expressionAt right) second) :
    Settled arena low high (depth + 1) (expressionAt id) (.binary operator first second) := by
  refine of_part present inside outside ?_
  intro other agree found deeper enough
  have leftValue := leftSettled other agree deeper enough
  have rightValue := rightSettled other agree deeper enough
  simp only [expressionAt] at leftValue rightValue
  simp only [expression?, found, leftValue, rightValue]
  rfl

end Settled

/-! ### Growth -/

/-- An arena has grown from another around an owner: no part from before has changed but that
one. -/
structure Grown (before after : Arena) (owner : PartId) : Prop where
  larger : before.next ≤ after.next
  others : ∀ id, id < before.next → id ≠ owner → after.part? id = before.part? id

/-- An arena has grown by an expression in a vacant slot: the number of the expression stands in
the slot, and the expression is settled on the parts that were added. -/
structure Placed (before after : Arena) (slot : Slot) (name : Option Text) (id : PartId)
    (expression : Expression) : Prop extends Grown before after slot.owner where
  owner : after.part? slot.owner =
    (before.part? slot.owner).map fun owner => fill owner slot.index id name
  settled : Settled after before.next after.next (after.next - before.next) (expressionAt id)
    expression

/-- A call has taken arguments, which are settled on the parts that were added. -/
structure ArgumentsAdded (before after : Arena) (call : PartId) (path : PathPart)
    (arguments : List (Argument Expression)) : Prop extends Grown before after call where
  added : ∃ added,
    after.part? call = some (.path { path with arguments := path.arguments ++ added }) ∧
      Settled after before.next after.next (after.next - before.next) (argumentsAt added) arguments

/-- A list has taken items, which are settled on the parts that were added. -/
structure ItemsAdded (before after : Arena) (list : PartId) (ids : List PartId)
    (items : List Expression) : Prop extends Grown before after list where
  added : ∃ added, after.part? list = some (.list (ids ++ added)) ∧
    Settled after before.next after.next (after.next - before.next) (expressionsAt added) items

/-- Growth around an owner and then around the same owner or a part added since. -/
theorem Grown.trans {first second : PartId} (left : Grown before middle first)
    (right : Grown middle after second) (same : second = first ∨ before.next ≤ second) :
    Grown before after first where
  larger := Nat.le_trans left.larger right.larger
  others := by
    intro id old different
    have unchanged : id ≠ second := by
      rcases same with rfl | newer
      · exact different
      · lia
    rw [right.others id (Nat.lt_of_lt_of_le old left.larger) unchanged,
      left.others id old different]

/-- An arena has grown from itself. -/
theorem Grown.refl (arena : Arena) (id : PartId) : Grown arena arena id :=
  ⟨Nat.le_refl _, fun _ _ _ => rfl⟩

/-- Growth leaves a region alone that the owner does not lie in. -/
theorem Grown.agree {owner : PartId} (grown : Grown middle after owner)
    (outside : owner < low ∨ high ≤ owner) (inside : high ≤ middle.next) :
    Agree middle after low high := by
  intro id first last
  exact grown.others id (by lia) (by lia)

/-- The arena with a new part in a slot. -/
def inserted (arena : Arena) (slot : Slot) (name : Option Text) (part : Part) : Arena :=
  (arena.alloc part).place slot arena.next name

/-- A new part adds one to an arena. -/
@[simp] theorem next_inserted : (arena.inserted slot name part).next = arena.next + 1 := by
  simp [inserted]

/-- A new part in a slot changes the owner of the slot alone. -/
theorem inserted_grown : Grown arena (arena.inserted slot name part) slot.owner where
  larger := by rw [next_inserted]; lia
  others := by
    intro id old different
    have new : id ≠ arena.next := by lia
    rw [inserted, part?_place, if_neg (Ne.symm different), part?_alloc, if_neg new]

section Insertion

variable (older : slot.owner < arena.next)
include older

/-- A new part has the next number. -/
theorem part?_inserted_new : (arena.inserted slot name part).part? arena.next = some part := by
  have different : slot.owner ≠ arena.next := by lia
  rw [inserted, part?_place, if_neg different, part?_alloc, if_pos rfl]

/-- The owner of the slot refers to the new part. -/
theorem part?_inserted_owner : (arena.inserted slot name part).part? slot.owner =
    (arena.part? slot.owner).map fun owner => fill owner slot.index arena.next name := by
  have different : slot.owner ≠ arena.next := by lia
  rw [inserted, part?_place, if_pos rfl, part?_alloc, if_neg different]

end Insertion

/-- A part that takes a slot, and under which the arena then grows, is placed there once it is
settled. The slot may have been filled before, if refilling it gives what filling it would
have given at first. -/
theorem placed_of_inserted {given : Option Text} {expression : Expression}
    (older : slot.owner < before.next) (grown : Grown before arena slot.owner)
    (filled : (arena.part? slot.owner).map (fun owner => fill owner slot.index arena.next given) =
      (before.part? slot.owner).map fun owner => fill owner slot.index arena.next name)
    (later : Grown (arena.inserted slot given part) after arena.next)
    (settled : Settled after before.next after.next (after.next - before.next)
      (expressionAt arena.next) expression) :
    Placed before after slot name arena.next expression := by
  have present : slot.owner < arena.next := Nat.lt_of_lt_of_le older grown.larger
  have different : slot.owner ≠ arena.next := by lia
  have whole : Grown before after slot.owner :=
    (grown.trans (inserted_grown) (Or.inl rfl)).trans later (Or.inr grown.larger)
  refine ⟨whole, ?_, settled⟩
  have kept : slot.owner < (arena.inserted slot given part).next := by
    rw [next_inserted]
    lia
  rw [later.others slot.owner kept different, part?_inserted_owner present, filled]

/-- Filling a slot does not make its owner an operator, or keep it from being one. -/
theorem Placed.isOperation_eq {expression : Expression}
    (placed : Placed before after slot name id expression) :
    after.isOperation slot.owner = before.isOperation slot.owner := by
  simp only [isOperation, placed.owner]
  rcases before.part? slot.owner with _ | owner
  · rfl
  · cases owner with
    | operation operator left right =>
      by_cases leftmost : slot.index = 0 <;> simp [fill, leftmost]
    | _ => rfl

/-- Filling a slot does not make its owner a list, or keep it from being one. -/
theorem Placed.isList_eq {expression : Expression}
    (placed : Placed before after slot name id expression) :
    after.isList slot.owner = before.isList slot.owner := by
  simp only [isList, placed.owner]
  rcases before.part? slot.owner with _ | owner
  · rfl
  · cases owner with
    | operation operator left right =>
      by_cases leftmost : slot.index = 0 <;> simp [fill, leftmost]
    | _ => rfl

/-- Refilling a slot gives what filling it would have given at first. -/
theorem Placed.refilled {given : Option Text} {target : PartId} {expression : Expression}
    (placed : Placed before after slot name id expression)
    (present : before.part? slot.owner = some owner) (vacant : Vacant slot.index owner) :
    (after.part? slot.owner).map (fun owner => fill owner slot.index target given) =
      (before.part? slot.owner).map fun owner => fill owner slot.index target name := by
  rw [placed.owner, present]
  simp only [Option.map_some, fill_fill vacant]

/-! ### Parts above a placed expression -/

section Above

variable {first : Expression} (placed : Placed before arena slot name id first)
  (present : before.part? slot.owner = some owner)
include placed present

/-- The numbers before and after a part is put above a placed expression. -/
theorem Placed.older : slot.owner < before.next ∧ before.next ≤ arena.next :=
  ⟨lt_next present, placed.larger⟩

/-- A placed expression stays settled below a part that takes its slot, whatever is added under
that part. -/
theorem Placed.settled_below (grown : Grown (arena.inserted slot none part) after arena.next) :
    Settled after before.next after.next (after.next - before.next - 1) (expressionAt id)
      first := by
  obtain ⟨older, larger⟩ := placed.older present
  have later : arena.next + 1 ≤ after.next := by
    have added : (arena.inserted slot none part).next = arena.next + 1 := next_inserted
    rw [← added]
    exact grown.larger
  have kept : Agree arena after before.next arena.next := by
    intro k low high
    have inserted : Grown arena (arena.inserted slot none part) slot.owner := inserted_grown
    rw [grown.others k (by rw [next_inserted]; lia) (by lia), inserted.others k high (by lia)]
  exact placed.settled.widen kept (Nat.le_refl _) (by lia) (by lia)

variable (vacant : Vacant slot.index owner)
include vacant

/-- The mark that inverts takes the slot of its operand. -/
theorem Placed.invert :
    Placed before (arena.inserted slot none (.operation .invert id none)) slot name arena.next
      (.invert first) := by
  obtain ⟨older, larger⟩ := placed.older present
  have below := placed.settled_below present (Grown.refl (arena.inserted slot none
    (.operation .invert id none)) arena.next)
  apply placed_of_inserted older placed.toGrown (placed.refilled present vacant)
    (Grown.refl _ _)
  rw [next_inserted] at below ⊢
  have whole := Settled.invert (part?_inserted_new (Nat.lt_of_lt_of_le older larger)) larger
    (Nat.lt_succ_self _) below
  exact whole.widen (fun _ _ _ => rfl) (Nat.le_refl _) (Nat.le_refl _) (by lia)

/-- An operator takes the slot of its left side, when its right side is placed under it. -/
theorem Placed.binary {operator : BinaryOperator} {side : PartId} {second : Expression}
    (right : Placed (arena.inserted slot none (.operation (.binary operator) id none)) after
      ⟨arena.next, 1⟩ none side second) :
    Placed before after slot name arena.next (.binary operator first second) := by
  obtain ⟨older, larger⟩ := placed.older present
  have left := placed.settled_below present right.toGrown
  have later := right.larger
  rw [next_inserted] at later
  have applied : after.part? arena.next = some (.operation (.binary operator) id (some side)) := by
    rw [right.owner, part?_inserted_new (Nat.lt_of_lt_of_le older larger)]
    rfl
  have rightSettled : Settled after before.next after.next (after.next - before.next - 1)
      (expressionAt side) second :=
    right.settled.widen (fun _ _ _ => rfl) (by rw [next_inserted]; lia) (Nat.le_refl _)
      (by rw [next_inserted]; lia)
  apply placed_of_inserted older placed.toGrown (placed.refilled present vacant) right.toGrown
  have whole := Settled.binary applied larger (lt_next applied) left rightSettled
  exact whole.widen (fun _ _ _ => rfl) (Nat.le_refl _) (Nat.le_refl _) (by lia)

/-- A list takes the slot of its first item, when the other items are added to it. -/
theorem Placed.sequence {rest : List Expression}
    (items : ItemsAdded (arena.inserted slot none (.list [id])) after arena.next [id] rest) :
    Placed before after slot name arena.next (.sequence (first :: rest)) := by
  obtain ⟨older, larger⟩ := placed.older present
  have head := placed.settled_below present items.toGrown
  have later := items.larger
  rw [next_inserted] at later
  obtain ⟨added, listed, settled⟩ := items.added
  have tail : Settled after before.next after.next (after.next - before.next - 1)
      (expressionsAt added) rest :=
    settled.widen (fun _ _ _ => rfl) (by rw [next_inserted]; lia) (Nat.le_refl _)
      (by rw [next_inserted]; lia)
  apply placed_of_inserted older placed.toGrown (placed.refilled present vacant) items.toGrown
  have whole := Settled.list listed larger (lt_next listed) (Settled.expressionsAt_cons head tail)
  exact whole.widen (fun _ _ _ => rfl) (Nat.le_refl _) (Nat.le_refl _) (by lia)

end Above

/-! ### Items and arguments one behind the other -/

/-- What has been added to an arena stays settled while the same owner takes more. -/
theorem Grown.settled_again {depth : Nat} {result : value} {reading : Arena → Nat → Option value}
    {owner : PartId} (older : owner < before.next)
    (settled : Settled middle before.next middle.next depth reading result)
    (grown : Grown middle after owner) (deeper : depth ≤ after.next - before.next) :
    Settled after before.next after.next (after.next - before.next) reading result := by
  have kept : Agree middle after before.next middle.next :=
    grown.agree (Or.inl older) (Nat.le_refl _)
  exact settled.widen kept (Nat.le_refl _) grown.larger deeper

/-- A placed item is one item more of its list. -/
theorem ItemsAdded.single {list : PartId} {ids : List PartId} {first : Expression}
    (present : before.part? list = some (.list ids))
    (placed : Placed before after ⟨list, ids.length⟩ none id first) :
    ItemsAdded before after list ids [first] := by
  refine ⟨placed.toGrown, [id], ?_, Settled.expressionsAt_cons placed.settled
    Settled.expressionsAt_nil⟩
  rw [placed.owner, present]
  simp only [Option.map_some, fill, setOrAppend_end]

/-- A placed item and the items that its list takes behind it. -/
theorem ItemsAdded.cons {list : PartId} {ids : List PartId} {first : Expression}
    {rest : List Expression} (present : before.part? list = some (.list ids))
    (placed : Placed before middle ⟨list, ids.length⟩ none id first)
    (items : ItemsAdded middle after list (ids ++ [id]) rest) :
    ItemsAdded before after list ids (first :: rest) := by
  have older : list < before.next := lt_next present
  have larger : before.next ≤ middle.next := placed.larger
  have later : middle.next ≤ after.next := items.larger
  obtain ⟨added, listed, settled⟩ := items.added
  have head : Settled after before.next after.next (after.next - before.next) (expressionAt id)
      first :=
    items.toGrown.settled_again older placed.settled (by lia)
  have tail : Settled after before.next after.next (after.next - before.next)
      (expressionsAt added) rest :=
    settled.widen (fun _ _ _ => rfl) larger (Nat.le_refl _) (by lia)
  refine ⟨placed.toGrown.trans items.toGrown (Or.inl rfl), id :: added, ?_,
    Settled.expressionsAt_cons head tail⟩
  rw [listed, List.append_assoc, List.singleton_append]

/-- A call takes no argument. -/
theorem ArgumentsAdded.none {call : PartId} {path : PathPart}
    (present : before.part? call = some (.path path)) :
    ArgumentsAdded before before call path [] := by
  refine ⟨Grown.refl _ _, [], ?_, Settled.argumentsAt_nil⟩
  rw [present, List.append_nil]

/-- A placed argument is one argument more of its call. -/
theorem Placed.called {call : PartId} {path : PathPart} {first : Expression}
    (present : before.part? call = some (.path path))
    (placed : Placed before after ⟨call, path.arguments.length⟩ name id first) :
    after.part? call =
      some (.path { path with arguments := path.arguments ++ [⟨name, id⟩] }) := by
  rw [placed.owner, present]
  simp only [Option.map_some, fill, setOrAppend_end]

/-- A placed argument and the arguments that its call takes behind it. -/
theorem ArgumentsAdded.cons {call : PartId} {path : PathPart} {first : Expression}
    {rest : List (Argument Expression)} (present : before.part? call = some (.path path))
    (placed : Placed before middle ⟨call, path.arguments.length⟩ name id first)
    (arguments : ArgumentsAdded middle after call
      { path with arguments := path.arguments ++ [⟨name, id⟩] } rest) :
    ArgumentsAdded before after call path (⟨name, first⟩ :: rest) := by
  have older : call < before.next := lt_next present
  have larger : before.next ≤ middle.next := placed.larger
  have later : middle.next ≤ after.next := arguments.larger
  obtain ⟨added, called, settled⟩ := arguments.added
  have head : Settled after before.next after.next (after.next - before.next) (expressionAt id)
      first :=
    arguments.toGrown.settled_again older placed.settled (by lia)
  have tail : Settled after before.next after.next (after.next - before.next)
      (argumentsAt added) rest :=
    settled.widen (fun _ _ _ => rfl) larger (Nat.le_refl _) (by lia)
  refine ⟨placed.toGrown.trans arguments.toGrown (Or.inl rfl), ⟨name, id⟩ :: added, ?_,
    Settled.argumentsAt_cons head tail⟩
  rw [called, List.append_assoc, List.singleton_append]

/-- A call with the arguments that it has taken since it was the newest part. -/
theorem ArgumentsAdded.settled_call {call : PartId} {path : PathPart} {formatter : Text}
    {arguments : List (Argument Expression)}
    (added : ArgumentsAdded before after call path arguments) (newest : before.next = call + 1)
    (named : path.formatter = some formatter) (fresh : path.arguments = []) :
    Settled after call after.next (after.next - call) (expressionAt call)
      (.call path.segments formatter arguments) := by
  obtain ⟨ids, present, settled⟩ := added.added
  rw [fresh, List.nil_append] at present
  have older : call < after.next := lt_next present
  have below : Settled after call after.next (after.next - call - 1) (argumentsAt ids) arguments :=
    settled.widen (fun _ _ _ => rfl) (by lia) (Nat.le_refl _) (by lia)
  have whole := Settled.call present named (Nat.le_refl _) older below
  exact whole.widen (fun _ _ _ => rfl) (Nat.le_refl _) (Nat.le_refl _) (by lia)

end Bracework.Arena
