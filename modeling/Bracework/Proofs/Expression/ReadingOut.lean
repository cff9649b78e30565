import Bracework.Proofs.Expression.OpenFrames

/-!
# Moving an expression out of an arena

The finished expression is moved out of the arena, part by part. A part that is moved out leaves a
hole, and coming to a hole later would be an error; so the reader below carries the holes that it
has left and fails at the first one that it meets.

In a complete and grouped arena that is a tree, the reader meets no hole and leaves one for every
part. It gives the same expression as a reading that leaves the arena as it is, and the operands of
that expression are those of the arena, in the order in which they were read.
-/

namespace Bracework

/-- What an operand was read as: a path, with its formatter if it is a call, or a literal. -/
inductive Operand where
  | path (segments : List Segment) (formatter : Option Text)
  | number (literal : NumberLiteral)
  | string (literal : StringLiteral)
deriving DecidableEq, Repr

namespace Expression

mutual

/-- The operands of an expression from left to right, each call before its arguments. -/
def operands : Expression → List Operand
  | .path segments => [.path segments none]
  | .call receiver formatter arguments =>
    .path receiver (some formatter) :: argumentOperands arguments
  | .number literal => [.number literal]
  | .string literal => [.string literal]
  | .sequence items => itemOperands items
  | .binary _ left right => operands left ++ operands right
  | .invert operand => operands operand

/-- The operands of several arguments. -/
def argumentOperands : List (Argument Expression) → List Operand
  | [] => []
  | first :: rest => argumentOperand first ++ argumentOperands rest

/-- The operands of an argument. -/
def argumentOperand : Argument Expression → List Operand
  | ⟨_, value⟩ => operands value

/-- The operands of several items. -/
def itemOperands : List Expression → List Operand
  | [] => []
  | first :: rest => operands first ++ itemOperands rest

end

/-- The operands of several items are those of each item. -/
theorem itemOperands_eq (items : List Expression) :
    itemOperands items = items.flatMap operands := by
  induction items with
  | nil => rfl
  | cons first rest induction => rw [itemOperands, List.flatMap_cons, induction]

/-- Arguments with the names of others and values of their own. -/
def withNames (named : List (Argument PartId)) (values : List Expression) :
    List (Argument Expression) :=
  named.zipWith (fun argument value => ⟨argument.name, value⟩) values

/-- The operands of arguments are those of their values. -/
theorem argumentOperands_withNames {named : List (Argument PartId)} {values : List Expression}
    (paired : values.length = named.length) :
    argumentOperands (withNames named values) = values.flatMap operands := by
  induction named generalizing values with
  | nil =>
    obtain rfl := List.length_eq_zero_iff.1 paired
    rfl
  | cons argument named induction =>
    cases values with
    | nil => cases paired
    | cons value values =>
      rw [withNames, List.zipWith_cons_cons, argumentOperands, argumentOperand, List.flatMap_cons,
        ← withNames, induction (Nat.succ.inj paired)]

end Expression

namespace Part

/-- The operand that a part was read as, if it is one. -/
def operand? : Part → Option Operand
  | .path part => some (.path part.segments part.formatter)
  | .number literal => some (.number literal)
  | .string literal => some (.string literal)
  | .list _ => none
  | .operation _ _ _ => none

/-- The expression of a part, made of the expressions of the parts that it refers to. -/
def assemble? : Part → List Expression → Option Expression
  | .path part, values =>
    match part.formatter with
    | none => some (.path part.segments)
    | some formatter =>
      some (.call part.segments formatter (Expression.withNames part.arguments values))
  | .number literal, _ => some (.number literal)
  | .string literal, _ => some (.string literal)
  | .list _, items => some (.sequence items)
  | .operation .invert _ none, [operand] => some (.invert operand)
  | .operation (.binary operator) _ (some _), [left, right] => some (.binary operator left right)
  | .operation _ _ _, _ => none

end Part

namespace Arena

/-- The operands of an arena, in the order in which they were read. -/
def operands (arena : Arena) : List Operand := arena.parts.toList.filterMap Part.operand?

/-- Several expressions are moved out, one behind the other. -/
def takeAll (take : PartId → List PartId → Option (Expression × List PartId)) :
    List PartId → List PartId → Option (List Expression × List PartId)
  | [], holes => some ([], holes)
  | id :: ids, holes => do
    let (expression, holes) ← take id holes
    let (expressions, holes) ← takeAll take ids holes
    return (expression :: expressions, holes)

/-- The expression below a part, at most `depth` levels deep, is moved out of an arena with holes.
There is none when the part, or a part below it, has been moved out before. -/
def takeOut (arena : Arena) : Nat → PartId → List PartId → Option (Expression × List PartId)
  | 0, _, _ => none
  | depth + 1, id, holes =>
    if id ∈ holes then none
    else do
      let part ← arena.part? id
      let (below, holes) ← takeAll (takeOut arena depth) part.references (id :: holes)
      let expression ← part.assemble? below
      return (expression, holes)

/-- The whole expression is moved out, the top-level list first. -/
def takeWhole? (arena : Arena) : Option (Expression × List PartId) :=
  match arena.part? root with
  | some (.list [single]) => arena.takeOut arena.next single [root]
  | some (.list (first :: second :: items)) => do
    let (expressions, holes) ←
      takeAll (arena.takeOut arena.next) (first :: second :: items) [root]
    return (.sequence expressions, holes)
  | _ => none

variable {arena : Arena} {id : PartId} {part : Part} {roots ids : List PartId} {depth : Nat}
  {values : List Expression} {expression : Expression}

/-! ### One part -/

/-- A part that is grouped and lacks nothing makes an expression of those below it, and adds itself
to their operands if it is one. -/
theorem exists_assembled (grouped : Grouped arena part.kind part.references)
    (complete : ¬part.kind.Lacks part.references.length)
    (paired : values.length = part.references.length) :
    ∃ expression, part.assemble? values = some expression ∧
      expression.operands = part.operand?.toList ++ values.flatMap Expression.operands := by
  cases part with
  | path path =>
    cases named : path.formatter with
    | none =>
      have bare : path.arguments.map Argument.value = [] := grouped (by rw [named]; rfl)
      rw [Part.references, bare] at paired
      obtain rfl := List.length_eq_zero_iff.1 paired
      exact ⟨.path path.segments, by rw [Part.assemble?, named], by simp [Expression.operands,
        Part.operand?, named]⟩
    | some formatter =>
      rw [Part.references, List.length_map] at paired
      refine ⟨_, by rw [Part.assemble?, named], ?_⟩
      rw [Expression.operands, Expression.argumentOperands_withNames paired, Part.operand?, named]
      rfl
  | number literal =>
    obtain rfl := List.length_eq_zero_iff.1 paired
    exact ⟨.number literal, rfl, by simp [Expression.operands, Part.operand?]⟩
  | string literal =>
    obtain rfl := List.length_eq_zero_iff.1 paired
    exact ⟨.string literal, rfl, by simp [Expression.operands, Part.operand?]⟩
  | list items =>
    exact ⟨.sequence values, rfl, by rw [Expression.operands, Expression.itemOperands_eq]; rfl⟩
  | operation operator left right =>
    cases right with
    | none =>
      obtain ⟨operand, rfl⟩ := List.length_eq_one_iff.1 paired
      cases operator with
      | invert => exact ⟨.invert operand, rfl, by simp [Expression.operands, Part.operand?]⟩
      | binary operator => exact absurd ⟨rfl, rfl⟩ complete
    | some side =>
      obtain ⟨first, second, rfl⟩ := List.length_eq_two.1 paired
      cases operator with
      | invert =>
        obtain ⟨-, rightSide⟩ := grouped.sides
        cases (rightSide side rfl).1
      | binary operator =>
        exact ⟨.binary operator first second, rfl, by simp [Expression.operands, Part.operand?]⟩

/-- Arguments are read like their values, and keep their names. -/
theorem mapM_arguments {read : PartId → Option Expression} {arguments : List (Argument PartId)}
    (found : (arguments.map Argument.value).mapM read = some values) :
    (arguments.mapM fun argument =>
      (read argument.value).map fun value => (⟨argument.name, value⟩ : Argument Expression)) =
        some (Expression.withNames arguments values) := by
  induction arguments generalizing values with
  | nil =>
    cases found
    rfl
  | cons argument arguments induction =>
    rw [List.map_cons, List.mapM_cons] at found
    obtain ⟨first, head, found⟩ := Option.bind_eq_some_iff.1 found
    obtain ⟨rest, tail, found⟩ := Option.bind_eq_some_iff.1 found
    cases found
    rw [List.mapM_cons, head, induction tail]
    rfl

/-- Reading a part in place assembles it from the expressions below it. -/
theorem expression?_of_values (present : arena.part? id = some part)
    (below : part.references.mapM (arena.expression? depth) = some values)
    (assembled : part.assemble? values = some expression) :
    arena.expression? (depth + 1) id = some expression := by
  cases part with
  | path path =>
    cases named : path.formatter with
    | none =>
      rw [Part.assemble?, named] at assembled
      simp only [expression?, present, named, assembled]
    | some formatter =>
      rw [Part.assemble?, named] at assembled
      simp only [expression?, present, named, mapM_arguments below, Option.map_some, assembled]
  | number literal =>
    rw [Part.assemble?] at assembled
    simp only [expression?, present, assembled]
  | string literal =>
    rw [Part.assemble?] at assembled
    simp only [expression?, present, assembled]
  | list items =>
    rw [Part.assemble?] at assembled
    rw [Part.references] at below
    simp only [expression?, present, below, Option.map_some, assembled]
  | operation operator left right =>
    rw [Part.references, List.mapM_cons] at below
    obtain ⟨first, head, below⟩ := Option.bind_eq_some_iff.1 below
    obtain ⟨rest, tail, below⟩ := Option.bind_eq_some_iff.1 below
    cases below
    cases right with
    | none =>
      cases tail
      cases operator with
      | invert =>
        simp only [expression?, present, head, Option.map_some]
        exact assembled
      | binary operator => cases assembled
    | some side =>
      rw [Option.toList_some, List.mapM_cons] at tail
      obtain ⟨second, value, tail⟩ := Option.bind_eq_some_iff.1 tail
      cases tail
      cases operator with
      | invert => cases assembled
      | binary operator =>
        simp only [expression?, present, head, value]
        exact assembled

/-- Moving out a part that is no hole assembles it from what is moved out below it. -/
theorem takeOut_of_values {holes left : List PartId} (whole : id ∉ holes)
    (present : arena.part? id = some part)
    (below : takeAll (arena.takeOut depth) part.references (id :: holes) = some (values, left))
    (assembled : part.assemble? values = some expression) :
    arena.takeOut (depth + 1) id holes = some (expression, left) := by
  rw [takeOut, if_neg whole, present]
  simp [below, assembled]

/-! ### All parts -/

/-- Where no part is below another twice, parts are moved out without meeting a hole, and leave one
for each part below them. The expressions are those that are read in place.

Proof: by induction on the parts in preorder. What is below a part is moved out after it and before
the parts behind it. -/
theorem Spans.taken (spans : Spans arena roots ids) (grouped : WellGrouped arena)
    (complete : ∀ slot, ¬arena.Lacks slot) (distinct : ids.Nodup) :
    ∀ depth holes, ids.length ≤ depth → (∀ id ∈ ids, id ∉ holes) → ∃ expressions,
      roots.mapM (arena.expression? depth) = some expressions ∧
        takeAll (arena.takeOut depth) roots holes = some (expressions, ids.reverse ++ holes) ∧
        expressions.length = roots.length ∧
        expressions.flatMap Expression.operands =
          ids.filterMap fun id => (arena.part? id).bind Part.operand? := by
  induction spans with
  | nil =>
    intro depth holes enough apart
    exact ⟨[], rfl, rfl, rfl, rfl⟩
  | @cons id roots references below others present inner outer innerInduction outerInduction =>
    intro depth holes enough apart
    obtain ⟨fresh, distinctRest⟩ := List.nodup_cons.1 distinct
    obtain ⟨distinctBelow, distinctOthers, separate⟩ := List.nodup_append.1 distinctRest
    obtain ⟨level, rfl⟩ : ∃ level, depth = level + 1 := by
      cases depth with
      | zero => cases enough
      | succ level => exact ⟨level, rfl⟩
    rw [List.length_cons, List.length_append] at enough
    obtain ⟨part, found, rfl⟩ := Option.map_eq_some_iff.1 present
    have kind : arena.kind? id = some part.kind := by rw [kind?, found, Option.map_some]
    -- Below this part, it is a hole already; behind it, so is all that is below it.
    obtain ⟨values, inPlace, takenBelow, paired, operandsBelow⟩ :=
      innerInduction distinctBelow level (id :: holes) (by lia) (by
        intro child member hole
        rcases List.mem_cons.1 hole with rfl | hole
        · exact fresh (List.mem_append_left _ member)
        · exact apart child (List.mem_cons_of_mem _ (List.mem_append_left _ member)) hole)
    have lacksNothing : ¬part.kind.Lacks part.references.length := by
      intro lacks
      exact complete ⟨id, _⟩ ⟨_, _, kind, present, lacks, rfl⟩
    obtain ⟨expression, assembled, own⟩ :=
      exists_assembled (grouped _ _ _ kind present) lacksNothing paired
    obtain ⟨rest, restInPlace, takenRest, pairedRest, operandsRest⟩ :=
      outerInduction distinctOthers (level + 1) (below.reverse ++ id :: holes) (by lia) (by
        intro other member hole
        rcases List.mem_append.1 hole with hole | hole
        · exact separate other (List.mem_reverse.1 hole) other member rfl
        · rcases List.mem_cons.1 hole with rfl | hole
          · exact fresh (List.mem_append_right _ member)
          · exact apart other (List.mem_cons_of_mem _ (List.mem_append_right _ member)) hole)
    have takenHere :=
      takeOut_of_values (apart id (List.mem_cons_self ..)) found takenBelow assembled
    refine ⟨expression :: rest, ?_, ?_, ?_, ?_⟩
    · rw [List.mapM_cons, expression?_of_values found inPlace assembled, restInPlace]
      rfl
    · rw [takeAll, takenHere]
      simp [takenRest]
    · rw [List.length_cons, List.length_cons, pairedRest]
    · rw [List.flatMap_cons, own, operandsBelow, operandsRest, List.filterMap_cons, found,
        Option.bind_some, List.filterMap_append]
      cases part.operand? <;> simp

/-! ### The whole expression -/

/-- Listed by their numbers, the parts of an arena are its parts. -/
theorem map_part? : (List.range arena.next).map arena.part? = arena.parts.toList.map some := by
  apply List.ext_getElem
  · simp [next]
  · intro index inside outside
    simp [part?]

/-- Only operands of an arena have been read as operands. -/
theorem operand?_eq_none (other : arena.isOperand id = false) :
    (arena.part? id).bind Part.operand? = none := by
  rw [isOperand, kind?] at other
  cases found : arena.part? id with
  | none => rfl
  | some part =>
    rw [found] at other
    cases part with
    | list items => rfl
    | operation operator left right => rfl
    | path path => cases other
    | number literal => cases other
    | string literal => cases other

/-- The operands of a tree in preorder are those of the arena. -/
theorem IsTree.operands_eq (tree : IsTree arena ids) :
    (ids.filterMap fun id => (arena.part? id).bind Part.operand?) = arena.operands := by
  have selected (listed : List PartId) :
      (listed.filterMap fun id => (arena.part? id).bind Part.operand?) =
        (listed.filter arena.isOperand).filterMap
          fun id => (arena.part? id).bind Part.operand? := by
    rw [List.filterMap_filter]
    apply List.filterMap_congr
    intro id _
    cases operand : arena.isOperand id with
    | true => rfl
    | false => exact operand?_eq_none operand
  have numbered :
      ((List.range arena.next).filterMap fun id => (arena.part? id).bind Part.operand?) =
        ((List.range arena.next).map arena.part?).filterMap fun part => part.bind Part.operand? := by
    rw [List.filterMap_map]
    rfl
  rw [selected, tree.ordered, ← selected, numbered, map_part?, List.filterMap_map]
  rfl

/-- In a complete orderly arena, the whole expression is read in place, and is moved out without
meeting a hole. A hole is left for each part, and the operands are those of the arena. -/
theorem Orderly.whole (orderly : arena.Orderly) (complete : ∀ slot, ¬arena.Lacks slot) :
    ∃ expression holes, arena.whole? = some expression ∧
      arena.takeWhole? = some (expression, holes) ∧ holes.Perm (List.range arena.next) ∧
        expression.operands = arena.operands := by
  obtain ⟨ids, tree⟩ := orderly.tree
  obtain ⟨top, found, isList⟩ := Option.map_eq_some_iff.1 orderly.top
  cases top with
  | path path => cases isList
  | number literal => cases isList
  | string literal => cases isList
  | operation operator left right => cases isList
  | list items =>
    obtain ⟨references, below, present, inner, rfl⟩ := tree.spans.single
    rw [references?, found, Option.map_some, Part.references] at present
    obtain rfl := Option.some.inj present
    obtain ⟨fresh, distinct⟩ := List.nodup_cons.1 tree.distinct
    have enough : below.length ≤ arena.next := by
      have all := tree.perm.length_eq
      rw [List.length_cons, List.length_range] at all
      lia
    obtain ⟨expressions, inPlace, taken, paired, operands⟩ :=
      inner.taken orderly.grouped complete distinct arena.next [root] enough (by
        rintro id member hole
        obtain rfl := List.mem_singleton.1 hole
        exact fresh member)
    have holes : (below.reverse ++ [root]).Perm (List.range arena.next) := by
      rw [← List.reverse_cons]
      exact (List.reverse_perm _).trans tree.perm
    have all : expressions.flatMap Expression.operands = arena.operands := by
      rw [operands, ← tree.operands_eq, List.filterMap_cons, found]
      rfl
    cases items with
    | nil =>
      have bare : arena.references? root = some [] := by
        rw [references?, found]
        rfl
      exact absurd ⟨_, _, orderly.top, bare, rfl, rfl⟩ (complete ⟨root, 0⟩)
    | cons first rest =>
      cases rest with
      | nil =>
        obtain ⟨expression, rfl⟩ := List.length_eq_one_iff.1 paired
        rw [List.mapM_cons] at inPlace
        obtain ⟨value, read, inPlace⟩ := Option.bind_eq_some_iff.1 inPlace
        cases inPlace
        rw [takeAll] at taken
        obtain ⟨⟨value, left⟩, moved, taken⟩ := Option.bind_eq_some_iff.1 taken
        cases taken
        refine ⟨expression, _, ?_, ?_, holes, ?_⟩
        · rw [whole?, found]
          exact read
        · rw [takeWhole?, found]
          exact moved
        · rw [← all, List.flatMap_singleton]
      | cons second rest =>
        refine ⟨.sequence expressions, _, ?_, ?_, holes, ?_⟩
        · rw [whole?, found]
          exact congrArg (Option.map Expression.sequence) inPlace
        · rw [takeWhole?, found]
          simp only [taken]
          rfl
        · rw [Expression.operands, Expression.itemOperands_eq, all]

end Arena

end Bracework
