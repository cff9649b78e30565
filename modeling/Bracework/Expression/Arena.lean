import Bracework.Expression.Path

/-!
# Expressions under construction

While an expression is being read, its parts are kept in an arena and refer to each other by
number. Part zero is the list of top-level items. Every other part hangs in a slot of its
owner: an argument of a call, an item of a list, or a side of an operator. Giving a finished
part a new owner is then the replacement of one slot, however deep the part is.

The arena only grows, so a number once given stays with its part. Reading the tree out follows
the references from the top; since no part is met twice on the way down, the number of parts
bounds the depth.
-/

namespace Bracework

/-- The number of a part in its arena. -/
abbrev PartId := Nat

/-- A path, or a call once its `(` has been read. -/
structure PathPart where
  /-- The text from the first character of the path on. -/
  tail : Text
  draft : PathDraft
  segments : List Segment
  formatter : Option Text
  arguments : List (Argument PartId)
deriving DecidableEq, Repr

/-- A part of an expression under construction. -/
inductive Part where
  | path (part : PathPart)
  | number (literal : NumberLiteral)
  | string (literal : StringLiteral)
  | list (items : List PartId)
  | operation (operator : Operator) (left : PartId) (right : Option PartId)
deriving DecidableEq, Repr

/-- A place for one part in its owner: the index of an argument or item, and for an operator
zero on the left and one on the right. -/
structure Slot where
  owner : PartId
  index : Nat
deriving DecidableEq, Repr

/-- The parts allocated so far. -/
structure Arena where
  parts : Array Part
deriving DecidableEq, Repr

namespace PathPart

/-- A path that begins at `tail`, none of its characters taken. -/
def start (tail : Text) : PathPart :=
  { tail, draft := PathDraft.empty, segments := [], formatter := none, arguments := [] }

end PathPart

namespace Arena

/-- The list of top-level items. -/
def root : PartId := 0

/-- An arena with nothing but the empty list of top-level items. -/
def initial : Arena := ⟨#[.list []]⟩

/-- The part with a number. -/
def part? (arena : Arena) (id : PartId) : Option Part := arena.parts[id]?

/-- The path or call with a number. -/
def path? (arena : Arena) (id : PartId) : Option PathPart :=
  match arena.part? id with
  | some (.path part) => some part
  | _ => none

/-- The number that the next part will get. -/
def next (arena : Arena) : PartId := arena.parts.size

/-- The arena with one part more, which gets the number `next`. -/
def alloc (arena : Arena) (part : Part) : Arena := ⟨arena.parts.push part⟩

/-- The arena with the path of a number changed. -/
def modifyPath (arena : Arena) (id : PartId) (change : PathPart → PathPart) : Arena :=
  ⟨arena.parts.modify id fun part =>
    match part with
    | .path path => .path (change path)
    | other => other⟩

/-- The number of arguments a call has so far. -/
def argumentCount (arena : Arena) (call : PartId) : Nat :=
  match arena.path? call with
  | some part => part.arguments.length
  | none => 0

/-- Whether a part is a list of items. -/
def isList (arena : Arena) (id : PartId) : Bool :=
  match arena.part? id with
  | some (.list _) => true
  | _ => false

/-- Whether a part is an operator. -/
def isOperation (arena : Arena) (id : PartId) : Bool :=
  match arena.part? id with
  | some (.operation _ _ _) => true
  | _ => false

/-- The list with the entry at an index replaced, or appended when the index is the length. -/
def setOrAppend {value : Type} (entries : List value) (index : Nat) (change : value → value)
    (added : value) : List value :=
  if index < entries.length then entries.modify index change else entries ++ [added]

/-- The owner of a slot with `id` in that slot. The name of an argument is given when the
argument is first placed and stays with it. -/
def fill (owner : Part) (index : Nat) (id : PartId) (name : Option Text) : Part :=
  match owner with
  | .path part =>
    .path { part with
      arguments := setOrAppend part.arguments index (fun argument => ⟨argument.name, id⟩)
        ⟨name, id⟩ }
  | .list items => .list (setOrAppend items index (fun _ => id) id)
  | .operation operator left right =>
    if index = 0 then .operation operator id right else .operation operator left (some id)
  | .number literal => .number literal
  | .string literal => .string literal

/-- The arena with `id` in a slot. -/
def place (arena : Arena) (slot : Slot) (id : PartId) (name : Option Text) : Arena :=
  ⟨arena.parts.modify slot.owner fun owner => fill owner slot.index id name⟩

/-- The expression below a part, when it is complete and at most `depth` levels deep. -/
def expression? (arena : Arena) : Nat → PartId → Option Expression
  | 0, _ => none
  | depth + 1, id =>
    match arena.part? id with
    | none => none
    | some (.number literal) => some (.number literal)
    | some (.string literal) => some (.string literal)
    | some (.list items) => (items.mapM (expression? arena depth)).map .sequence
    | some (.path part) =>
      match part.formatter with
      | none => some (.path part.segments)
      | some formatter =>
        (part.arguments.mapM fun argument =>
          (expression? arena depth argument.value).map (⟨argument.name, ·⟩)).map
            (.call part.segments formatter)
    | some (.operation .invert left none) => (expression? arena depth left).map .invert
    | some (.operation (.binary operator) left (some right)) => do
      let leftExpression ← expression? arena depth left
      let rightExpression ← expression? arena depth right
      return .binary operator leftExpression rightExpression
    | some (.operation _ _ _) => none

/-- The whole expression: the top-level item when there is one, the sequence of the items when
there are several. -/
def whole? (arena : Arena) : Option Expression :=
  match arena.part? root with
  | some (.list []) => none
  | some (.list [single]) => arena.expression? arena.parts.size single
  | some (.list items) =>
    (items.mapM (arena.expression? arena.parts.size)).map .sequence
  | _ => none

end Arena

end Bracework
