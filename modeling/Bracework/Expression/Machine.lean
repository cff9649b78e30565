import Bracework.Expression.Arena
import Bracework.Expression.Literal

/-!
# The expression machine

Expressions of any depth are read with an explicit stack of frames, one character at a time.
A frame fills a slot of the arena and its stage says how far it got:

    argument start   about to read an argument with an optional name in brackets
    operand          waiting for the first character of an operand
    path             taking the characters of a path
    arguments        a call whose arguments are open
    finished         a complete operand; waiting for a dot, a comma, `)` or an operator

What follows a finished operand decides where it belongs:

* a dot begins the next item. In a slot of a list the item is appended; in any other slot the
  operand first becomes a list of one item, in place;
* a comma or `)` ends the argument: its frame is dropped and the frame below, which ends up at
  the open call, handles the character again;
* an operator takes the operand as its left side and its place in the slot, and a frame for
  the right side is pushed. A right side that is followed by an operator is dropped instead,
  so that the operator below becomes the left side of the next one. There is no precedence:
  `1 + 2 * 3` is `(1 + 2) * 3`.

A step either takes characters from the text, or leaves the text alone and makes the frames
lighter. Operands, paths and finished operands weigh less and less, and a dropped frame weighs
nothing, so the steps come to an end.
-/

namespace Bracework

/-- How far the expression in a slot has been read. -/
inductive Stage where
  | operand
  | path (id : PartId)
  | arguments (id : PartId)
  | finished (id : PartId)
deriving DecidableEq, Repr

/-- What is being read: the start of an argument, or the expression for a slot. -/
inductive Frame where
  | argumentStart (call : PartId)
  | expression (slot : Slot) (name : Option Text) (stage : Stage)
deriving DecidableEq, Repr

/-- The text of an expression, what is left of it, the parts read and the open frames, the
innermost first. -/
structure Machine where
  text : Text
  rest : Text
  arena : Arena
  frames : List Frame
deriving DecidableEq, Repr

/-- A fault, and the text that was left where it was found. -/
structure Refusal where
  tail : Text
  fault : ExpressionFault
deriving DecidableEq, Repr

namespace Frame

/-- What a frame counts for in the measure of a step that takes no character. -/
def weight : Frame → Nat
  | .argumentStart _ => 4
  | .expression _ _ .operand => 3
  | .expression _ _ (.path _) => 2
  | .expression _ _ (.arguments _) => 1
  | .expression _ _ (.finished _) => 1

end Frame

namespace Machine

/-- The machine before the first character: one frame waits for the first top-level item. -/
def start (text : Text) : Machine :=
  { text, rest := text, arena := Arena.initial
    frames := [.expression ⟨Arena.root, 0⟩ none .operand] }

/-- The weight of all open frames. -/
def weight (machine : Machine) : Nat :=
  machine.frames.foldr (fun frame total => frame.weight + total) 0

/-- A fault at the next character. -/
def refuse (machine : Machine) (fault : ExpressionFault) : Except Refusal Machine :=
  .error ⟨machine.rest, fault⟩

/-- The machine after taking the characters before `tail`. -/
def advance (machine : Machine) (tail : Text) : Machine := { machine with rest := tail }

/-- The machine with one frame more. -/
def push (machine : Machine) (frame : Frame) : Machine :=
  { machine with frames := frame :: machine.frames }

/-- The machine without its innermost frame. -/
def pop (machine : Machine) : Machine := { machine with frames := machine.frames.tail }

/-- The machine with another innermost frame. -/
def replaceTop (machine : Machine) (frame : Frame) : Machine :=
  { machine with frames := frame :: machine.frames.tail }

/-- A character at the start of an argument: a name in brackets is taken, and any other
character is left to the operand. -/
def argumentStart (machine : Machine) (call : PartId) (character : Char) (tail : Text) :
    Except Refusal Machine :=
  let operand (name : Option Text) : Frame :=
    .expression ⟨call, machine.arena.argumentCount call⟩ name .operand
  if isBlank character then .ok (machine.advance tail)
  else if character = '[' then
    match tail.dropWhile (· ≠ ']') with
    | [] => machine.refuse .unclosedArgumentName
    | _ :: after =>
      let name := Text.trimSpace (tail.takeWhile (· ≠ ']'))
      if name = [] ∨ !name.all isNameChar then machine.refuse (.invalidArgumentName name)
      else .ok ((machine.advance after).replaceTop (operand (some name)))
  else .ok (machine.replaceTop (operand none))

/-- The machine with a new part in a slot. -/
def insert (machine : Machine) (slot : Slot) (name : Option Text) (part : Part) : Machine :=
  { machine with arena := (machine.arena.alloc part).place slot machine.arena.next name }

/-- A character where an operand has to begin. -/
def operand (machine : Machine) (slot : Slot) (name : Option Text) (character : Char)
    (tail : Text) : Except Refusal Machine :=
  let id := machine.arena.next
  if isBlank character then .ok (machine.advance tail)
  else if isQuote character then
    match StringLiteral.read machine.rest with
    | .error fault => machine.refuse (.string fault)
    | .ok (literal, after) =>
      .ok (((machine.insert slot name (.string literal)).advance after).replaceTop
        (.expression slot name (.finished id)))
  else if isDigit character then
    match NumberLiteral.read machine.rest with
    | .error fault => machine.refuse (.number fault)
    | .ok (literal, after) =>
      .ok (((machine.insert slot name (.number literal)).advance after).replaceTop
        (.expression slot name (.finished id)))
  else if beginsPath character then
    .ok ((machine.insert slot name (.path (PathPart.start machine.rest))).replaceTop
      (.expression slot name (.path id)))
  else machine.refuse (.notAnOperand character)

/-- The draft of the path that a frame is taking. -/
def draft (machine : Machine) (id : PartId) : PathDraft :=
  match machine.arena.path? id with
  | some part => part.draft
  | none => PathDraft.empty

/-- The machine with the segments of a finished path. A fault is found at the path's first
character. -/
def finishPath (machine : Machine) (id : PartId) : Except Refusal Machine :=
  match machine.arena.path? id with
  | none => .ok machine
  | some part =>
    match part.draft.compile with
    | .error fault => .error ⟨part.tail, .path fault⟩
    | .ok segments =>
      .ok { machine with
        arena := machine.arena.modifyPath id fun path => { path with segments } }

/-- Whether a character after a path ends it, so that it belongs to what follows. -/
def endsPath (draft : PathDraft) (character : Char) : Bool :=
  (character == '/' && !draft.acceptsSlash) || (character != '/' && isOperatorChar character) ||
    isBlank character || (character != '.' && endsArgument character)

/-- A `(` after a path: the last name is the formatter. Unless the call ends at once, an
argument has to follow. -/
def openCall (machine : Machine) (slot : Slot) (name : Option Text) (id : PartId) (tail : Text) :
    Except Refusal Machine :=
  match (machine.draft id).compileCall with
  | .error fault => machine.refuse (.formatter fault)
  | .ok (receiver, formatter) =>
    let arena := machine.arena.modifyPath id fun path =>
      { path with segments := receiver, formatter := some formatter }
    let after := Text.trimStart isBlank tail
    let opened := ({ machine with arena }.advance after).replaceTop
      (.expression slot name (.arguments id))
    match after with
    | [] => .ok opened
    | next :: _ => if next = ')' then .ok opened else .ok (opened.push (.argumentStart id))

/-- A character after the start of a path. -/
def pathCharacter (machine : Machine) (slot : Slot) (name : Option Text) (id : PartId)
    (character : Char) (tail : Text) : Except Refusal Machine :=
  if character = '(' then machine.openCall slot name id tail
  else if endsPath (machine.draft id) character then do
    let finished ← machine.finishPath id
    return finished.replaceTop (.expression slot name (.finished id))
  else if !isPathChar character then machine.refuse (.strangeInPath character)
  else
    match (machine.draft id).push character with
    | .error fault => machine.refuse (.path fault)
    | .ok draft =>
      .ok ({ machine with
        arena := machine.arena.modifyPath id fun path => { path with draft } }.advance tail)

/-- A character between the arguments of a call. -/
def arguments (machine : Machine) (slot : Slot) (name : Option Text) (id : PartId)
    (character : Char) (tail : Text) : Except Refusal Machine :=
  if isBlank character then .ok (machine.advance tail)
  else if character = ',' then .ok ((machine.advance tail).push (.argumentStart id))
  else if character = ')' then
    .ok ((machine.advance tail).replaceTop (.expression slot name (.finished id)))
  else machine.refuse .missingSeparator

/-- A dot after a finished operand: the next item of its list, which the operand has to become
first unless it is an item already. -/
def followUp (machine : Machine) (slot : Slot) (id : PartId) (tail : Text) : Machine :=
  if machine.arena.isList slot.owner then
    (machine.advance tail).replaceTop
      (.expression ⟨slot.owner, slot.index + 1⟩ none .operand)
  else
    ((machine.insert slot none (.list [id])).advance tail).replaceTop
      (.expression ⟨machine.arena.next, 1⟩ none .operand)

/-- An operator after a finished operand. -/
def applyOperator (machine : Machine) (slot : Slot) (name : Option Text) (id : PartId) :
    Except Refusal Machine :=
  match Operator.read? machine.rest with
  | none => machine.refuse (.unknownOperator (machine.rest.takeWhile isOperatorChar))
  | some (operator, after) =>
    if machine.arena.isOperation slot.owner then .ok machine.pop
    else
      let applied := ((machine.insert slot none (.operation operator id none)).advance after)
        |>.replaceTop (.expression slot name (.finished machine.arena.next))
      if operator.isBinary then
        .ok (applied.push (.expression ⟨machine.arena.next, 1⟩ none .operand))
      else .ok applied

/-- Whether a part is a call. -/
def isCall (machine : Machine) (id : PartId) : Bool :=
  (machine.arena.path? id).any fun part => part.formatter.isSome

/-- A character after a finished operand. -/
def finished (machine : Machine) (slot : Slot) (name : Option Text) (id : PartId)
    (character : Char) (tail : Text) : Except Refusal Machine :=
  if isBlank character then .ok (machine.advance tail)
  else if character = '.' then .ok (machine.followUp slot id tail)
  else if endsArgument character then
    if slot.owner = Arena.root then
      machine.refuse (if character = ')' then .strayClose else .strayComma)
    else .ok machine.pop
  else if character = '(' ∧ machine.isCall id then machine.refuse .secondCall
  else if isOperatorChar character then machine.applyOperator slot name id
  else machine.refuse (.afterOperand character)

/-- What the next character does, for the innermost frame. -/
def step (machine : Machine) (character : Char) (tail : Text) : Except Refusal Machine :=
  match machine.frames with
  | [] => machine.refuse (.afterOperand character)
  | .argumentStart call :: _ => machine.argumentStart call character tail
  | .expression slot name stage :: _ =>
    match stage with
    | .operand => machine.operand slot name character tail
    | .path id => machine.pathCharacter slot name id character tail
    | .arguments id => machine.arguments slot name id character tail
    | .finished id => machine.finished slot name id character tail

/-- The machine at the end of the text, with a path that the end has finished. -/
def endPath (machine : Machine) : Except Refusal Machine :=
  match machine.frames with
  | .expression slot name (.path id) :: _ => do
    let ended ← machine.finishPath id
    return ended.replaceTop (.expression slot name (.finished id))
  | _ => .ok machine

/-- What is missing at the end of the text, for the innermost frame that misses something: a
`)`, or an operand. -/
def missing? (machine : Machine) : Option Refusal :=
  machine.frames.findSome? fun frame =>
    match frame with
    | .argumentStart call | .expression _ _ (.arguments call) =>
      let tail := match machine.arena.path? call with
        | some part => part.tail
        | none => machine.text
      some ⟨tail, .unclosedCall tail⟩
    | .expression _ _ .operand => some ⟨[], .missingOperand⟩
    | _ => none

/-- The expression that has been read when the text is at its end. -/
def result (machine : Machine) : Except Refusal Expression := do
  let ended ← machine.endPath
  match ended.missing? with
  | some refusal => throw refusal
  | none =>
    match ended.arena.whole? with
    | some expression => return expression
    | none => throw ⟨machine.text, .empty⟩

end Machine

end Bracework
