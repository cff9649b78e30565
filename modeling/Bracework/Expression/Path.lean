import Bracework.Characters
import Bracework.Expression.Basic
import Bracework.Expression.Fault

/-!
# Reading paths

The characters of a path are taken one at a time. Each is checked against the ones before it,
and the whole is cut into segments once the path has ended:

    a.b.c       members a, b and c
    ~a          the outermost context, then member a
    ../../a     twice the enclosing context, then member a
    $.a         the enclosing context, then member a
    .  or  ?    the current context

When a `(` follows, the last name is the formatter to call and is not a segment.
-/

namespace Bracework

/-- The characters of a path taken so far. -/
structure PathDraft where
  written : Text
deriving DecidableEq, Repr

namespace PathDraft

/-- A path of which nothing has been taken. -/
def empty : PathDraft := ⟨[]⟩

/-- A slash continues a path directly after `..`; anywhere else it is an operator. -/
def acceptsSlash (draft : PathDraft) : Bool := Text.endsWith ".." draft.written

/-- Whether the next character would be the first of a segment. -/
def atSegmentStart (draft : PathDraft) : Bool :=
  match draft.written.getLast? with
  | none => true
  | some last => last == '.' || last == '/' || last == '~'

/-- Whether a selector, which has to stand alone, was taken last. -/
def endsInSelector (draft : PathDraft) : Bool :=
  match draft.written.getLast? with
  | none => false
  | some last => last == '$' || last == '?'

/-- Why a character cannot be taken next, if it cannot. -/
def refusal? (draft : PathDraft) (character : Char) : Option PathFault :=
  if character = '~' ∧ draft.written ≠ [] then some .rootNotFirst
  else if character = '/' ∧ !draft.acceptsSlash then some .slashNotAfterParent
  else if (character = '$' ∨ character = '?') ∧ !draft.atSegmentStart then
    some (.selectorNotAlone character)
  else if isNameChar character ∧ draft.endsInSelector then some .missingDotAfterSelector
  else none

/-- Takes one character, unless the ones before it forbid that. -/
def push (draft : PathDraft) (character : Char) : Except PathFault PathDraft :=
  match draft.refusal? character with
  | some fault => .error fault
  | none => .ok ⟨draft.written ++ [character]⟩

/-- The leading `../` steps of a path, and `..` when it is all that is left, with what follows
them. -/
def parentSteps : Text → List Segment × Text
  | '.' :: '.' :: '/' :: rest =>
    let (segments, tail) := parentSteps rest
    (⟨"..", .parent⟩ :: segments, tail)
  | ['.', '.'] => ([⟨"..", .parent⟩], [])
  | rest => ([], rest)

/-- The segment that the text between two dots stands for. -/
def segmentOf (path part : Text) : Except PathFault Segment :=
  if part = [] then .error (.emptySegment path)
  else if part = "$" then .ok ⟨"$", .parent⟩
  else if part = "?" then .ok ⟨"?", .current⟩
  else if part.all isNameChar then .ok ⟨part, .data⟩
  else .error (.invalidSegment part)

/-- The segments of a path. A leading `~` may have a dot behind it, and a path without `~` and
`..` may begin with a dot; neither dot changes the meaning. -/
def segmentsOf (path : Text) : Except PathFault (List Segment) :=
  if path = [] then .error .emptyPath
  else if path = "." ∨ path = "?" then .ok [⟨path, .current⟩]
  else
    let (root, afterRoot) := match path with
      | '~' :: '.' :: rest => ([(⟨"~", .root⟩ : Segment)], rest)
      | '~' :: rest => ([⟨"~", .root⟩], rest)
      | rest => ([], rest)
    let (parents, afterParents) := parentSteps afterRoot
    let steps := root ++ parents
    let rest := match steps, afterParents with
      | [], '.' :: tail => tail
      | _, tail => tail
    if rest = [] then
      if steps = [] then .error .emptyPath else .ok steps
    else do
      let named ← (rest.splitOn '.').mapM (segmentOf path)
      return steps ++ named

/-- The segments of the characters taken. -/
def compile (draft : PathDraft) : Except PathFault (List Segment) := segmentsOf draft.written

/-- The characters after which the last name of a path begins. -/
def separatesNames (character : Char) : Bool :=
  character == '.' || character == '/' || character == '~'

/-- The characters before the last name and the name itself. A `~` is kept in front of the
name; a dot or a slash between the two belongs to neither. -/
def splitLastName (path : Text) : Text × Text :=
  let reversed := path.reverse
  let name := (reversed.takeWhile fun character => !separatesNames character).reverse
  match reversed.dropWhile fun character => !separatesNames character with
  | [] => ([], name)
  | separator :: before =>
    (if separator = '~' then (separator :: before).reverse else before.reverse, name)

/-- The segments of the receiver and the name of the formatter, for characters that stand
before a `(`. -/
def compileCall (draft : PathDraft) : Except PathFault (List Segment × Text) := do
  let (receiver, formatter) := splitLastName draft.written
  if formatter = [] then throw .missingFormatter
  if !formatter.all isNameChar then throw (.invalidFormatter formatter)
  let segments ← if receiver = [] then pure [] else segmentsOf receiver
  return (segments, formatter)

end PathDraft

end Bracework
