import Bracework.Expression.Progress

/-!
# Reading expressions

Most bodies are plain dotted paths, which need no frames: they are taken character by
character and cut into segments. Everything else runs through the machine. The first fault
ends the reading and is reported at its byte offset in the text.
-/

namespace Bracework

namespace Machine

/-- Runs the machine to the end of its text, or to the first fault. -/
def run (machine : Machine) : Except Refusal Expression :=
  match _left : machine.rest with
  | [] => machine.result
  | character :: tail =>
    match _stepped : machine.step character tail with
    | .error refusal => .error refusal
    | .ok next => run next
termination_by (machine.rest.length, machine.weight)
decreasing_by
  rcases step_ahead _left _stepped with shorter | ⟨sameRest, lighter⟩
  · exact Prod.Lex.left _ _ shorter
  · rw [sameRest]
    exact Prod.Lex.right _ lighter

end Machine

namespace Expression

/-- Whether a text is at most a path or a number: no call, no operator, no leading quote. -/
def isPlain (text : Text) : Bool :=
  !text.contains '(' && !text.any isOperatorChar && !text.head?.any isQuote

/-- Takes the characters of a text that has to be a path as a whole. -/
def takePath (draft : PathDraft) : Text → Except Refusal PathDraft
  | [] => .ok draft
  | character :: rest =>
    if !isPathChar character then .error ⟨character :: rest, .strangeInPath character⟩
    else match draft.push character with
      | .error fault => .error ⟨character :: rest, .path fault⟩
      | .ok next => takePath next rest

/-- Reads a plain text. A number that does not end the text is followed by something for the
machine to read. -/
def readPlain (text : Text) : Except Refusal Expression :=
  if text.head?.any isDigit then
    match NumberLiteral.read text with
    | .error fault => .error ⟨text, .number fault⟩
    | .ok (literal, []) => .ok (.number literal)
    | .ok _ => (Machine.start text).run
  else do
    let draft ← takePath PathDraft.empty text
    match draft.compile with
    | .error fault => throw ⟨text, .path fault⟩
    | .ok segments => return .path segments

/-- Reads a text that is not empty and has no blanks at either end. -/
def readTrimmed (text : Text) : Except Refusal Expression :=
  if isPlain text then readPlain text else (Machine.start text).run

end Expression

end Bracework
