import Bracework.Diagnostic.Basic
import Bracework.Expression.Reader
import Bracework.Text.Located

/-!
# Parsing expressions out of a template

An expression is the text between two offsets of a template, with blanks at its ends that do
not count. Reading it either gives a tree and finds nothing, or gives no tree and finds exactly
one problem, placed between the two offsets.
-/

namespace Bracework

namespace Expression

/-- Reads a text. A finding counts from the start of the text. -/
def parseAt (text : Text) : Except Finding Expression :=
  let body := text.trimBlanks
  if body = [] then .error ⟨0, .invalidPath text "an expression"⟩
  else
    match readTrimmed body with
    | .ok expression => .ok expression
    | .error refusal =>
      let leading := Text.byteLength (text.takeWhile isBlank)
      let within := body.byteLength - refusal.tail.byteLength
      .error ⟨leading + within, .expression refusal.fault body⟩

end Expression

/-- What reading an expression gives: a tree or a finding, never both. -/
structure Parsed where
  expression : Option Expression
  findings : List Finding

namespace Located

/-- Reads a fragment of a template as an expression. -/
def parse (located : Located) : Parsed :=
  match Expression.parseAt located.text with
  | .ok expression => ⟨some expression, []⟩
  | .error ⟨offset, problem⟩ => ⟨none, [⟨located.offset + offset, problem⟩]⟩

end Located

namespace Expression

/-- Reads a text on its own, outside any template. -/
def parse (text : Text) : Except (List Diagnostic) Expression :=
  let parsed := Located.parse ⟨text, 0⟩
  match parsed.expression with
  | some expression => .ok expression
  | none => .error (parsed.findings.map (Diagnostic.place (LineTable.ofSource text)))

end Expression

end Bracework
