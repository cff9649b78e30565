import Bracework.Checks.Document
import Bracework.Checks.Expression
import Bracework.Template

/-!
# Checks on templates

A test starts from a template that is expected to be valid, or expected not to be, or from an
expression that is expected to be valid. What fails that expectation is told with the
diagnostics.
-/

namespace Bracework

/-- Why a test failed. -/
inductive TestFailure where
  /-- A template broke a contract. -/
  | broken (template : Text) (breach : Breach)
  /-- A template that was expected to be valid is not. -/
  | invalidTemplate (template : Text) (diagnostics : List Diagnostic)
  /-- A template that was expected to have faults has none. -/
  | validTemplate (template : Text)
  /-- An expression that was expected to be valid is not. -/
  | invalidExpression (text : Text) (diagnostics : List Diagnostic)
  /-- A check failed. -/
  | mismatch (failed : Mismatch)
deriving Repr

namespace TestFailure

/-- Diagnostics in lines of their own. -/
def listing (diagnostics : List Diagnostic) : Text :=
  Text.joinWith "\n" (diagnostics.map fun diagnostic => "  " ++ diagnostic.render)

/-- The wording of a failure. -/
def message : TestFailure → Text
  | .broken template breach =>
    "internal error parsing " ++ template.quoted ++ ": " ++ breach.message
  | .invalidTemplate template diagnostics =>
    "expected " ++ template.quoted ++ " to parse, got diagnostics:\n" ++ listing diagnostics
  | .validTemplate template => "expected " ++ template.quoted ++ " to be rejected"
  | .invalidExpression text diagnostics =>
    "expected expression " ++ text.quoted ++ " to parse, got:\n" ++ listing diagnostics
  | .mismatch failed => failed.message

end TestFailure

namespace Check

/-- The document of a template that is expected to be valid. -/
def validTemplate (options : Options) (template : Text) : Except TestFailure Document :=
  match Template.parse options template with
  | .error breach => .error (.broken template breach)
  | .ok ⟨some document, _⟩ => .ok document
  | .ok ⟨none, diagnostics⟩ => .error (.invalidTemplate template diagnostics)

/-- The diagnostics of a template that is expected to have faults. -/
def invalidTemplate (options : Options) (template : Text) :
    Except TestFailure (List Diagnostic) :=
  match Template.parse options template with
  | .error breach => .error (.broken template breach)
  | .ok ⟨some _, _⟩ => .error (.validTemplate template)
  | .ok ⟨none, []⟩ => .error (.validTemplate template)
  | .ok ⟨none, diagnostics⟩ => .ok diagnostics

/-- The tree of an expression that is expected to be valid. -/
def validExpression (text : Text) : Except TestFailure Expression :=
  match Expression.parse text with
  | .ok expression => .ok expression
  | .error diagnostics => .error (.invalidExpression text diagnostics)

/-- Runs a check on the document of a template. -/
def onTemplate (options : Options) (template : Text) (check : Check Document) :
    Except TestFailure Unit := do
  let document ← validTemplate options template
  match check "document" document with
  | .ok () => return
  | .error mismatch => throw (.mismatch mismatch)

/-- Runs a check on an expression. -/
def onExpression (text : Text) (check : Check Expression) : Except TestFailure Unit := do
  let expression ← validExpression text
  match check "expression" expression with
  | .ok () => return
  | .error mismatch => throw (.mismatch mismatch)

end Check

end Bracework
