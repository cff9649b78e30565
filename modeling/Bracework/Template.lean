import Bracework.Assembly.Build
import Bracework.Lexer.Lexed

/-!
# Templates

The three questions to ask about a template: what is wrong with it, what its tokens are, and
which document it is. They agree on what is wrong, and only a template with nothing wrong has a
document, so no one can work with a part of one.
-/

namespace Bracework

/-- The tokens of a template and what is wrong with it. -/
structure Tokenized where
  tokens : List Token
  diagnostics : List Diagnostic
deriving Repr

/-- The document of a template, or what is wrong with it. -/
structure ParseResult where
  document : Option Document
  diagnostics : List Diagnostic
deriving Repr

namespace Template

/-- The tokens of a template, and everything that is wrong with it. -/
def tokenize (options : Options) (template : Text) : Except Breach Tokenized := do
  let lines := LineTable.ofSource template
  let lexed ← Lexed.ofLines options lines
  return { tokens := lexed.tokens, diagnostics := lexed.findings.map (Diagnostic.place lines) }

/-- Everything that is wrong with a template. -/
def validate (options : Options) (template : Text) : Except Breach (List Diagnostic) := do
  let tokenized ← tokenize options template
  return tokenized.diagnostics

/-- The document of a template, when nothing is wrong with it. -/
def parse (options : Options) (template : Text) : Except Breach ParseResult := do
  let tokenized ← tokenize options template
  if tokenized.diagnostics.isEmpty then
    let document ← Document.ofTokens options tokenized.tokens
    return { document := some document, diagnostics := [] }
  else return { document := none, diagnostics := tokenized.diagnostics }

end Template

end Bracework
