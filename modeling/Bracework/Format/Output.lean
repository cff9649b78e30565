import Bracework.Format.DocumentRecord
import Bracework.Format.Drawing
import Bracework.Format.Json
import Bracework.Format.TokenRecord
import Bracework.Format.Yaml.Tree

/-!
# Output formats

Documents and tokens can be drawn for people or written as data in one of two forms. Formats
are chosen by name, in any case.
-/

namespace Bracework

/-- The forms of data. -/
inductive DataForm where
  | json
  | yaml
deriving DecidableEq, Repr

namespace DataForm

/-- A data tree in a form. -/
def write : DataForm → Datum → Text
  | .json, tree => Format.Json.render tree
  | .yaml, tree => Format.Yaml.render tree

/-- Diagnostics in a form. -/
def diagnostics (form : DataForm) (found : List Diagnostic) : Text :=
  form.write (.list (found.map Diagnostic.datum))

end DataForm

/-- The formats of output. -/
inductive OutputFormat where
  | drawing
  | data (form : DataForm)
deriving DecidableEq, Repr

/-- A name that no format has. -/
structure UnknownFormat where
  name : Text
deriving DecidableEq, Repr

namespace UnknownFormat

/-- The wording for an unknown name. -/
def message (unknown : UnknownFormat) : Text :=
  "unknown format '" ++ unknown.name ++ "', expected one of: treeviz, json, yaml"

end UnknownFormat

namespace OutputFormat

/-- The name of a format. -/
def name : OutputFormat → Text
  | .drawing => "treeviz"
  | .data .json => "json"
  | .data .yaml => "yaml"

/-- All formats. -/
def all : List OutputFormat := [.drawing, .data .json, .data .yaml]

/-- The format with a name. -/
def named? (name : Text) : Option OutputFormat :=
  all.find? fun format => Text.sameWord name format.name

/-- The format with a name, or the complaint that there is none. -/
def ofName (name : Text) : Except UnknownFormat OutputFormat :=
  match named? name with
  | some format => .ok format
  | none => .error ⟨name⟩

/-- A document in a format. -/
def document : OutputFormat → Document → Text
  | .drawing, document => Drawing.ofDocument document
  | .data form, document => form.write (document.datum Number.datum)

/-- Tokens in a format. Positions can be left out of drawings only. -/
def tokens (positions : Bool) : OutputFormat → List Token → Text
  | .drawing, tokens => Drawing.ofTokens positions tokens
  | .data form, tokens => form.write (.list (tokens.map (Token.datum Number.datum)))

end OutputFormat

end Bracework
