import Bracework.Assembly.Stack
import Bracework.Lexer.Reading
import Bracework.Text.Quoted

/-!
# Tag providers and options

A provider teaches the reader of templates a new kind of tag. It says which tags are its own and
reads them, and it may build nodes from the tokens it gave. Providers are asked in order, and
only for tags that no built-in form with a keyword claims.

Options are what reading a template depends on besides its text: the names of the partials that
may be included without a declaration, and the providers.
-/

namespace Bracework

/-- A kind of tag that is defined outside this library. -/
structure TagProvider where
  /-- Whether a tag is of this kind. -/
  recognizes : Tag → Bool
  /-- Reads such a tag, given the names of the registered partials and the open blocks. -/
  read : List Text → Tag → OpenBlocks → Reading
  /-- Whether a token is built by this provider. -/
  assembles : Token → Bool
  /-- Builds such a token. -/
  assemble : Token → Construction → Construction

/-- What reading a template depends on besides its text. -/
structure Options where
  /-- The names of the registered partials. -/
  partials : List Text
  providers : List TagProvider

namespace Options

/-- No partials are registered and there are no providers. -/
def standard : Options := ⟨[], []⟩

/-- The first provider that claims a tag. -/
def reader? (options : Options) (tag : Tag) : Option TagProvider :=
  options.providers.find? fun provider => provider.recognizes tag

/-- The first provider that builds a token. -/
def builder? (options : Options) (token : Token) : Option TagProvider :=
  options.providers.find? fun provider => provider.assembles token

/-- The options in one line. -/
def render (options : Options) : Text :=
  "ParserOptions \x7b partials: " ++ Text.quotedList options.partials ++ ", providers: "
    ++ Text.ofNat options.providers.length ++ " \x7d"

end Options

end Bracework
