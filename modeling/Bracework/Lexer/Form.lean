import Bracework.Tag.Basic

/-!
# Forms of tags

The form of a tag is decided by its braces, its sigil and its keyword alone. Keywords are the
same in any case, and each belongs to one sigil. A tag whose keyword is none of the
built-in ones is a path, the end of a path's block, or a value, unless a provider claims it; the
forms of the sigils `^`, `&` and `!` cannot be claimed.
-/

namespace Bracework

/-- The forms that a keyword gives a tag. -/
inductive Keyword where
  | declaration
  | inclusion
  /-- Opens a block of a kind. -/
  | block (kind : ScopeKind)
  /-- Closes a block. -/
  | close (closer : Closer)
  /-- Opens the block for the case that an if block was not taken. -/
  | otherwise
  /-- Closes an if block and opens the block for the case that it was not taken. -/
  | ifOtherwise
  | assignment (durable : Bool)
  | edit (operation : TextOperation)
deriving DecidableEq, Repr

namespace Keyword

/-- All keywords with their sigils. -/
def table : List (Sigil × String × Keyword) :=
  [(.hash, "declare", .declaration), (.slash, "declare", .close .declaration),
   (.hash, "include", .inclusion),
   (.hash, "each", .block .each), (.slash, "each", .close .each),
   (.hash, "while", .block .whileTrue), (.slash, "while", .close .whileTrue),
   (.hash, "do", .block .doBlock), (.slash, "do", .close .doBlock),
   (.hash, "repeat", .block .repeated), (.slash, "repeat", .close .repeated),
   (.hash, "if", .block .ifTrue), (.caret, "if", .block .ifNot), (.slash, "if", .close .ifBlock),
   (.hash, "ifelse", .ifOtherwise),
   (.hash, "else", .otherwise), (.slash, "else", .close .otherwise),
   (.hash, "var", .assignment true), (.hash, "let", .assignment false),
   (.hash, "nl", .edit .appendLineBreak), (.hash, "tnl", .edit .trimLineBreak),
   (.hash, "tnls", .edit .trimLineBreaks), (.hash, "trimall", .edit .trimEverything)]

/-- The keyword that the parts of a body begin with. -/
def ofParts? (parts : TagParts) : Option Keyword :=
  (table.find? fun (sigil, word, _) => parts.is sigil word).map fun (_, _, keyword) => keyword

end Keyword

/-- The form of a tag. -/
inductive TagForm where
  | keyword (keyword : Keyword)
  /-- A value written with three braces. -/
  | tripleValue
  /-- A value written with `&`. -/
  | rawValue
  | comment
  | invertedBlock
  | pathBlock
  | pathClose
  | value
deriving DecidableEq, Repr

namespace TagForm

/-- The form that a sigil gives a body without a built-in keyword. -/
def ofSigil : Option Sigil → TagForm
  | some .caret => .invertedBlock
  | some .ampersand => .rawValue
  | some .bang => .comment
  | some .hash => .pathBlock
  | some .slash => .pathClose
  | none => .value

/-- The form of a tag. -/
def ofTag (tag : Tag) : TagForm :=
  if tag.braces = 3 then .tripleValue
  else
    let parts := TagParts.ofBody tag.body
    match Keyword.ofParts? parts with
    | some word => .keyword word
    | none => ofSigil parts.sigil

/-- Whether a provider may claim tags of a form. -/
def isClaimable : TagForm → Bool
  | .pathBlock => true
  | .pathClose => true
  | .value => true
  | _ => false

end TagForm

end Bracework
