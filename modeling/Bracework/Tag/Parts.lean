import Bracework.Characters

/-!
# Sigil, keyword and payload

The first character of a tag's body may be a sigil, and a run of ASCII letters directly after a
sigil is a keyword when a blank or the end of the body follows it:

    #each items AS item    sigil `#`, keyword `each`, rest ` items AS item`
    #each.item             sigil `#`, no keyword, rest `each.item`
    name                   no sigil, no keyword, rest `name`
-/

namespace Bracework

/-- The characters that mark a body as something else than a value. -/
inductive Sigil where
  | hash
  | caret
  | slash
  | ampersand
  | bang
deriving DecidableEq, Repr

namespace Sigil

/-- The character of a sigil. -/
def character : Sigil → Char
  | .hash => '#'
  | .caret => '^'
  | .slash => '/'
  | .ampersand => '&'
  | .bang => '!'

/-- The sigil that a character is. -/
def ofChar? (character : Char) : Option Sigil :=
  match character with
  | '#' => some .hash
  | '^' => some .caret
  | '/' => some .slash
  | '&' => some .ampersand
  | '!' => some .bang
  | _ => none

end Sigil

/-- A letter of ASCII, of which keywords and bound names are made. -/
def isAsciiLetter (character : Char) : Bool := character.isAlpha

/-- The body of a tag in its parts. -/
structure TagParts where
  sigil : Option Sigil
  keyword : Option Text
  rest : Text
deriving DecidableEq, Repr

namespace TagParts

/-- The parts of a body. -/
def ofBody (body : Text) : TagParts :=
  match body with
  | [] => ⟨none, none, []⟩
  | first :: tail =>
    match Sigil.ofChar? first with
    | none => ⟨none, none, first :: tail⟩
    | some sigil =>
      let word := tail.takeWhile isAsciiLetter
      let after := tail.dropWhile isAsciiLetter
      if word ≠ [] ∧ after.head?.all isBlank then ⟨some sigil, some word, after⟩
      else ⟨some sigil, none, tail⟩

/-- The offset at which the rest begins in the body. A sigil is one byte wide. -/
def restOffset (parts : TagParts) : Nat :=
  (if parts.sigil.isSome then 1 else 0) + (parts.keyword.getD []).byteLength

/-- Whether the parts begin with a sigil and a keyword, the case of its letters aside. -/
def is (parts : TagParts) (sigil : Sigil) (keyword : Text) : Bool :=
  parts.sigil == some sigil && parts.keyword.any (Text.sameWord · keyword)

end TagParts

end Bracework
