import Bracework.Text.Basic

/-!
# Pieces of a template

A template is cut into tags and the content between them. A tag is two or three opening braces,
a body of one or more characters that are not braces, and as many closing braces. The template
is scanned from the left. At each character the form with two braces is tried first and the
form with three after it; where neither is found the scan moves on by one character. So
the first tag of `{{{{a}}` is `{{a}}` and the two braces before it are content.

The pieces in order make up the template again, and no content lies directly beside other
content.
-/

namespace Bracework

/-- A part of a template: content, or a tag given by its number of braces and its body. -/
inductive Piece where
  | content (text : Text)
  | tag (braces : Nat) (body : Text)
deriving DecidableEq, Repr

/-- A brace of either direction. -/
def isBrace (character : Char) : Bool := character == '{' || character == '}'

/-- A tag with its braces. -/
def tagSource (braces : Nat) (body : Text) : Text :=
  List.replicate braces '{' ++ body ++ List.replicate braces '}'

namespace Piece

/-- The characters of a piece. -/
def source : Piece → Text
  | .content text => text
  | .tag braces body => tagSource braces body

/-- The body of a tag with a given number of braces at the start of a text, and what follows
the tag. -/
def tagWith? (braces : Nat) (text : Text) : Option (Text × Text) := do
  let inner ← Text.after? (List.replicate braces '{') text
  let body := inner.takeWhile fun character => !isBrace character
  if body = [] then none
  else
    let rest ← Text.after? (List.replicate braces '}')
      (inner.dropWhile fun character => !isBrace character)
    return (body, rest)

/-- The tag at the start of a text, and what follows it. -/
def tagAt? (text : Text) : Option (Piece × Text) :=
  match tagWith? 2 text with
  | some (body, rest) => some (.tag 2 body, rest)
  | none => (tagWith? 3 text).map fun found => (.tag 3 found.1, found.2)

/-- A tag and what follows it make up the text, and the tag has a body. -/
theorem tagWith?_source {braces : Nat} {text body rest : Text}
    (found : tagWith? braces text = some (body, rest)) :
    text = tagSource braces body ++ rest ∧ body ≠ [] := by
  simp only [tagWith?, Option.bind_eq_bind, Option.bind_eq_some_iff] at found
  obtain ⟨inner, opened, found⟩ := found
  split at found
  · simp at found
  · rename_i nonempty
    simp only [Option.bind_eq_some_iff] at found
    obtain ⟨after, closed, same⟩ := found
    cases same
    refine ⟨?_, nonempty⟩
    rw [Text.after?_eq_some_iff.1 opened, tagSource, List.append_assoc, List.append_assoc,
      ← Text.after?_eq_some_iff.1 closed, List.takeWhile_append_dropWhile]

/-- The tag at the start of a text and what follows it make up the text. -/
theorem tagAt?_source {text rest : Text} {tag : Piece} (found : tagAt? text = some (tag, rest)) :
    text = tag.source ++ rest ∧ rest.length < text.length := by
  have shorter : ∀ {braces : Nat} {body : Text}, body ≠ [] →
      text = tagSource braces body ++ rest → rest.length < text.length := by
    intro braces body nonempty whole
    have := List.length_pos_iff.2 nonempty
    rw [whole]
    simp only [tagSource, List.length_append]
    omega
  simp only [tagAt?] at found
  split at found
  · rename_i body after two
    cases found
    obtain ⟨whole, nonempty⟩ := tagWith?_source two
    exact ⟨whole, shorter nonempty whole⟩
  · obtain ⟨⟨body, after⟩, three, same⟩ := Option.map_eq_some_iff.1 found
    cases same
    obtain ⟨whole, nonempty⟩ := tagWith?_source three
    exact ⟨whole, shorter nonempty whole⟩

/-- The content piece of characters taken one by one, the newest first; none for no character. -/
def contentOf (taken : Text) : List Piece :=
  if taken = [] then [] else [.content taken.reverse]

/-- The pieces of a text behind the content `taken` so far, the newest character first. -/
def cutFrom (taken : Text) (text : Text) : List Piece :=
  match text with
  | [] => contentOf taken
  | first :: rest =>
    match _found : tagAt? (first :: rest) with
    | some (piece, after) => contentOf taken ++ piece :: cutFrom [] after
    | none => cutFrom (first :: taken) rest
termination_by text.length
decreasing_by
  · exact (tagAt?_source _found).2
  · simp

/-- The pieces of a template. -/
def cut (template : Text) : List Piece := cutFrom [] template

/-- Pieces with the offsets at which they begin, the first of them at `offset`. -/
def withOffsets (offset : Nat) : List Piece → List (Nat × Piece)
  | [] => []
  | first :: rest => (offset, first) :: withOffsets (offset + first.source.byteLength) rest

end Piece

/-- Where a tag lies in a template. -/
structure TagSpan where
  start : Nat
  stop : Nat
  braces : Nat
deriving DecidableEq, Repr

namespace TagSpan

/-- The span of a piece that is a tag. -/
def ofPiece? : Nat × Piece → Option TagSpan
  | (start, .tag braces body) =>
    some { start, stop := start + Text.byteLength (tagSource braces body), braces }
  | (_, .content _) => none

/-- The spans of all tags of a template, from left to right. -/
def all (template : Text) : List TagSpan :=
  (Piece.withOffsets 0 (Piece.cut template)).filterMap ofPiece?

/-- Where the body of the tag begins and ends. -/
def bodyBounds (span : TagSpan) : Nat × Nat := (span.start + span.braces, span.stop - span.braces)

/-- Whether the tag has three braces on either side. -/
def isTriple (span : TagSpan) : Bool := span.braces == 3

end TagSpan

end Bracework
