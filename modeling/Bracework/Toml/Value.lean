import Bracework.Toml.Moment
import Bracework.Toml.Number
import Bracework.Toml.Strings
import Bracework.Toml.Table

/-!
# Keys and values in TOML

A key is one or more names with points between them. A value is a string, a word for a number,
a truth value or a moment, a list between brackets that may take several lines, or a table
between braces on one line. Lists and tables may be nested at most seventy-nine deep, and a key
has at most as many names.

Reading gives the value and what follows it. The count of steps that the functions take is a
bound on their recursion; the length of the text is always enough.
-/

namespace Bracework

namespace Toml

/-- The number of levels that values may be nested, and of names that a key may have. -/
def deepest : Nat := 79

/-- Whether a character is a blank inside a line. -/
def isSpaceOrTab (character : Char) : Bool := character == ' ' || character == '\t'

/-- The text behind the blanks at its start. -/
def skipBlanks (text : Text) : Text := text.dropWhile isSpaceOrTab

/-- The text behind a comment at its start. -/
def skipComment : Text → Text
  | '#' :: rest => rest.dropWhile isInLine
  | text => text

/-- The text behind the blanks, comments and line ends at its start. -/
def skipLines : Nat → Text → Text
  | 0, text => text
  | steps + 1, text =>
    let text := skipBlanks text
    match lineEnd? (skipComment text) with
    | some rest => skipLines steps rest
    | none => text

/-- Whether a character may stand in a name without quotes. -/
def isBare (character : Char) : Bool :=
  character.isAlphanum || character == '-' || character == '_'

/-- Reads one name of a key. -/
def readName : Text → Option (Text × Text)
  | '"' :: rest => basicString rest
  | '\'' :: rest => literalString rest
  | text =>
    let name := text.takeWhile isBare
    if name = [] then none else some (name, text.dropWhile isBare)

/-- Reads the names of a key. -/
def readNames : Nat → Text → Option (List Text × Text)
  | 0, _ => none
  | steps + 1, text => do
    let (name, rest) ← readName (skipBlanks text)
    match skipBlanks rest with
    | '.' :: rest => do
      let (names, rest) ← readNames steps rest
      return (name :: names, rest)
    | rest => return ([name], rest)

/-- Reads a key with the blanks around it. -/
def readKey (text : Text) : Option (List Text × Text) := do
  let (names, rest) ← readNames (text.length + 1) text
  if names.length > deepest then none else some (names, rest)

/-- Whether a character may stand in a word for a number, a truth value or a moment. -/
def isInWord (character : Char) : Bool :=
  character.isAlphanum || "+-_.:".toList.contains character

/-- A word as a value. -/
def word? (word : Text) : Option Setting :=
  match truth? word, integer? word with
  | some value, _ => some (.bool value)
  | _, some value => some (.integer value)
  | none, none => (decimal? word).or ((moment? word).map .text)

/-- Reads a word as a value. The blank between a date and a time does not end a word. -/
def readWord (text : Text) : Option (Setting × Text) :=
  let first : Text := text.takeWhile isInWord
  let rest := text.dropWhile isInWord
  match rest with
  | ' ' :: more =>
    if (date? first).any (fun found => found.2 = []) ∧ beginsTime more then
      (word? (first ++ ' ' :: more.takeWhile isInWord)).map (·, more.dropWhile isInWord)
    else (word? first).map (·, rest)
  | _ => (word? first).map (·, rest)

/-- Reads the character that has to come next. -/
def expect (wanted : Char) : Text → Option Text
  | [] => none
  | first :: rest => if first = wanted then some rest else none

mutual

/-- Reads a value that may hold so many levels of values. -/
def readValue : Nat → Nat → Text → Option (Setting × Text)
  | 0, _, _ => none
  | steps + 1, levels, text =>
    match text, levels with
    | '[' :: rest, levels + 1 => do
      let (items, rest) ← readItems steps levels rest
      return (.list items, rest)
    | '\x7b' :: rest, levels + 1 => do
      let (entries, rest) ← readInline steps levels rest
      return (.table (Entries.settings entries), rest)
    | '[' :: _, 0 => none
    | '\x7b' :: _, 0 => none
    | text, _ =>
      match string? text with
      | some (value, rest) => some (.text value, rest)
      | none => readWord text

/-- Reads the items of a list and its closing bracket. -/
def readItems : Nat → Nat → Text → Option (List Setting × Text)
  | 0, _, _ => none
  | steps + 1, levels, text =>
    match skipLines text.length text with
    | ']' :: rest => some ([], rest)
    | text => do
      let (first, rest) ← readValue steps levels text
      match skipLines rest.length rest with
      | ',' :: rest => do
        let (more, rest) ← readItems steps levels rest
        return (first :: more, rest)
      | rest => return ([first], ← expect ']' rest)

/-- Reads the entries of a table between braces and its closing brace. -/
def readInline : Nat → Nat → Text → Option (Entries × Text)
  | 0, _, _ => none
  | steps + 1, levels, text =>
    match skipBlanks text with
    | '\x7d' :: rest => some ([], rest)
    | text => readPairs steps levels [] text

/-- Reads the pairs of a key and a value that are left in a table between braces. -/
def readPairs : Nat → Nat → Entries → Text → Option (Entries × Text)
  | 0, _, _, _ => none
  | steps + 1, levels, entries, text => do
    let (names, rest) ← readKey text
    let rest ← expect '=' rest
    let (value, rest) ← readValue steps levels (skipBlanks rest)
    let entries ← Entries.put value names true entries
    match skipBlanks rest with
    | ',' :: rest => readPairs steps levels entries rest
    | rest => return (entries, ← expect '\x7d' rest)

end

/-- Reads a value. -/
def value? (text : Text) : Option (Setting × Text) :=
  readValue (2 * text.length + 2) deepest text

end Toml

end Bracework
