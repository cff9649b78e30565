import Bracework.Toml.Value

/-!
# TOML documents

A document is read line by line. A line holds a key and a value, or the header of a table, and
may end in a comment. Keys belong to the table of the last header before them. A document with
any fault is refused as a whole.
-/

namespace Bracework

namespace Toml

/-- The tables read so far, and the names of the table that the last header opened. -/
structure Progress where
  entries : Entries
  header : List Text

/-- The text behind what may follow on a line, and behind the end of the line. At the end of the
document no line end is needed. -/
def endLine (text : Text) : Option Text :=
  match skipComment (skipBlanks text) with
  | [] => some []
  | rest => lineEnd? rest

/-- Reads the header of a table. -/
def readHeader (progress : Progress) (listed : Bool) (text : Text) : Option (Progress × Text) := do
  let (names, rest) ← readKey text
  let rest ← expect ']' rest
  let rest ← if listed then expect ']' rest else some rest
  let entries ← Entries.define listed names progress.entries
  return ({ entries, header := names }, rest)

/-- Reads a key and a value. -/
def readPair (progress : Progress) (text : Text) : Option (Progress × Text) := do
  let (names, rest) ← readKey text
  let rest ← expect '=' rest
  let (value, rest) ← value? (skipBlanks rest)
  let entries ← Entries.within (Entries.put value names true) progress.header progress.entries
  return ({ progress with entries }, rest)

/-- Reads what stands on a line that is not empty. -/
def readLine (progress : Progress) : Text → Option (Progress × Text)
  | '[' :: '[' :: rest => readHeader progress true rest
  | '[' :: rest => readHeader progress false rest
  | text => readPair progress text

/-- Reads lines up to the end. Each takes at least one character. -/
def readLines : Nat → Progress → Text → Option Progress
  | 0, progress, text => if text = [] then some progress else none
  | steps + 1, progress, text =>
    let text := skipBlanks text
    match endLine text with
    | some [] => some progress
    | some rest => readLines steps progress rest
    | none => do
      let (progress, rest) ← readLine progress text
      readLines steps progress (← endLine rest)

/-- The entries of a document, if it has no fault. A byte order mark at its start does not
count. -/
def document? (text : Text) : Option (List (Text × Setting)) :=
  let text := if text.head? = some '\uFEFF' then text.drop 1 else text
  (readLines (text.length + 1) ⟨[], []⟩ text).map fun progress => Entries.settings progress.entries

end Toml

end Bracework
