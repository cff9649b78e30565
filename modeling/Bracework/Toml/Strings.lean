import Bracework.Text.Basic

/-!
# Strings in TOML

A string stands between double or single quotes, and over several lines between three of them.
Between double quotes a backslash begins an escape; between single quotes nothing does. A string
over several lines may begin with a line feed that does not count, its line ends are line feeds
however they are written, and up to two quotes may stand directly before the closing three.

All readers take the text behind the opening quotes and give the string and what follows it.
-/

namespace Bracework

namespace Toml

/-- Whether a character may stand in a line: no control character but the tab. -/
def isInLine (character : Char) : Bool :=
  character == '\t' || (0x20 ≤ character.toNat && character.toNat ≠ 0x7F)

/-- The value of a hexadecimal digit. -/
def hexDigit? (character : Char) : Option Nat :=
  if '0' ≤ character ∧ character ≤ '9' then some (character.toNat - '0'.toNat)
  else if 'a' ≤ character ∧ character ≤ 'f' then some (character.toNat - 'a'.toNat + 10)
  else if 'A' ≤ character ∧ character ≤ 'F' then some (character.toNat - 'A'.toNat + 10)
  else none

/-- The character whose number is given by a count of hexadecimal digits. -/
def numbered? (count : Nat) (text : Text) : Option Char := do
  let digits ← (text.take count).mapM hexDigit?
  let number := digits.foldl (fun value digit => value * 16 + digit) 0
  if digits.length = count ∧ number.isValidChar then some (Char.ofNat number) else none

/-- The character that an escape stands for, and the length of the escape behind its
backslash. -/
def escape? : Text → Option (Char × Nat)
  | [] => none
  | 'u' :: rest => (numbered? 4 rest).map (·, 5)
  | 'U' :: rest => (numbered? 8 rest).map (·, 9)
  | mark :: _ =>
    let named := [('b', '\x08'), ('t', '\t'), ('n', '\n'), ('f', '\x0c'), ('r', '\r'),
      ('"', '"'), ('\\', '\\')]
    (named.lookup mark).map (·, 1)

/-- A reading with one character more in front. -/
def withFirst (first : Char) : Option (Text × Text) → Option (Text × Text) :=
  Option.map fun (read, rest) => (first :: read, rest)

/-- Reads a string between double quotes. -/
def basicString (text : Text) : Option (Text × Text) :=
  match text with
  | [] => none
  | first :: rest =>
    if first = '"' then some ([], rest)
    else if first = '\\' then
      match escape? rest with
      | some (character, width) => withFirst character (basicString (rest.drop width))
      | none => none
    else if isInLine first then withFirst first (basicString rest)
    else none
termination_by text.length
decreasing_by all_goals simp only [List.length_drop, List.length_cons]; omega

/-- Reads a string between single quotes. -/
def literalString (text : Text) : Option (Text × Text) :=
  let inside := text.takeWhile fun character => isInLine character && character != '\''
  match text.dropWhile fun character => isInLine character && character != '\'' with
  | '\'' :: rest => some (inside, rest)
  | _ => none

/-- The text behind a line feed at its start, if there is one. -/
def lineEnd? : Text → Option Text
  | '\n' :: rest => some rest
  | '\r' :: '\n' :: rest => some rest
  | _ => none

/-- What a line feed leaves is shorter. -/
theorem lineEnd?_length {text rest : Text} (found : lineEnd? text = some rest) :
    rest.length < text.length := by
  unfold lineEnd? at found
  split at found
  · cases found; simp
  · cases found; simp only [List.length_cons]; omega
  · simp at found

/-- The text behind the blanks and line ends at its start. A carriage return that ends no line
stays. -/
def skipGap : Text → Text
  | ' ' :: rest => skipGap rest
  | '\t' :: rest => skipGap rest
  | '\n' :: rest => skipGap rest
  | '\r' :: '\n' :: rest => skipGap rest
  | text => text

/-- The text behind a backslash that joins two lines: blanks up to the line end, and the blanks
and line ends after it. -/
def joinedLine? (text : Text) : Option Text :=
  let trimmed := text.dropWhile fun character => character == ' ' || character == '\t'
  (lineEnd? trimmed).map skipGap

/-- Reads a string over several lines between quotes of a kind, of which `escapes` says whether
a backslash begins an escape. -/
def longStringFrom (quote : Char) (escapes : Bool) (text : Text) : Option (Text × Text) :=
  match text with
  | [] => none
  | first :: rest =>
    if first = quote then
      let count := ((first :: rest).takeWhile (· == quote)).length
      if count < 3 then withFirst quote (longStringFrom quote escapes rest)
      else some (List.replicate (min (count - 3) 2) quote, (first :: rest).drop (min count 5))
    else if first = '\\' ∧ escapes then
      match joinedLine? rest with
      | some after =>
        if after.length < rest.length then longStringFrom quote escapes after else none
      | none =>
        match escape? rest with
        | some (character, width) =>
          withFirst character (longStringFrom quote escapes (rest.drop width))
        | none => none
    else
      match _ended : lineEnd? (first :: rest) with
      | some after => withFirst '\n' (longStringFrom quote escapes after)
      | none => if isInLine first then withFirst first (longStringFrom quote escapes rest) else none
termination_by text.length
decreasing_by
  all_goals simp only [List.length_drop, List.length_cons]
  all_goals try omega
  exact lineEnd?_length _ended

/-- Reads a string over several lines. -/
def longString (quote : Char) (escapes : Bool) (text : Text) : Option (Text × Text) :=
  longStringFrom quote escapes ((lineEnd? text).getD text)

/-- Reads a string of any kind, its opening quotes included. -/
def string? : Text → Option (Text × Text)
  | '"' :: '"' :: '"' :: rest => longString '"' true rest
  | '\'' :: '\'' :: '\'' :: rest => longString '\'' false rest
  | '"' :: rest => basicString rest
  | '\'' :: rest => literalString rest
  | _ => none

end Toml

end Bracework
