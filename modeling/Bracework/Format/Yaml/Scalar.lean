import Bracework.Format.Yaml.Resolution

/-!
# Texts as YAML scalars

A text is written in the simplest style that reads back as the same text. Without line feeds it
stands plain if it can, otherwise between single quotes, and between double quotes when it
holds characters that have to be escaped. A text with line feeds is a literal block, or stands
between double quotes where a block would lose something.
-/

namespace Bracework

namespace Format.Yaml

/-- The styles of scalars. -/
inductive Style where
  | plain
  | singleQuoted
  | doubleQuoted
  | literal
deriving DecidableEq, Repr

/-- Whether a character ends a line. -/
def isLineBreak (character : Char) : Bool :=
  ['\n', '\r', '\x85', '\u2028', '\u2029'].contains character

/-- Whether a character ends a word: a blank, a line break or the null character. -/
def endsWord (character : Char) : Bool :=
  character == ' ' || character == '\t' || character == '\x00' || isLineBreak character

/-- Whether a character can be written without an escape. Control characters, the byte order mark
and the two numbers before the supplementary planes cannot. -/
def isPrintable (character : Char) : Bool :=
  let code := character.toNat
  code == 0x0A || (0x20 ≤ code && code ≤ 0x7E) ||
    (0xA0 ≤ code && code ≠ 0xFEFF && code ≠ 0xFFFE && code ≠ 0xFFFF)

/-- Whether the first character gives a plain scalar another meaning. Some do so only before the
end of a word. -/
def startsStructure : Text → Bool
  | [] => false
  | first :: rest =>
    let alone := rest.head?.all endsWord
    "#,[]\x7b\x7d&*!|>'\"%@`".toList.contains first || ("?:-".toList.contains first && alone) ||
      (Text.after? "---" (first :: rest)).isSome || (Text.after? "..." (first :: rest)).isSome

/-- Whether a text after its first character holds a colon at the end of a word or a number
sign at the start of one. `before` is the character before the text. -/
def holdsStructure (before : Char) : Text → Bool
  | [] => false
  | first :: rest =>
    (first == ':' && rest.head?.all endsWord) || (first == '#' && endsWord before) ||
      holdsStructure first rest

/-- Whether a plain scalar would be cut or read as something else than a scalar. -/
def isStructural (text : Text) : Bool :=
  startsStructure text || match text with
    | [] => false
    | first :: rest => holdsStructure first rest

/-- Whether two neighbours in the text satisfy the two tests. -/
def hasPair (left right : Char → Bool) : Text → Bool
  | first :: second :: rest =>
    (left first && right second) || hasPair left right (second :: rest)
  | _ => false

/-- Whether a character is the blank. -/
def isSpace (character : Char) : Bool := character == ' '

/-- Whether every character of a text can be written without an escape and no blank stands
before a line break. -/
def isEscapeFree (text : Text) : Bool :=
  text.all isPrintable && !hasPair isSpace isLineBreak text

/-- Whether a text can stand between single quotes. -/
def allowsSingleQuotes (text : Text) : Bool :=
  isEscapeFree text && !hasPair isLineBreak isSpace text

/-- Whether a text can stand without quotes. -/
def allowsPlain (text : Text) : Bool :=
  isEscapeFree text && !text.any isLineBreak && !text.head?.any isSpace &&
    !text.getLast?.any isSpace && !isStructural text

/-- The style of a text. -/
def styleOf (text : Text) : Style :=
  if text.contains '\n' then
    if isEscapeFree text && !text.getLast?.any isSpace then .literal else .doubleQuoted
  else if allowsPlain text && !isAmbiguous text then .plain
  else if allowsSingleQuotes text then .singleQuoted
  else .doubleQuoted

/-- A number in upper-case hexadecimal digits, filled with zeros to a width. -/
def hexadecimal (width value : Nat) : Text :=
  let digits := (Nat.toDigits 16 value).map Char.toUpper
  List.replicate (width - digits.length) '0' ++ digits

/-- The name of a character behind a backslash. -/
def escapeName (character : Char) : Text :=
  match character with
  | '\x00' => "0"
  | '\x07' => "a"
  | '\x08' => "b"
  | '\t' => "t"
  | '\n' => "n"
  | '\x0b' => "v"
  | '\x0c' => "f"
  | '\r' => "r"
  | '\x1b' => "e"
  | '"' => "\""
  | '\\' => "\\"
  | '\x85' => "N"
  | '\u2028' => "L"
  | '\u2029' => "P"
  | other =>
    let code := other.toNat
    if code ≤ 0xFF then 'x' :: hexadecimal 2 code else 'u' :: hexadecimal 4 code

/-- The written form of a character between double quotes. -/
def doubleEscaped (character : Char) : Text :=
  if isPrintable character && !isLineBreak character && character != '"' && character != '\\' then
    [character]
  else '\\' :: escapeName character

/-- The blanks of a level. -/
def blanks (level : Nat) : Text := List.replicate (2 * level) ' '

/-- The lines of a text brought to a level. Only a line with something on it gets blanks. A text
that `begins` a line gets them at its start. -/
def indented (level : Nat) (begins : Bool) : Text → Text
  | [] => []
  | first :: rest =>
    if isLineBreak first then first :: indented level true rest
    else (if begins then blanks level else []) ++ first :: indented level false rest

/-- What the head of a block says about the block: that it begins with a blank or an empty line,
and how its last lines end. -/
def blockHead (text : Text) : Text :=
  let hint : Text := if text.head?.any fun first => isSpace first || isLineBreak first then "2"
    else []
  let ending : Text := match text.reverse with
    | [] => "-"
    | [last] => if isLineBreak last then "+" else "-"
    | last :: previous :: _ =>
      if !isLineBreak last then "-" else if isLineBreak previous then "+" else []
  "|" ++ hint ++ ending

/-- A text as a literal block whose lines are at a level. A line break at the end of the text ends
the block as well. -/
def literal (level : Nat) (text : Text) : Text :=
  let closing : Text := if text.getLast?.any isLineBreak then [] else "\n"
  blockHead text ++ "\n" ++ indented level true text ++ closing

/-- A text between single quotes, in which a single quote is written twice. A closing quote at the
start of a line stands at the level of the lines. -/
def singleQuoted (level : Nat) (text : Text) : Text :=
  let doubled : Text := text.flatMap fun character =>
    if character = '\'' then "''" else [character]
  "'" ++ indented level false (doubled ++ "'")

/-- A text as a scalar up to the end of its last line. Lines after the first are at a level. -/
def scalar (level : Nat) (text : Text) : Text :=
  match styleOf text with
  | .plain => text ++ "\n"
  | .singleQuoted => singleQuoted level text ++ "\n"
  | .doubleQuoted => "\"" ++ text.flatMap doubleEscaped ++ "\"\n"
  | .literal => literal level text

end Format.Yaml

end Bracework
