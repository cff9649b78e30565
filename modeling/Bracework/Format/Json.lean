import Bracework.Decimal.Shortest
import Bracework.Format.Datum

/-!
# JSON

A data tree is written over several lines, two blanks deeper for each level, without a line
feed at the end. Quotation marks, backslashes and control characters are escaped and everything
else stands for itself. JSON has no infinity, so one is written as `null`.
-/

namespace Bracework

namespace Format.Json

/-- A control character as `\u` and four hexadecimal digits. -/
def numbered (character : Char) : Text :=
  let digits := Nat.toDigits 16 character.toNat
  "\\u" ++ List.replicate (4 - digits.length) '0' ++ digits

/-- The written form of a character between quotation marks. -/
def escaped (character : Char) : Text :=
  match character with
  | '"' => "\\\""
  | '\\' => "\\\\"
  | '\x08' => "\\b"
  | '\t' => "\\t"
  | '\n' => "\\n"
  | '\x0c' => "\\f"
  | '\r' => "\\r"
  | other => if other.toNat < 0x20 then numbered other else [other]

/-- A text between quotation marks. -/
def quoted (text : Text) : Text := "\"" ++ text.flatMap escaped ++ "\""

/-- A number as JSON writes it. Ties go to the even digit, and every exponent has a sign. -/
def number (value : Binary64) : Text :=
  if value.isFinite then (ShortDecimal.ofDouble .even value).notated "+" else "null"

/-- A line feed and the blanks of a level. -/
def newLine (level : Nat) : Text := '\n' :: List.replicate (2 * level) ' '

/-- Written items between brackets, each on a line of its own. -/
def enclosed (level : Nat) (opening closing : Char) (items : List Text) : Text :=
  if items.isEmpty then [opening, closing]
  else
    [opening] ++ Text.joinWith [','] (items.map fun item => newLine (level + 1) ++ item)
      ++ newLine level ++ [closing]

/-- A field of a record. -/
def field (name : String) (value : Text) : Text := quoted name ++ ": " ++ value

mutual

/-- A tree at a level. -/
def write (level : Nat) : Datum → Text
  | .null => "null"
  | .bool true => "true"
  | .bool false => "false"
  | .natural value => Text.ofNat value
  | .real value => number value
  | .text value => quoted value
  | .list items => enclosed level '[' ']' (writeItems (level + 1) items)
  | .record fields => enclosed level '\x7b' '\x7d' (writeFields (level + 1) fields)
  | .tagged tag value => enclosed level '\x7b' '\x7d' [field tag (write (level + 1) value)]

/-- Each tree of a list at a level. -/
def writeItems (level : Nat) : List Datum → List Text
  | [] => []
  | first :: rest => write level first :: writeItems level rest

/-- Each field of a record at a level. -/
def writeFields (level : Nat) : List (String × Datum) → List Text
  | [] => []
  | (name, value) :: rest => field name (write level value) :: writeFields level rest

end

/-- A tree as a text in JSON. -/
def render (tree : Datum) : Text := write 0 tree

end Format.Json

end Bracework
