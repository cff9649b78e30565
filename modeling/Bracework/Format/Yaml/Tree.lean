import Bracework.Decimal.Shortest
import Bracework.Format.Datum
import Bracework.Format.Yaml.Scalar

/-!
# YAML

A data tree is written in block style, each field and each item on lines of its own with a line
break at the end. Fields are two blanks deeper than the record around them. The items of a list
that is a field stay at the level of the field's name, and only an empty list or record is
written in brackets. The names of fields are plain words.
-/

namespace Bracework

namespace Format.Yaml

/-- Written items one below the other. All but the first get the blanks of a level. -/
def stacked (level : Nat) (items : List Text) : Text :=
  Text.joinWith (blanks level) items

/-- A word behind a name or a dash, up to the end of its line. -/
def behind (text : Text) : Text := " " ++ text ++ "\n"

/-- A number as YAML writes it. Ties go to the even digit, and only a negative exponent has a
sign. -/
def number (value : Binary64) : Text :=
  if value.isFinite then (ShortDecimal.ofDouble .even value).notated [] else ".inf"

mutual

/-- What follows the name of a field in a record at a level. -/
def afterName (level : Nat) : Datum → Text
  | .null => behind "null"
  | .bool true => behind "true"
  | .bool false => behind "false"
  | .natural value => behind (Text.ofNat value)
  | .real value => behind (number value)
  | .text value => ' ' :: scalar (level + 1) value
  | .list [] => behind "[]"
  | .list items => "\n" ++ blanks level ++ stacked level (dashed level items)
  | .record [] => behind "\x7b\x7d"
  | .record fields => "\n" ++ blanks (level + 1) ++ stacked (level + 1) (named (level + 1) fields)
  | .tagged tag value => " !" ++ tag.toList ++ afterName level value

/-- What follows the dash of an item in a list at a level. -/
def afterDash (level : Nat) : Datum → Text
  | .null => behind "null"
  | .bool true => behind "true"
  | .bool false => behind "false"
  | .natural value => behind (Text.ofNat value)
  | .real value => behind (number value)
  | .text value => ' ' :: scalar (level + 1) value
  | .list [] => behind "[]"
  | .list items => " " ++ stacked (level + 1) (dashed (level + 1) items)
  | .record [] => behind "\x7b\x7d"
  | .record fields => " " ++ stacked (level + 1) (named (level + 1) fields)
  | .tagged tag value => " !" ++ tag.toList ++ afterName level value

/-- The items of a list at a level, each with its dash. -/
def dashed (level : Nat) : List Datum → List Text
  | [] => []
  | first :: rest => ('-' :: afterDash level first) :: dashed level rest

/-- The fields of a record at a level, each with its name. -/
def named (level : Nat) : List (String × Datum) → List Text
  | [] => []
  | (name, value) :: rest =>
    (name.toList ++ ":" ++ afterName level value) :: named level rest

end

/-- A tree as a text in YAML. -/
def render : Datum → Text
  | .list [] => "[]\n"
  | .list items => stacked 0 (dashed 0 items)
  | .record [] => "\x7b\x7d\n"
  | .record fields => stacked 0 (named 0 fields)
  | scalar => (afterName 0 scalar).drop 1

end Format.Yaml

end Bracework
