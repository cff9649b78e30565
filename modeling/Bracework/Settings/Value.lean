import Bracework.Decimal.Shortest

/-!
# Values of settings

Settings come from several sources as trees of values. Whoever asks for a setting wants a text
or a truth value, and a source may have written it otherwise: a number where a text is wanted is
its decimal form, and a text or number where a truth value is wanted is read as one if it can be.
-/

namespace Bracework

/-- A value as it is written in a source of settings. -/
inductive Setting where
  /-- A gap in a list that a later source has filled only in part. -/
  | nothing
  | bool (value : Bool)
  | integer (value : Int)
  /-- A decimal with its sign; its size may be infinite. -/
  | decimal (negative : Bool) (size : Binary64)
  | notANumber
  | text (value : Text)
  | list (items : List Setting)
  | table (entries : List (Text × Setting))
deriving Repr, Inhabited

namespace Setting

/-- Digits behind a sign that is written only if it is negative. -/
def signed (negative : Bool) (digits : Text) : Text :=
  if negative then '-' :: digits else digits

/-- An integer in decimal digits. -/
def integerText (value : Int) : Text := signed (value < 0) (Text.ofNat value.natAbs)

/-- A decimal in digits, without an exponent. Of two equally near sizes the greater is written. -/
def decimalText (negative : Bool) (size : Binary64) : Text :=
  signed negative (if size.isFinite then (ShortDecimal.ofDouble .up size).positional else "inf")

/-- A setting as a text. Lists and tables are none. -/
def text? : Setting → Option Text
  | .bool value => some (Text.ofBool value)
  | .integer value => some (integerText value)
  | .decimal negative size => some (decimalText negative size)
  | .notANumber => some "NaN"
  | .text value => some value
  | .nothing => none
  | .list _ => none
  | .table _ => none

/-- The truth value that a word stands for. -/
def wordTruth? (word : Text) : Option Bool :=
  if ["1", "true", "on", "yes"].any fun (yes : String) => Text.sameWord word yes then some true
  else if ["0", "false", "off", "no"].any fun (no : String) => Text.sameWord word no then
    some false
  else none

/-- A setting as a truth value. A number is false only if it is zero. -/
def truth? : Setting → Option Bool
  | .bool value => some value
  | .integer value => some (value ≠ 0)
  | .decimal _ size => some (size.bits ≠ 0)
  | .notANumber => some true
  | .text value => wordTruth? value
  | .nothing => none
  | .list _ => none
  | .table _ => none

/-- The entries of a table, and none of anything else. -/
def entries : Setting → List (Text × Setting)
  | .table entries => entries
  | _ => []

/-- The value of a name in a list of entries. -/
def lookup? (entries : List (Text × Setting)) (name : Text) : Option Setting :=
  (entries.find? fun entry => entry.1 == name).map Prod.snd

/-- The entries with a value for a name, in the place of the one it had. -/
def replace (entries : List (Text × Setting)) (name : Text) (value : Setting) :
    List (Text × Setting) :=
  match entries with
  | [] => [(name, value)]
  | entry :: rest =>
    if entry.1 = name then (name, value) :: rest else entry :: replace rest name value

end Setting

end Bracework
