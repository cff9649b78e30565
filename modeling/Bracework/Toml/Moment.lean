import Bracework.Text.Basic

/-!
# Dates and times in TOML

A moment is a date, a time or both, and then it may have an offset from universal time. It is
read only to be checked and brought to one form: a `T` between the two, a fraction without
trailing zeros and of at most nine digits, and a capital `Z` for no offset.
-/

namespace Bracework

namespace Toml

/-- A number of exactly so many digits in front, and what follows it. -/
def fixed? (count : Nat) (text : Text) : Option (Nat × Text) :=
  let digits := text.take count
  if digits.length = count ∧ digits.all Char.isDigit then
    some (digits.foldl (fun value digit => value * 10 + (digit.toNat - '0'.toNat)) 0,
      text.drop count)
  else none

/-- A number of two digits not above a bound, behind a mark. -/
def after? (mark : Char) (bound : Nat) : Text → Option (Nat × Text)
  | [] => none
  | first :: rest =>
    match fixed? 2 rest with
    | some (value, tail) => if first = mark ∧ value ≤ bound then some (value, tail) else none
    | none => none

/-- The number of days of a month. -/
def daysIn (year month : Nat) : Nat :=
  let leap := year % 4 == 0 && (year % 100 != 0 || year % 400 == 0)
  if month = 2 then if leap then 29 else 28
  else if month ∈ [4, 6, 9, 11] then 30
  else 31

/-- A number filled with zeros to a width. -/
def padded (width value : Nat) : Text :=
  let digits := Text.ofNat value
  List.replicate (width - digits.length) '0' ++ digits

/-- Reads a date and gives its form. -/
def date? (text : Text) : Option (Text × Text) := do
  let (year, rest) ← fixed? 4 text
  let (month, rest) ← after? '-' 12 rest
  let (day, rest) ← after? '-' 31 rest
  if month = 0 ∨ day = 0 ∨ day > daysIn year month then none
  else
    let form : Text := padded 4 year ++ "-" ++ padded 2 month ++ "-" ++ padded 2 day
    some (form, rest)

/-- The digits of a fraction that are kept. -/
def keptFraction (digits : Text) : Text := Text.trimEnd (· == '0') (digits.take 9)

/-- Reads the fraction of a second, if there is one. -/
def fraction? : Text → Option (Text × Text)
  | '.' :: rest =>
    let digits := rest.takeWhile Char.isDigit
    let kept := keptFraction digits
    if digits = [] then none
    else some (if kept = [] then [] else '.' :: kept, rest.dropWhile Char.isDigit)
  | text => some ([], text)

/-- Reads a time of day and gives its form. -/
def time? (text : Text) : Option (Text × Text) := do
  let (hour, rest) ← fixed? 2 text
  let (minute, rest) ← after? ':' 59 rest
  let (second, rest) ← after? ':' 60 rest
  let (fraction, rest) ← fraction? rest
  if hour > 23 then none
  else
    let form : Text :=
      padded 2 hour ++ ":" ++ padded 2 minute ++ ":" ++ padded 2 second ++ fraction
    some (form, rest)

/-- The form of an offset that takes up a whole text. -/
def offset? : Text → Option Text
  | [] => some []
  | [mark] => if mark = 'Z' ∨ mark = 'z' then some ['Z'] else none
  | sign :: rest => do
    let (hour, rest) ← fixed? 2 rest
    let (minute, rest) ← after? ':' 59 rest
    let neither := hour = 0 ∧ minute = 0
    if rest ≠ [] ∨ hour > 23 ∨ (sign ≠ '+' ∧ sign ≠ '-') then none
    else some ((if neither then '+' else sign) :: padded 2 hour ++ ":" ++ padded 2 minute)

/-- Whether a character may stand between a date and a time. -/
def isTimeMark (character : Char) : Bool :=
  character == 'T' || character == 't' || character == ' '

/-- The form of a moment that takes up a whole text. -/
def moment? (text : Text) : Option Text :=
  match date? text with
  | some (date, []) => some date
  | some (date, mark :: rest) =>
    if isTimeMark mark then do
      let (time, rest) ← time? rest
      let offset ← offset? rest
      some (date ++ "T" ++ time ++ offset)
    else none
  | none =>
    match time? text with
    | some (time, []) => some time
    | _ => none

/-- Whether a text begins like a time of day. -/
def beginsTime (text : Text) : Bool :=
  match text with
  | first :: second :: ':' :: _ => first.isDigit && second.isDigit
  | _ => false

end Toml

end Bracework
