/-!
# Text and byte offsets

A text is its list of characters. Offsets into a text count the bytes of its UTF-8 form, so
one character is one to four bytes wide and an offset may fall inside a character. Cutting at
such an offset has no answer; every other cut gives the two parts, and the first part is as
long in bytes as the offset says.
-/

namespace Bracework

/-- A text is the sequence of its characters. -/
abbrev Text := List Char

namespace Text

instance : Coe String Text := ⟨String.toList⟩

/-- The number of bytes in the UTF-8 form of a text. -/
def byteLength : Text → Nat
  | [] => 0
  | first :: rest => first.utf8Size + byteLength rest

@[simp] theorem byteLength_nil : byteLength [] = 0 := rfl

@[simp] theorem byteLength_cons (first : Char) (rest : Text) :
    byteLength (first :: rest) = first.utf8Size + byteLength rest := rfl

@[simp] theorem byteLength_append (left right : Text) :
    byteLength (left ++ right) = byteLength left + byteLength right := by
  induction left with
  | nil => simp
  | cons first rest induction => simp [induction, Nat.add_assoc]

/-- The two parts of a text around a byte offset. There are none when the offset lies inside
a character or past the end. -/
def splitAtByte? : Nat → Text → Option (Text × Text)
  | 0, text => some ([], text)
  | _ + 1, [] => none
  | offset + 1, first :: rest =>
    if first.utf8Size ≤ offset + 1 then
      (splitAtByte? (offset + 1 - first.utf8Size) rest).map fun parts =>
        (first :: parts.1, parts.2)
    else none

/-- The text between two byte offsets, when both lie between characters. -/
def slice? (start stop : Nat) (text : Text) : Option Text := do
  let (_, tail) ← splitAtByte? start text
  let (inside, _) ← splitAtByte? (stop - start) tail
  return inside

/-- What follows `lead` in a text that begins with it. -/
def after? : Text → Text → Option Text
  | [], text => some text
  | _ :: _, [] => none
  | wanted :: lead, first :: rest => if wanted = first then after? lead rest else none

/-- The rest after `lead` really is what completes `lead` to the text. -/
theorem after?_eq_some_iff {lead text rest : Text} :
    after? lead text = some rest ↔ text = lead ++ rest := by
  induction lead generalizing text with
  | nil => simp [after?, eq_comm]
  | cons wanted lead induction =>
    cases text with
    | nil => simp [after?]
    | cons first tail =>
      by_cases same : wanted = first
      · simp [after?, same, induction]
      · simp [after?, same, Ne.symm same]

/-- The text without the leading characters that satisfy `drop`. -/
def trimStart (drop : Char → Bool) (text : Text) : Text := text.dropWhile drop

/-- The text without the trailing characters that satisfy `drop`. -/
def trimEnd (drop : Char → Bool) (text : Text) : Text := (text.reverse.dropWhile drop).reverse

/-- The text without the characters at either end that satisfy `drop`. -/
def trim (drop : Char → Bool) (text : Text) : Text := trimEnd drop (trimStart drop text)

/-- Two words are the same when they differ at most in the case of ASCII letters. -/
def sameWord (left right : Text) : Bool := left.map Char.toLower == right.map Char.toLower

/-- The parts of a text between the occurrences of `separator`; there is always one more part
than there are separators. -/
def splitOn (separator : Char) : Text → List Text
  | [] => [[]]
  | first :: rest =>
    if first = separator then [] :: splitOn separator rest
    else match splitOn separator rest with
      | [] => [[first]]
      | part :: parts => (first :: part) :: parts

/-- The decimal digits of a number. -/
def ofNat (value : Nat) : Text := Nat.toDigits 10 value

/-- A text brought to at least `width` characters by blanks in front. -/
def padLeft (width : Nat) (text : Text) : Text :=
  List.replicate (width - text.length) ' ' ++ text

/-- The texts in order with `separator` between neighbours. -/
def joinWith (separator : Text) (texts : List Text) : Text := List.intercalate separator texts

/-- A truth value in words. -/
def ofBool (value : Bool) : Text := if value then "true" else "false"

/-- A text between single quotes, whatever it holds. -/
def apostrophed (text : Text) : Text := "'" ++ text ++ "'"

/-- Names between brackets, separated by commas. -/
def bracketed (names : List Text) : Text := "[" ++ joinWith ", " names ++ "]"

/-- A text ends with another when it is something followed by it. -/
def endsWith (ending text : Text) : Bool := ending.isSuffixOf text

/-- A text contains another when it begins with it at some character. -/
def containsText (wanted : Text) : Text → Bool
  | [] => wanted.isEmpty
  | first :: rest => (after? wanted (first :: rest)).isSome || containsText wanted rest

end Text

end Bracework
