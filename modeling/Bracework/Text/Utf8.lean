import Bracework.Text.Basic

/-!
# UTF-8

Files are bytes, and a text is read from them in UTF-8. The first byte of a character says how
many bytes follow it and, for some first bytes, narrows the range of the second. Where the bytes
are no character, reading skips the first byte and those after it that still fitted, and the
whole is no text.
-/

namespace Bracework

namespace Utf8

/-- The ranges of the bytes that follow the first byte of a character. -/
def continuations (first : Nat) : Option (List (Nat × Nat)) :=
  let any := (0x80, 0xBF)
  if first < 0x80 then some []
  else if first < 0xC2 then none
  else if first < 0xE0 then some [any]
  else if first = 0xE0 then some [(0xA0, 0xBF), any]
  else if first = 0xED then some [(0x80, 0x9F), any]
  else if first < 0xF0 then some [any, any]
  else if first = 0xF0 then some [(0x90, 0xBF), any, any]
  else if first < 0xF4 then some [any, any, any]
  else if first = 0xF4 then some [(0x80, 0x8F), any, any]
  else none

/-- The part of a character's number that is in its first byte. -/
def firstPart (first following : Nat) : Nat :=
  if following = 0 then first else first % Nat.pow 2 (6 - following)

/-- Reads the bytes after the first one as long as they are in their ranges. -/
def follow (value : Nat) : List (Nat × Nat) → List UInt8 → Option Char × List UInt8
  | [], rest => (some (Char.ofNat value), rest)
  | _ :: _, [] => (none, [])
  | (low, high) :: ranges, byte :: rest =>
    if low ≤ byte.toNat ∧ byte.toNat ≤ high then
      follow (value * 64 + byte.toNat % 64) ranges rest
    else (none, byte :: rest)

/-- Following a character never adds bytes. -/
theorem follow_length (value : Nat) (ranges : List (Nat × Nat)) (bytes : List UInt8) :
    (follow value ranges bytes).2.length ≤ bytes.length := by
  fun_induction follow value ranges bytes with
  | case1 => simp
  | case2 => simp
  | case3 _ _ _ _ _ _ _ shorter => simp only [List.length_cons]; omega
  | case4 => simp

/-- Reads the character that begins with a byte, if there is one, and what follows it. -/
def next (first : UInt8) (rest : List UInt8) : Option Char × List UInt8 :=
  match continuations first.toNat with
  | none => (none, rest)
  | some ranges => follow (firstPart first.toNat ranges.length) ranges rest

/-- Reading a character leaves no more than the bytes after its first. -/
theorem next_length (first : UInt8) (rest : List UInt8) :
    (next first rest).2.length ≤ rest.length := by
  simp only [next]
  split
  · simp
  · exact follow_length _ _ _

/-- The characters of a sequence of bytes; nothing stands for bytes that are no character. -/
def characters (bytes : List UInt8) : List (Option Char) :=
  match bytes with
  | [] => []
  | first :: rest => (next first rest).1 :: characters (next first rest).2
termination_by bytes.length
decreasing_by
  have := next_length first rest
  simp only [List.length_cons]
  omega

/-- The text that bytes are the UTF-8 form of. -/
def decode? (bytes : List UInt8) : Option Text := (characters bytes).mapM id
end Utf8

end Bracework
