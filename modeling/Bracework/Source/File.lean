import Bracework.Text.Utf8

/-!
# Reading template files

How reading a file can fail, and what people are told about it. A template file has to be text
in UTF-8; a byte order mark at its start is part of the template.
-/

namespace Bracework

/-- Why a file could not be read as a text. -/
inductive FileFault where
  | notFound
  | isDirectory
  | notDirectory
  | permissionDenied
  /-- The bytes of the file are no text in UTF-8. -/
  | notUtf8
  | other (description : Text)
deriving DecidableEq, Repr

namespace FileFault

/-- A failure reported by the operating system, with its number. -/
def numbered (description : Text) (code : Nat) : Text :=
  description ++ " (os error " ++ Text.ofNat code ++ ")"

/-- The cause of a failure. -/
def cause : FileFault → Text
  | .notFound => numbered "No such file or directory" 2
  | .permissionDenied => numbered "Permission denied" 13
  | .notDirectory => numbered "Not a directory" 20
  | .isDirectory => numbered "Is a directory" 21
  | .notUtf8 => "stream did not contain valid UTF-8"
  | .other description => description

/-- The wording of a failure. -/
def message (fault : FileFault) : Text := "IO error: " ++ fault.cause

end FileFault

/-- How files are read: the bytes at a path, or why there are none. -/
abbrev FileSystem := Text → Except FileFault (List UInt8)

namespace FileSystem

/-- The text of a file, which has to be in UTF-8. -/
def text (files : FileSystem) (path : Text) : Except FileFault Text := do
  match Utf8.decode? (← files path) with
  | some text => return text
  | none => throw .notUtf8

end FileSystem

end Bracework
