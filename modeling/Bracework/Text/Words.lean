import Bracework.Text.Basic

/-!
# Names made of words

The variants of tokens, nodes and operations are named by a sequence of lower-case words. One
such name has several spellings: the words joined by underscores or dashes, or run together
with each word capitalised. All spellings come from the same words.
-/

namespace Bracework

/-- A name given by its lower-case words. -/
abbrev Words := List Text

namespace Words

/-- The words joined by underscores, such as `scope_open`. -/
def underscored (words : Words) : Text := Text.joinWith "_" words

/-- The words joined by dashes, such as `syntax-error`. -/
def dashed (words : Words) : Text := Text.joinWith "-" words

/-- The words separated by blanks, such as `syntax error`. -/
def spaced (words : Words) : Text := Text.joinWith " " words

/-- A word with its first letter in upper case. -/
def capitalised : Text → Text
  | [] => []
  | first :: rest => first.toUpper :: rest

/-- The capitalised words run together, such as `ScopeOpen`. -/
def camel (words : Words) : Text := words.flatMap capitalised

end Words

end Bracework
