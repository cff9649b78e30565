import Bracework.Document
import Bracework.Token

/-!
# Drawings

A document is drawn with one line per node, each node before its children. A line begins with
two characters for each level above the node, a bar where the block of that level goes on and
blanks where it has ended. Then follow a connector, which is the closing one for the last node
of its block, a sign for the variant of the node, and its label.

    ⧉ document
    ├─ ¶ "Hi "
    └─ § each people #1
      ├─ @ p #1
      ├─ ≡ p.name
      └─ ⊘ p #1

Tokens are listed one per line.
-/

namespace Bracework

namespace Node

/-- The sign of the variant of a node. -/
def sign : Node → Text
  | .content _ => "¶"
  | .print _ _ => "≡"
  | .scope _ _ _ _ => "§"
  | .boundName _ _ => "@"
  | .binding _ _ _ _ => "≔"
  | .unbind _ _ => "⊘"
  | .declaration _ _ _ => "⊏"
  | .rendering _ _ => "⊐"
  | .edit _ => "↵"
  | .custom _ _ _ _ => "⊕"

end Node

namespace Drawing

/-- The number of characters that are shown of a label. -/
def labelWidth : Nat := 40

/-- A label cut to its width, with three points in place of the rest. -/
def shortened (label : Text) : Text :=
  if label.length > labelWidth then label.take labelWidth ++ "..." else label

/-- The line of a node behind the characters of the levels above it. -/
def row (lead : Text) (last : Bool) (node : Node) : Text :=
  lead ++ (if last then "└─ " else "├─ ") ++ node.sign ++ " " ++ shortened node.label ++ "\n"

/-- The characters of one level more. -/
def deeper (lead : Text) (last : Bool) : Text := lead ++ (if last then "  " else "│ ")

mutual

/-- The lines below that of a node. -/
def below (lead : Text) : Node → Text
  | .scope _ _ _ children => rows lead children
  | .declaration _ _ children => rows lead children
  | .custom _ _ _ children => rows lead children
  | .content _ => []
  | .print _ _ => []
  | .boundName _ _ => []
  | .binding _ _ _ _ => []
  | .unbind _ _ => []
  | .rendering _ _ => []
  | .edit _ => []

/-- The lines of the nodes of one block. -/
def rows (lead : Text) : List Node → Text
  | [] => []
  | first :: rest =>
    row lead rest.isEmpty first ++ below (deeper lead rest.isEmpty) first ++ rows lead rest

end

/-- The drawing of a document. -/
def ofDocument (document : Document) : Text := "⧉ document\n" ++ rows [] document.children

/-- The line of a token, with its position in seven columns where positions are shown. -/
def tokenRow (positions : Bool) (token : Token) : Text :=
  (if positions then Text.padLeft 7 token.position.render ++ " " else []) ++ token.render ++ "\n"

/-- The list of tokens. -/
def ofTokens (positions : Bool) (tokens : List Token) : Text :=
  tokens.flatMap (tokenRow positions)

end Drawing

end Bracework
