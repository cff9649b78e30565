import Bracework.Text.Basic

/-!
# Breaches of contract

Mistakes in a template are diagnostics. A breach is something else: a tag provider that gave
tokens reaching past its tag, or tokens whose blocks are not closed. It ends the work on the
template at once, and no diagnostics or tree are given.
-/

namespace Bracework

/-- A broken contract. -/
inductive Breach where
  /-- A token that ends at `offset`, behind the end `stop` of the tag it was given for. -/
  | tokenPastTag (offset stop : Nat)
  /-- Blocks open after the last token, by their labels, the outermost first. -/
  | openAtEnd (labels : List Text)
deriving DecidableEq, Repr

namespace Breach

/-- The wording of a breach. -/
def message : Breach → Text
  | .tokenPastTag offset stop =>
    "internal index location error: cursor at " ++ Text.ofNat offset
      ++ " is past the tag ending at " ++ Text.ofNat stop
  | .openAtEnd labels =>
    "build stack is unbalanced after the last token, still open: " ++ Text.joinWith ", " labels

end Breach

end Bracework
