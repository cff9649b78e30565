import Bracework.Decimal.Binary64
import Bracework.Text.Basic

/-!
# Data trees

Documents, tokens and diagnostics are written in several data formats. They are first laid out
as one tree of records, lists and scalars, in which the order of fields is the order in which
they are written. A format is then a way to write such a tree.
-/

namespace Bracework

/-- A tree of data. A field of a record keeps its place. -/
inductive Datum where
  | null
  | bool (value : Bool)
  | natural (value : Nat)
  | real (value : Binary64)
  | text (value : Text)
  | list (items : List Datum)
  | record (fields : List (String × Datum))
  /-- A datum marked with the name of its variant. -/
  | tagged (tag : String) (value : Datum)
deriving Repr, Inhabited

namespace Datum

/-- A field that is left out when there is nothing to write. -/
def optional (name : String) : Option Datum → List (String × Datum)
  | some value => [(name, value)]
  | none => []

end Datum

end Bracework
