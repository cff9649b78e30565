import Bracework.Settings.Value

/-!
# Tables under construction

The lines of a TOML document put values into a tree of tables. A table comes into being in one
of three ways, and that decides what later lines may add to it: a header defines it, the header
of a table inside it implies it, or a dotted key opens it. A header may define a table once, an
implied one included. Dotted keys reach into tables that other dotted keys opened, but put no
value into any other. A list of tables is extended by each header of it, and names inside it
mean its last table. A value is closed to all additions.
-/

namespace Bracework

namespace Toml

/-- How a table came into being. -/
inductive TableOrigin where
  | defined
  | implied
  | dotted
deriving DecidableEq, Repr

/-- What stands under a name. -/
inductive Entry where
  | value (value : Setting)
  | table (origin : TableOrigin) (entries : List (Text × Entry))
  /-- A list of tables, the last one first. -/
  | tables (reversed : List (List (Text × Entry)))
deriving Repr, Inhabited

/-- The entries of a table. -/
abbrev Entries := List (Text × Entry)

namespace Entries

/-- What stands under a name. -/
def lookup? (entries : Entries) (name : Text) : Option Entry :=
  (entries.find? fun entry => entry.1 == name).map Prod.snd

/-- The entries with something else under a name. -/
def replace (entries : Entries) (name : Text) (content : Entry) : Entries :=
  entries.map fun entry => if entry.1 = name then (name, content) else entry

/-- The entries with a new name. -/
def add (entries : Entries) (name : Text) (content : Entry) : Entries :=
  entries ++ [(name, content)]

/-- Puts a value under a dotted key. `isOpen` says whether the last name of the key may be a new
entry here. -/
def put (value : Setting) : List Text → Bool → Entries → Option Entries
  | [], _, _ => none
  | [name], isOpen, entries =>
    if isOpen ∧ (entries.lookup? name).isNone then some (entries.add name (.value value)) else none
  | name :: more, _, entries =>
    match entries.lookup? name with
    | none => do return entries.add name (.table .dotted (← put value more true []))
    | some (.table .defined _) => none
    | some (.table origin inner) => do
      let inner ← put value more (origin == .dotted) inner
      return entries.replace name (.table origin inner)
    | some (.tables (last :: others)) => do
      let last ← put value more false last
      return entries.replace name (.tables (last :: others))
    | some (.tables []) => none
    | some (.value _) => none

/-- Opens the table that a header names. With `listed`, the table is one more of a list. -/
def define (listed : Bool) : List Text → Entries → Option Entries
  | [], _ => none
  | [name], entries =>
    match entries.lookup? name with
    | none => some (entries.add name (if listed then .tables [[]] else .table .defined []))
    | some (.table .implied inner) =>
      if listed then none else some (entries.replace name (.table .defined inner))
    | some (.tables tables) =>
      if listed then some (entries.replace name (.tables ([] :: tables))) else none
    | some _ => none
  | name :: more, entries =>
    match entries.lookup? name with
    | none => do return entries.add name (.table .implied (← define listed more []))
    | some (.table origin inner) => do
      return entries.replace name (.table origin (← define listed more inner))
    | some (.tables (last :: others)) => do
      return entries.replace name (.tables ((← define listed more last) :: others))
    | some (.tables []) => none
    | some (.value _) => none

/-- Changes the table that a header has opened. -/
def within (change : Entries → Option Entries) : List Text → Entries → Option Entries
  | [], entries => change entries
  | name :: more, entries =>
    match entries.lookup? name with
    | some (.table origin inner) => do
      return entries.replace name (.table origin (← within change more inner))
    | some (.tables (last :: others)) => do
      return entries.replace name (.tables ((← within change more last) :: others))
    | _ => none

end Entries

mutual

/-- What stands under a name, as a setting. -/
def Entry.setting : Entry → Setting
  | .value value => value
  | .table _ entries => .table (Entries.settings entries)
  | .tables reversed => .list (Entries.tableSettings reversed).reverse

/-- The entries of a table as settings. -/
def Entries.settings : List (Text × Entry) → List (Text × Setting)
  | [] => []
  | (name, content) :: rest => (name, Entry.setting content) :: Entries.settings rest

/-- Each table of a list as a setting. -/
def Entries.tableSettings : List (List (Text × Entry)) → List Setting
  | [] => []
  | entries :: rest => .table (Entries.settings entries) :: Entries.tableSettings rest

end

end Toml

end Bracework
