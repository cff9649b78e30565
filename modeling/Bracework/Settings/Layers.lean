import Bracework.Settings.Value

/-!
# Layers of settings

Settings from several sources are laid one over the other. A table goes into the table below it
name by name; anything else takes the place of what was there, a list as a whole. The case of
the letters in a name does not count: a tree holds its names in lower case, and names are
brought to lower case when they are set.

The names at the top of a source may be written as the way to a place: names with points between
them, and indices between brackets. A name of another form stands for itself, also one whose
index does not fit in sixty-four bits with a sign. A place is made when it is set: what is in
the way is replaced by an empty table or list, and a list is filled with gaps up to the index.
An index below zero counts from the end, and gaps are put before the list if it is too short.
-/

namespace Bracework

/-- One step on the way to a place in settings. -/
inductive SettingStep where
  | name (name : Text)
  | index (index : Int)
deriving DecidableEq, Repr

namespace SettingStep

/-- Whether a character may stand in a name that is part of a way. -/
def isNameChar (character : Char) : Bool :=
  character.isAlphanum || character == ' ' || character == '_' || character == '-'

/-- Whether a character may stand around an index. -/
def isSpaceOrTab (character : Char) : Bool := character == ' ' || character == '\t'

/-- Whether an index can be used: it fits in sixty-four bits with a sign. -/
def isIndex (value : Int) : Bool :=
  decide (-9223372036854775808 ≤ value) && decide (value ≤ 9223372036854775807)

/-- Reads the index behind an opening bracket, and its closing one. -/
def index? (text : Text) : Option (Int × Text) :=
  let text := text.dropWhile isSpaceOrTab
  let negative := text.head? = some '-'
  let text := if negative then text.drop 1 else text
  let digits := text.takeWhile Char.isDigit
  let size : Int := digits.foldl (fun value digit => value * 10 + (digit.toNat - '0'.toNat)) 0
  let value := if negative then -size else size
  match (text.dropWhile Char.isDigit).dropWhile isSpaceOrTab with
  | ']' :: rest => if digits ≠ [] ∧ isIndex value then some (value, rest) else none
  | _ => none

/-- Reads the steps behind the first. The count bounds how many there can be. -/
def more? : Nat → Text → Option (List SettingStep)
  | _, [] => some []
  | 0, _ => none
  | steps + 1, '.' :: rest =>
    let name := rest.takeWhile isNameChar
    if name = [] then none
    else (more? steps (rest.dropWhile isNameChar)).map (SettingStep.name name :: ·)
  | steps + 1, '[' :: rest => do
    let (place, rest) ← index? rest
    return SettingStep.index place :: (← more? steps rest)
  | _, _ => none

/-- The steps that a name at the top of a source stands for. -/
def ofName (name : Text) : List SettingStep :=
  let text := name.map Char.toLower
  let first := text.takeWhile isNameChar
  match more? text.length (text.dropWhile isNameChar) with
  | some steps => if first = [] then [.name text] else .name first :: steps
  | none => [.name text]

end SettingStep

namespace Setting

mutual

/-- Lays a value over what is below it in a table. -/
def overlay (below : Setting) : Setting → Setting
  | .table entries =>
    match below with
    | .table beneath => .table (overlayAll beneath entries)
    | other => if entries.isEmpty then other else .table (overlayAll [] entries)
  | value => value

/-- Lays the entries of a table over those below, name by name. -/
def overlayAll (below : List (Text × Setting)) : List (Text × Setting) → List (Text × Setting)
  | [] => below
  | (name, value) :: rest =>
    let name := name.map Char.toLower
    overlayAll (replace below name (overlay ((lookup? below name).getD (.table [])) value)) rest

end

/-- A number of gaps. -/
def gaps (count : Nat) : List Setting := List.replicate count .nothing

/-- The items of a list with a change at an index, and gaps where there were no items. -/
def setItem (items : List Setting) (index : Int) (change : Setting → Setting) : List Setting :=
  if index < 0 then
    let back := index.natAbs
    (gaps (back - items.length) ++ items).modify (items.length - back) change
  else
    let place := index.toNat
    (items ++ gaps (place + 1 - items.length)).modify place change

/-- A setting with a value at the end of a way. -/
def set (value : Setting) : List SettingStep → Setting → Setting
  | [], _ => value
  | [.name name], whole =>
    .table (replace whole.entries name
      (overlay ((lookup? whole.entries name).getD (.table [])) value))
  | .name name :: more, whole =>
    let inner := (lookup? whole.entries name).getD .nothing
    .table (replace whole.entries name (set value more inner))
  | .index index :: more, whole =>
    let items := match whole with
      | .list items => items
      | _ => []
    .list (setItem items index (set value more))

/-- Lays a source over what is below it. -/
def layer (below : Setting) (source : List (Text × Setting)) : Setting :=
  source.foldl (fun whole entry => set entry.2 (SettingStep.ofName entry.1) whole) below

end Setting

end Bracework
