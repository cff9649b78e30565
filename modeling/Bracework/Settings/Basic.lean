import Bracework.Format.Output
import Bracework.Settings.Layers
import Bracework.Source.File
import Bracework.Toml.Document

/-!
# Settings

What the tools of this library can be told: partials known outside a template, how output is
written, and whether the lines around a problem are shown. Every setting has a default. Files
lie over the defaults in the order in which they are given, and what is asked for directly lies
over all files.

Settings are read once all layers are in place, so a bad value that another layer replaces does
no harm. Names that mean nothing here are passed over.
-/

namespace Bracework

/-- The settings of the tools. -/
structure Settings where
  /-- The names of partials known outside a template. -/
  partials : List Text
  format : OutputFormat
  /-- Whether listings of tokens show positions. -/
  showPositions : Bool
  /-- Whether the lines around a problem are shown. -/
  showSource : Bool
deriving DecidableEq, Repr

/-- Why there are no settings. -/
inductive SettingsFault where
  /-- There is no file at a path. -/
  | missingFile (path : Text)
  /-- A file is no TOML document. -/
  | malformedFile (path : Text)
  /-- A setting is missing or of the wrong kind. -/
  | unsuitable
deriving DecidableEq, Repr

namespace SettingsFault

/-- The cause of a fault. -/
def cause : SettingsFault → Text
  | .missingFile path => "configuration file " ++ path.quoted ++ " not found"
  | .malformedFile path => "configuration file " ++ path.quoted ++ " is not valid TOML"
  | .unsuitable => "a setting is missing or of the wrong kind"

/-- The wording of a fault. -/
def message (fault : SettingsFault) : Text := "configuration error: " ++ fault.cause

end SettingsFault

/-- What is asked for directly. A format is given by its name, which is checked with all other
settings. -/
structure Overrides where
  format : Option Text
  showPositions : Option Bool
deriving DecidableEq, Repr

namespace Overrides

/-- What is asked for directly, as a source. -/
def entries (overrides : Overrides) : List (Text × Setting) :=
  let format : Option (Text × Setting) :=
    overrides.format.map fun name => ("output.format".toList, .text name)
  let positions : Option (Text × Setting) :=
    overrides.showPositions.map fun value => ("output.show_positions".toList, .bool value)
  format.toList ++ positions.toList

end Overrides

namespace Settings

/-- The defaults as they would be written in a file. -/
def defaults : Setting :=
  .table [("parser", .table [("partials", .list [])]),
    ("output", .table [("format", .text "treeviz"), ("show_positions", .bool true)]),
    ("diagnostics", .table [("show_source", .bool true)])]

/-- The fields of a group, by name in a table and by place in a list. -/
def fields? (names : List Text) : Setting → Option (List Setting)
  | .table entries => names.mapM (Setting.lookup? entries)
  | .list items => if items.length < names.length then none else some (items.take names.length)
  | _ => none

/-- The format that a setting names: a text, or the only name in a table. -/
def format? : Setting → Option OutputFormat
  | .text name => OutputFormat.named? name
  | .table [(name, _)] => OutputFormat.named? name
  | _ => none

/-- A list of texts. -/
def texts? : Setting → Option (List Text)
  | .list items => items.mapM Setting.text?
  | _ => none

/-- The settings in a tree. -/
def ofTree? (tree : Setting) : Option Settings := do
  match ← fields? ["parser", "output", "diagnostics"] tree with
  | [parser, output, diagnostics] =>
    match ← fields? ["partials"] parser, ← fields? ["format", "show_positions"] output,
        ← fields? ["show_source"] diagnostics with
    | [partials], [format, showPositions], [showSource] =>
      return {
        partials := ← texts? partials
        format := ← format? format
        showPositions := ← showPositions.truth?
        showSource := ← showSource.truth? }
    | _, _, _ => none
  | _ => none

/-- The second path under which a settings file is looked for, with `.toml` behind the name of the
file. What stands behind that name, slashes and points for the same directory, does not count.
A path that ends in the way to a parent directory names no file. -/
def withSuffix? (path : Text) : Option Text :=
  match (Text.splitOn '/' path).reverse.dropWhile fun step => step = [] ∨ step = ['.'] with
  | [] => none
  | name :: parents =>
    if name = ['.', '.'] then none
    else some (Text.joinWith "/" (name :: parents).reverse ++ ".toml")

/-- The bytes of a settings file, which is looked for under its path first. -/
def fileBytes? (files : FileSystem) (path : Text) : Option (List UInt8) :=
  match files path with
  | .ok bytes => some bytes
  | .error _ => (withSuffix? path).bind fun second => (files second).toOption

/-- A tree with the settings of a file over it. The file has to be a TOML document in UTF-8. -/
def withFile (files : FileSystem) (tree : Setting) (path : Text) : Except SettingsFault Setting :=
  match fileBytes? files path with
  | none => .error (.missingFile path)
  | some bytes =>
    match (Utf8.decode? bytes).bind Toml.document? with
    | none => .error (.malformedFile path)
    | some entries => .ok (tree.layer entries)

/-- The settings from the defaults, files and what is asked for directly. -/
def load (files : FileSystem) (paths : List Text) (overrides : Overrides) :
    Except SettingsFault Settings := do
  let tree ← paths.foldlM (withFile files) defaults
  match ofTree? (tree.layer overrides.entries) with
  | some settings => return settings
  | none => throw .unsuitable

end Settings

end Bracework
