import Bracework.CommandLine.Arguments
import Bracework.Settings.Basic
import Bracework.Source.Excerpt
import Bracework.Template

/-!
# Running commands

A run reads files and gives what is written to the two streams and an exit status: zero for a
template with nothing wrong, one for a template with diagnostics, and two when there is no
verdict, because the command line, the settings or the template could not be read.

The name of the format is checked first, then the settings are read, then the template. All
commands report the diagnostics of the template in the same way. The command `parse` writes the
document, which a template with diagnostics does not have; `tokens` writes the tokens in any
case.
-/

namespace Bracework

/-- What a run leaves behind. -/
structure Outcome where
  status : Nat
  output : Text
  errors : Text
deriving DecidableEq, Repr

/-- Why a run has no verdict. -/
inductive RunFault where
  | format (unknown : UnknownFormat)
  | settings (fault : SettingsFault)
  | file (fault : FileFault)
  | breach (breach : Breach)
deriving DecidableEq, Repr

namespace RunFault

/-- The wording of a fault. -/
def message : RunFault → Text
  | .format unknown => unknown.message
  | .settings fault => fault.message
  | .file fault => fault.message
  | .breach broken => broken.message

end RunFault

namespace Outcome

/-- The outcome without a verdict. -/
def ofMessage (message : Text) : Outcome := ⟨2, [], "error: " ++ message ++ "\n"⟩

/-- A text with a line feed at its end. -/
def completed (text : Text) : Text := if Text.endsWith "\n" text then text else text ++ "\n"

end Outcome

/-- How the diagnostics of a template are reported. -/
structure Reporter where
  path : Text
  source : Text
  showSource : Bool

namespace Reporter

/-- The report of one diagnostic: its place and wording, what was expected if that can be said,
and the lines around it if they are shown. -/
def entry (reporter : Reporter) (diagnostic : Diagnostic) : Text :=
  let expected := diagnostic.problem.expected
  let hint : Text := if expected = [] then [] else " (expected " ++ expected ++ ")"
  let excerpt : Text :=
    if reporter.showSource then Excerpt.around reporter.source diagnostic.position else []
  reporter.path ++ ":" ++ diagnostic.render ++ hint ++ "\n" ++ excerpt

/-- The line below all reports. -/
def summary (reporter : Reporter) (count : Nat) : Text :=
  let noun : Text := if count = 1 then " problem found\n" else " problems found\n"
  reporter.path ++ ": " ++ Text.ofNat count ++ noun

/-- The reports of all diagnostics; nothing if there are none. -/
def text (reporter : Reporter) (diagnostics : List Diagnostic) : Text :=
  if diagnostics = [] then []
  else diagnostics.flatMap reporter.entry ++ reporter.summary diagnostics.length

/-- The outcome of a run that has written `output`. -/
def outcome (reporter : Reporter) (output : Text) (diagnostics : List Diagnostic) : Outcome :=
  { status := if diagnostics = [] then 0 else 1
    output
    errors := reporter.text diagnostics }

end Reporter

namespace Invocation

/-- The settings of a run: the file over the defaults, and the flags over the file. -/
def settings (invocation : Invocation) (files : FileSystem) : Except RunFault Settings := do
  let format ← match invocation.format with
    | none => pure none
    | some name =>
      match OutputFormat.ofName name with
      | .ok format => pure (some format.name)
      | .error unknown => throw (.format unknown)
  let positions := if invocation.noPositions then some false else none
  match Settings.load files invocation.config.toList ⟨format, positions⟩ with
  | .ok settings => return settings
  | .error fault => throw (.settings fault)

/-- The options of a run: the partials in the settings, and after them those of the flags. -/
def options (invocation : Invocation) (settings : Settings) : Options :=
  { partials := settings.partials ++ invocation.partials, providers := [] }

/-- What a command makes of a template. -/
def verdict (invocation : Invocation) (settings : Settings) (source : Text) :
    Except Breach Outcome := do
  let reporter : Reporter := ⟨invocation.path, source, settings.showSource⟩
  let options := invocation.options settings
  match invocation.command with
  | .parse =>
    let result ← Template.parse options source
    match result.document with
    | some document =>
      return reporter.outcome (Outcome.completed (settings.format.document document)) []
    | none => return reporter.outcome [] result.diagnostics
  | .validate =>
    let diagnostics ← Template.validate options source
    let output : Text := if diagnostics = [] then invocation.path ++ ": ok\n" else []
    return reporter.outcome output diagnostics
  | .tokens =>
    let result ← Template.tokenize options source
    let listing := settings.format.tokens settings.showPositions result.tokens
    return reporter.outcome (Outcome.completed listing) result.diagnostics

/-- The files that a run may read. -/
def files (invocation : Invocation) : List Text :=
  let config := invocation.config.toList
  config ++ config.filterMap Settings.withSuffix? ++ [invocation.path]

/-- Runs a command. -/
def run (invocation : Invocation) (files : FileSystem) : Except RunFault Outcome := do
  let settings ← invocation.settings files
  match files.text invocation.path with
  | .error fault => throw (.file fault)
  | .ok source =>
    match invocation.verdict settings source with
    | .ok outcome => return outcome
    | .error broken => throw (.breach broken)

end Invocation

namespace Outcome

/-- How the program is called. -/
def usage : Text :=
  "Usage: stache [--config FILE] [--partial NAME] (parse | validate | tokens) PATH\n" ++
    "       parse and tokens take --format FORMAT, tokens takes --no-positions\n"

/-- The outcome when no command is run. -/
def ofInterruption : Interruption → Outcome
  | .help => ⟨0, usage, []⟩
  | .version => ⟨0, "stache 0.1.0\n", []⟩
  | .misuse fault => ⟨2, [], "error: " ++ fault.message ++ "\n\n" ++ usage⟩

/-- The outcome of the program for the words of a command line. -/
def ofWords (files : FileSystem) (words : List Text) : Outcome :=
  match Invocation.ofWords words with
  | .error interruption => ofInterruption interruption
  | .ok invocation =>
    match invocation.run files with
    | .ok outcome => outcome
    | .error fault => ofMessage fault.message

end Outcome

end Bracework
