import Bracework.Text.Quoted

/-!
# Arguments of the command line

The program is called with one of three commands and the path of a template. The flags for a
settings file and for partials may stand before the command or after it, and where both are
given, what stands after it counts; the flags for output stand after it. A flag with a value
takes it from behind an equals sign, from the rest of its own word when it is a single letter,
or from the next word, which may not look like a flag. After `--` no word is a flag.

Words are read from the left, and the first that is out of place ends the reading. So
does the first request for help or for the version.
-/

namespace Bracework

/-- The commands. -/
inductive Command where
  | parse
  | validate
  | tokens
deriving DecidableEq, Repr

/-- The flags. -/
inductive Flag where
  | config
  | partialName
  | format
  | noPositions
  | help
  | version
deriving DecidableEq, Repr

namespace Command

/-- The word for a command. -/
def word : Command → Text
  | .parse => "parse"
  | .validate => "validate"
  | .tokens => "tokens"

/-- The command with a word. -/
def named? (word : Text) : Option Command :=
  [parse, validate, tokens].find? fun command => command.word == word

/-- The flags that may stand after a command. -/
def flags : Command → List Flag
  | .parse => [.config, .partialName, .format, .help]
  | .validate => [.config, .partialName, .help]
  | .tokens => [.config, .partialName, .format, .noPositions, .help]

end Command

namespace Flag

/-- The name of a flag behind two dashes. -/
def long : Flag → Text
  | .config => "config"
  | .partialName => "partial"
  | .format => "format"
  | .noPositions => "no-positions"
  | .help => "help"
  | .version => "version"

/-- The letter of a flag behind one dash. -/
def short? : Flag → Option Char
  | .config => some 'c'
  | .partialName => some 'p'
  | .format => some 'f'
  | .noPositions => none
  | .help => some 'h'
  | .version => some 'V'

/-- Whether a value follows the flag. -/
def takesValue : Flag → Bool
  | .config => true
  | .partialName => true
  | .format => true
  | .noPositions => false
  | .help => false
  | .version => false

/-- The flags that may stand before the command. -/
def beforeCommand : List Flag := [.config, .partialName, .help, .version]

end Flag

/-- What is out of place on a command line. -/
inductive UsageFault where
  | noCommand
  | unknownCommand (word : Text)
  | unknownFlag (word : Text)
  | missingValue (flag : Flag)
  | unneededValue (flag : Flag)
  | repeated (flag : Flag)
  | surplus (word : Text)
  | missingPath
deriving DecidableEq, Repr

namespace UsageFault

/-- The wording of a fault. -/
def message : UsageFault → Text
  | .noCommand => "expected one of the commands parse, validate and tokens"
  | .unknownCommand word => "unknown command " ++ word.quoted
  | .unknownFlag word => "unexpected flag " ++ word.quoted
  | .missingValue flag => "--" ++ flag.long ++ " needs a value"
  | .unneededValue flag => "--" ++ flag.long ++ " takes no value"
  | .repeated flag => "--" ++ flag.long ++ " cannot be given more than once"
  | .surplus word => "unexpected argument " ++ word.quoted
  | .missingPath => "expected the path of a template"

end UsageFault

/-- Why no command is run. -/
inductive Interruption where
  | help
  | version
  | misuse (fault : UsageFault)
deriving DecidableEq, Repr

/-- What has been given on one side of the command. -/
structure Given where
  config : Option Text
  partials : List Text
  format : Option Text
  noPositions : Bool
  path : Option Text
deriving DecidableEq, Repr

namespace Given

/-- Nothing has been given. -/
def nothing : Given := ⟨none, [], none, false, none⟩

/-- Records a flag with its value. Only names of partials may be given more than once. -/
def withValue (given : Given) (flag : Flag) (value : Text) : Except Interruption Given :=
  match flag with
  | .config =>
    if given.config.isSome then .error (.misuse (.repeated flag))
    else .ok { given with config := some value }
  | .format =>
    if given.format.isSome then .error (.misuse (.repeated flag))
    else .ok { given with format := some value }
  | _ => .ok { given with partials := given.partials ++ [value] }

/-- Records a flag without a value. -/
def withFlag (given : Given) (flag : Flag) : Except Interruption Given :=
  match flag with
  | .help => .error .help
  | .version => .error .version
  | _ =>
    if given.noPositions then .error (.misuse (.repeated flag))
    else .ok { given with noPositions := true }

/-- Records a word that is no flag. -/
def withWord (given : Given) (word : Text) : Except Interruption Given :=
  if given.path.isSome then .error (.misuse (.surplus word))
  else .ok { given with path := some word }

end Given

/-- A word of the command line. -/
inductive WordForm where
  /-- The two dashes after which no word is a flag. -/
  | dashes
  | flag (flag : Flag) (value : Option Text)
  | unknown
  | plain
deriving DecidableEq, Repr

namespace WordForm

/-- The form of a word where certain flags may stand. -/
def ofWord (flags : List Flag) (word : Text) : WordForm :=
  match word with
  | ['-', '-'] => .dashes
  | '-' :: '-' :: rest =>
    let name := rest.takeWhile (· != '=')
    let value := (rest.dropWhile (· != '=')).tail
    match flags.find? fun flag => flag.long == name with
    | some known => .flag known (if name.length < rest.length then some value else none)
    | none => .unknown
  | ['-'] => .plain
  | '-' :: letter :: rest =>
    match flags.find? fun flag => flag.short? == some letter with
    | some known =>
      if !known.takesValue ∨ rest = [] then .flag known none
      else .flag known (some (if rest.head? = some '=' then rest.tail else rest))
    | none => .unknown
  | _ => .plain

end WordForm

namespace Given

/-- Whether a word can be the value of the flag before it. -/
def isValue (word : Text) : Bool := word.head? ≠ some '-' || word.length == 1

/-- Reads words where certain flags may stand, up to a plain word for which `stops` holds. What
is left begins with that word. -/
def read (flags : List Flag) (stops : Bool) (given : Given) :
    List Text → Except Interruption (Given × List Text)
  | [] => .ok (given, [])
  | word :: rest =>
    match WordForm.ofWord flags word with
    | .dashes => do
      if stops then
        throw (.misuse (match rest with
          | [] => .noCommand
          | surplus :: _ => .surplus surplus))
      else return (← rest.foldlM Given.withWord given, [])
    | .unknown => .error (.misuse (.unknownFlag word))
    | .plain => do
      if stops then return (given, word :: rest)
      else read flags stops (← given.withWord word) rest
    | .flag flag none => do
      if flag.takesValue then
        match rest with
        | [] => throw (.misuse (.missingValue flag))
        | value :: rest =>
          if isValue value then read flags stops (← given.withValue flag value) rest
          else throw (.misuse (.missingValue flag))
      else read flags stops (← given.withFlag flag) rest
    | .flag flag (some value) => do
      if flag.takesValue then read flags stops (← given.withValue flag value) rest
      else throw (.misuse (.unneededValue flag))

end Given

/-- What the program is asked to do. -/
structure Invocation where
  command : Command
  path : Text
  config : Option Text
  partials : List Text
  format : Option Text
  noPositions : Bool
deriving DecidableEq, Repr

namespace Invocation

/-- The answer to a request for help on a command. -/
def ofHelp : List Text → Interruption
  | [] => .help
  | [word] =>
    if (Command.named? word).isSome ∨ word = "help".toList then .help
    else .misuse (.unknownCommand word)
  | word :: surplus :: _ =>
    if (Command.named? word).isSome ∨ word = "help".toList then .misuse (.unknownCommand surplus)
    else .misuse (.unknownCommand word)

/-- The request in what stands on the two sides of the command. -/
def ofSides (before : Given) (command : Command) (after : Given) :
    Except Interruption Invocation :=
  match after.path with
  | none => .error (.misuse .missingPath)
  | some path => .ok {
      command, path
      config := after.config.or before.config
      partials := if after.partials.isEmpty then before.partials else after.partials
      format := after.format
      noPositions := after.noPositions }

/-- The request in the words of a command line. -/
def ofWords (words : List Text) : Except Interruption Invocation := do
  let (before, rest) ← Given.read Flag.beforeCommand true Given.nothing words
  match rest with
  | [] => throw (.misuse .noCommand)
  | word :: rest =>
    if word = "help".toList then throw (ofHelp rest)
    else
      match Command.named? word with
      | none => throw (.misuse (.unknownCommand word))
      | some command =>
        let (after, _) ← Given.read command.flags false Given.nothing rest
        ofSides before command after

end Invocation

end Bracework
