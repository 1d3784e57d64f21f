/-
# FlawQuery.CommandLine.Run -- carrying out a command

The words are read first, then the settings, then the catalogue, and only then the command runs. The
first of these that fails decides the outcome, even for a command that does not use the catalogue.
-/

import FlawQuery.CommandLine.Arguments
import FlawQuery.Diagnostic
import FlawQuery.Report.Patterns

namespace FlawQuery.CommandLine

/-! ## Translating a template file -/

/-- Why a template file cannot be translated. -/
inductive TranslateFault where
  | unreadable (path : String) (fault : ReadFault)
  | invalidJson (fault : Json.Fault)
  | invalidTemplate (path : String) (fault : TemplateFault)
  deriving DecidableEq, Repr

namespace TranslateFault

/-- The name under which the cause is reported. -/
def name : TranslateFault → String
  | unreadable .. => "FileReadFailed"
  | invalidJson _ => "JsonParseFailed"
  | invalidTemplate .. => "InvalidTemplate"

/-- The cause in words. -/
def message : TranslateFault → String
  | unreadable path fault => s!"Failed to read template file '{path}': {fault.message}"
  | invalidJson fault => s!"Failed to parse template JSON: {fault.message}"
  | invalidTemplate path fault => s!"Invalid template '{path}': {fault.message}"

/-- The fault with all its parts. -/
def diagnostic (f : TranslateFault) : String :=
  match f with
  | unreadable path fault =>
    Diagnostic.parts f.name
      [("path", Quoted.quote path), ("message", Quoted.quote fault.message)]
  | invalidJson fault => Diagnostic.parts f.name [("message", Quoted.quote fault.message)]
  | invalidTemplate path fault =>
    Diagnostic.parts f.name [("path", Quoted.quote path), ("source", fault.diagnostic)]

end TranslateFault

/-- The queries of a template text that was found at `path`. The file's stem is the id, and the name
too unless another is given. -/
def translateText (path : String) (name : Option String) (s : String) :
    Except TranslateFault PatternQueries :=
  match Template.ofJson s with
  | .error (.json fault) => .error (.invalidJson fault)
  | .error (.invalid fault) => .error (.invalidTemplate path fault)
  | .ok t => .ok (.ofTemplate (fileStem path) (name.getD (fileStem path)) t)

variable {m : Type → Type} [Monad m]

/-- The queries of the template in a file. -/
def translateFile (files : Files m) (path : String) (name : Option String) :
    m (Except TranslateFault PatternQueries) := do
  match ← files.read path with
  | .error fault => return .error (.unreadable path fault)
  | .ok s => return translateText path name s

/-! ## The whole program -/

/-- Why the program ends without a result. -/
inductive RunFault where
  | usage (fault : UsageFault)
  | settings (fault : SettingsFault)
  | catalogue (fault : CatalogueFault)
  | translate (fault : TranslateFault)
  deriving DecidableEq, Repr

namespace RunFault

/-- The name under which the cause is reported. -/
def name : RunFault → String
  | usage _ => "Usage"
  | settings fault => fault.name
  | catalogue fault => fault.name
  | translate fault => fault.name

/-- The cause in words. -/
def message : RunFault → String
  | usage fault => fault.name
  | settings fault => fault.message
  | catalogue fault => fault.message
  | translate fault => fault.message

/-- The fault with all its parts. -/
def diagnostic : RunFault → String
  | usage fault => fault.name
  | settings fault => fault.diagnostic
  | catalogue fault => fault.diagnostic
  | translate fault => fault.diagnostic

end RunFault

/-- Carries out a command on a catalogue. -/
def Command.run (files : Files m) (c : Catalogue) : Command → m (Except RunFault Report)
  | .list => return .ok c.listing
  | .queries ids => return (c.queryReport ids).mapError .catalogue
  | .translate file name => do
    match ← translateFile files file name with
    | .error fault => return .error (.translate fault)
    | .ok pattern => return .ok (queryReport [pattern])

/-- Carries out what the words after the program's name say, and gives the text of the result. -/
def runWords (files : Files m) (words : List String) : m (Except RunFault String) := do
  match ← (Arguments.parse files words).run with
  | .error fault => return .error (.usage fault)
  | .ok arguments =>
    match ← Settings.resolve files arguments.settings with
    | .error fault => return .error (.settings fault)
    | .ok settings =>
      match ← settings.catalogue.load files with
      | .error fault => return .error (.catalogue fault)
      | .ok c =>
        match ← arguments.command.run files c with
        | .error fault => return .error fault
        | .ok report => return .ok (report.render arguments.format)

/-! ## Outcomes -/

/-- What a run leaves behind: its exit code and what it wrote. -/
structure Outcome where
  exit : Nat
  stdout : String := ""
  stderr : String := ""
  deriving DecidableEq, Repr

/-- The name and version of the program. -/
def versionText : String := "antipattern_search 0.1.0"

/-- How the program is used. -/
def helpText : String :=
  "Compile process-model anti-patterns into Cypher queries\n\n" ++
    "Usage: antipattern_search [OPTIONS] <COMMAND>\n\n" ++
    "Commands:\n" ++
    "  queries    Print the compiled queries of catalogue anti-patterns\n" ++
    "  translate  Compile a template JSON file into queries\n" ++
    "  list       List the anti-patterns in the catalogue\n" ++
    "  help       Print this message or the help of the given subcommand(s)\n\n" ++
    "Options:\n" ++
    "      --config <CONFIG>  Path to the configuration file\n" ++
    "  -o, --format <FORMAT>  Output format [default: table] " ++
    "[possible values: table, json, toon]\n" ++
    "  -h, --help             Print help\n" ++
    "  -V, --version          Print version\n"

/-- The outcome of a run. Help and version count as results; other faults of usage exit with 2 and
all other faults with 1. -/
def Outcome.ofResult : Except RunFault String → Outcome
  | .ok text => { exit := 0, stdout := text ++ "\n" }
  | .error (.usage .displayHelp) => { exit := 0, stdout := helpText }
  | .error (.usage .displayVersion) => { exit := 0, stdout := versionText ++ "\n" }
  | .error (.usage .displayHelpOnMissingArgument) => { exit := 2, stderr := helpText }
  | .error (.usage fault) => { exit := 2, stderr := "error: " ++ fault.name ++ "\n" }
  | .error fault => { exit := 1, stderr := "Error: " ++ fault.diagnostic ++ "\n" }

/-- Runs the program. -/
def runProgram (files : Files m) (words : List String) : m Outcome := do
  return .ofResult (← runWords files words)

end FlawQuery.CommandLine
