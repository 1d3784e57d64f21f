/-
# FlawQuery.CommandLine.Arguments -- the words after the program's name

There are two levels of options: before the command, and after it. The options for the settings file
and the output format are known on both, and the later level wins. A value may be joined to its
option or follow as the next word. A value that follows is looked at only when the next option
begins or its level ends, so a later complaint of form comes before an earlier one about such a
value.
-/

import FlawQuery.Files.Basic
import FlawQuery.Report.Basic

namespace FlawQuery.CommandLine

/-- Why the words do not say what to do, or say to do nothing. -/
inductive UsageFault where
  | argumentConflict
  | invalidSubcommand
  | invalidValue
  | missingRequiredArgument
  | missingSubcommand
  | tooManyValues
  | unknownArgument
  | valueValidation
  | displayHelp
  | displayHelpOnMissingArgument
  | displayVersion
  deriving DecidableEq, Repr

/-- The name under which the cause is reported. -/
def UsageFault.name : UsageFault → String
  | argumentConflict => "ArgumentConflict"
  | invalidSubcommand => "InvalidSubcommand"
  | invalidValue => "InvalidValue"
  | missingRequiredArgument => "MissingRequiredArgument"
  | missingSubcommand => "MissingSubcommand"
  | tooManyValues => "TooManyValues"
  | unknownArgument => "UnknownArgument"
  | valueValidation => "ValueValidation"
  | displayHelp => "DisplayHelp"
  | displayHelpOnMissingArgument => "DisplayHelpOnMissingArgumentOrSubcommand"
  | displayVersion => "DisplayVersion"

/-- The commands with their own arguments. -/
inductive Command where
  | list
  | queries (ids : List String)
  | translate (file : String) (name : Option String)
  deriving DecidableEq, Repr

/-- What the words say. -/
structure Arguments where
  settings : Option String
  format : OutputFormat
  command : Command
  deriving DecidableEq, Repr

/-! ## Options and levels -/

/-- The options that take a value. -/
inductive OptionKey where
  | settings
  | format
  | pattern
  | file
  | name
  deriving DecidableEq, Repr

namespace OptionKey

/-- The name after two dashes. -/
def long : OptionKey → String
  | settings => "config"
  | format => "format"
  | pattern => "pattern"
  | file => "file"
  | name => "name"

/-- The letter after one dash. -/
def short? : OptionKey → Option Char
  | settings => none
  | format => some 'o'
  | pattern => some 'p'
  | file => some 'f'
  | name => some 'n'

end OptionKey

/-- The levels of the command line. -/
inductive Level where
  | top
  | list
  | queries
  | translate
  deriving DecidableEq, Repr

namespace Level

/-- The options known on a level. -/
def options : Level → List OptionKey
  | top | list => [.settings, .format]
  | queries => [.settings, .format, .pattern]
  | translate => [.settings, .format, .file, .name]

/-- The level of the command with the given name. -/
def ofCommand? (s : String) : Option Level :=
  if s = "list" then some list
  else if s = "queries" then some queries
  else if s = "translate" then some translate
  else none

/-- The complaint about a word in a place where no word is taken. -/
def strayWord : Level → UsageFault
  | top => .invalidSubcommand
  | _ => .unknownArgument

end Level

/-- The options given on one level so far. -/
structure Given where
  settings : Option String := none
  format : Option OutputFormat := none
  patterns : List String := []
  file : Option String := none
  name : Option String := none
  deriving DecidableEq, Repr

/-- An option whose value follows as the next word, with that word once it is known. -/
structure Pending where
  key : OptionKey
  value : Option String := none
  deriving DecidableEq, Repr

/-- The value is still to come. -/
def Pending.awaits (p : Option Pending) : Bool :=
  match p with
  | some ⟨_, none⟩ => true
  | _ => false

/-! ## Taking values -/

/-- The answer of a check: the new options, or a complaint. -/
abbrev Checked (m : Type → Type) := ExceptT UsageFault m

variable {m : Type → Type} [Monad m]

namespace Given

/-- Takes the value of an option. Only patterns can be given more than once on a level; a settings
path must not be empty, a format must be known, and a template file must be there. -/
def take (files : Files m) (g : Given) (key : OptionKey) (value : String) : Checked m Given := do
  match key with
  | .settings =>
    if g.settings.isSome then throw .argumentConflict
    if value = "" then throw .invalidValue
    return { g with settings := some value }
  | .format =>
    if g.format.isSome then throw .argumentConflict
    match OutputFormat.ofName? value with
    | some format => return { g with format := some format }
    | none => throw .invalidValue
  | .pattern => return { g with patterns := g.patterns ++ [value] }
  | .file =>
    if g.file.isSome then throw .argumentConflict
    if ← ExceptT.lift (files.present value) then return { g with file := some value }
    else throw .valueValidation
  | .name =>
    if g.name.isSome then throw .argumentConflict
    return { g with name := some value }

/-- Takes the value of the option before, if it has one to come. -/
def settle (files : Files m) (g : Given) : Option Pending → Checked m Given
  | none => return g
  | some ⟨key, some value⟩ => g.take files key value
  | some ⟨_, none⟩ => throw .invalidValue

end Given

/-! ## One level -/

/-- A word that is an option, with a joined value if it has one. -/
inductive OptionWord where
  | known (key : OptionKey) (value : Option String)
  | help
  | version
  /-- An option that takes no value was given one. -/
  | overfull
  | unknown
  deriving DecidableEq, Repr

/-- The option of a word after its two dashes. -/
def longOption (level : Level) (word : List Char) : OptionWord :=
  let name := String.ofList (word.takeWhile (· ≠ '='))
  let value := match word.dropWhile (· ≠ '=') with
    | _ :: v => some (String.ofList v)
    | [] => none
  match level.options.find? (·.long = name) with
  | some key => .known key value
  | none =>
    if name = "help" then if value.isSome then .overfull else .help
    else if name = "version" ∧ level = .top then if value.isSome then .overfull else .version
    else .unknown

/-- The option of a word after its one dash. The value may follow its letter at once, or after an
equals sign. -/
def shortOption (level : Level) (letter : Char) (rest : List Char) : OptionWord :=
  match level.options.find? (·.short? = some letter) with
  | some key =>
    match rest with
    | [] => .known key none
    | '=' :: v => .known key (some (String.ofList v))
    | v => .known key (some (String.ofList v))
  | none =>
    if letter = 'h' then .help
    else if letter = 'V' ∧ level = .top then .version
    else .unknown

/-- What a word is by its first characters. -/
inductive Word where
  /-- Two dashes alone: no options follow. -/
  | separator
  | option (o : OptionWord)
  | plain

/-- What a word is on a level. A single dash is a plain word. -/
def Word.of (level : Level) (s : String) : Word :=
  match s.toList with
  | ['-', '-'] => .separator
  | '-' :: '-' :: rest => .option (longOption level rest)
  | '-' :: letter :: rest => .option (shortOption level letter rest)
  | _ => .plain

/-- The words after `help` name a command at most. -/
def helpFault : List String → UsageFault
  | [] => .displayHelp
  | [s] => if s = "help" ∨ (Level.ofCommand? s).isSome then .displayHelp else .invalidSubcommand
  | _ => .invalidSubcommand

/-- The result of a level: its options, the value still to be taken, and on the top level the
command with the words after it. -/
structure Scanned where
  given : Given
  pending : Option Pending := none
  command : Option (Level × List String) := none

/-- Goes through the words after two dashes alone: none is taken. -/
def scanTrailing (level : Level) (s : Scanned) : List String → Checked m Scanned
  | [] => return s
  | word :: _ =>
    if level = .top ∧ (word = "help" ∨ (Level.ofCommand? word).isSome) then throw .unknownArgument
    else throw level.strayWord

/-- Goes through the words of a level. -/
def scan (files : Files m) (level : Level) :
    List String → Given → Option Pending → Checked m Scanned
  | [], g, pending => return { given := g, pending }
  | word :: rest, g, pending => do
    let free := level = .top ∧ Pending.awaits pending = false
    if free ∧ word = "help" then throw (helpFault rest)
    match (if free then Level.ofCommand? word else none) with
    | some command => return { given := g, pending, command := some (command, rest) }
    | none =>
      match Word.of level word with
      | .separator => scanTrailing level { given := g, pending } rest
      | .option (.known key (some value)) => do
        let g ← g.settle files pending
        let g ← g.take files key value
        scan files level rest g none
      | .option (.known key none) => do
        let g ← g.settle files pending
        scan files level rest g (some { key })
      | .option .help => do
        let _ ← g.settle files pending
        throw .displayHelp
      | .option .version => do
        let _ ← g.settle files pending
        throw .displayVersion
      | .option .overfull => throw .tooManyValues
      | .option .unknown => throw .unknownArgument
      | .plain =>
        match pending with
        | some ⟨key, none⟩ => scan files level rest g (some { key, value := some word })
        | _ => throw level.strayWord

/-! ## All words -/

/-- The command of a level from its options. -/
def commandOf (level : Level) (g : Given) : Except UsageFault Command :=
  match level with
  | .top => .error .missingSubcommand
  | .list => .ok .list
  | .queries => .ok (.queries g.patterns)
  | .translate =>
    match g.file with
    | some file => .ok (.translate file g.name)
    | none => .error .missingRequiredArgument

/-- What the words say. The level of the command is settled before the top level. -/
def Arguments.parse (files : Files m) (words : List String) : Checked m Arguments := do
  let top ← scan files .top words {} none
  match top.command with
  | none => do
    let g ← top.given.settle files top.pending
    if g = {} then throw .displayHelpOnMissingArgument else throw .missingSubcommand
  | some (level, rest) => do
    let inner ← scan files level rest {} none
    let own ← inner.given.settle files inner.pending
    let command ← ExceptT.mk (pure (commandOf level own))
    let outer ← top.given.settle files top.pending
    return {
      settings := own.settings.or outer.settings
      format := (own.format.or outer.format).getD .table
      command }

end FlawQuery.CommandLine
