import StructSync.CommandLine.Options
import StructSync.Text.Blank

/-!
# Arguments

What a command line asks for: one of the four commands with its options, and the options that may
stand before or behind the command. If an option stands at both places the one behind the command
counts.
-/

namespace StructSync

/-- The options that say where the database is. -/
structure DatabaseOptions where
  database : Option String
  pointerSize : Option UInt64
deriving DecidableEq

structure SyncOptions where
  schema : Option String
  database : DatabaseOptions
  only : List String
  yes : Bool
  no : Bool
deriving DecidableEq

structure CheckOptions where
  schema : Option String
  database : DatabaseOptions
  only : List String
deriving DecidableEq

structure ShowOptions where
  database : DatabaseOptions
  name : Option String
deriving DecidableEq

structure DeclareOptions where
  schema : Option String
  database : DatabaseOptions
  name : Option String
deriving DecidableEq

inductive Command where
  | sync (options : SyncOptions)
  | check (options : CheckOptions)
  | display (options : ShowOptions)
  | declare (options : DeclareOptions)
deriving DecidableEq

structure Arguments where
  command : Command
  config : Option String
  logLevel : Option String
  verbosity : Nat
  logFile : Option String
  noColor : Bool
deriving DecidableEq

/-- The first thing that makes no sense in the options. -/
def SyncOptions.fault? (options : SyncOptions) : Option String :=
  if options.only.any Text.isBlankText then some "--only needs a struct name" else none

namespace Arguments

/-! ### Grammars -/

/-- The options that may stand before and behind the command. -/
def globalOptions : List OptionSpec := [
  ⟨"config", some 'c', .path⟩, ⟨"log-level", some 'l', .text⟩, ⟨"verbose", some 'v', .count⟩,
  ⟨"log-file", none, .path⟩, ⟨"no-color", none, .flag⟩, ⟨"help", some 'h', .help⟩]

def databaseOptions : List OptionSpec :=
  [⟨"database", some 'd', .path⟩, ⟨"pointer-size", none, .word⟩]

def schemaOption : OptionSpec := ⟨"schema", some 's', .path⟩

def onlyOption : OptionSpec := ⟨"only", none, .texts⟩

/-- The name of the free word of a command. -/
def freeWord : String := "name"

def syncGrammar : Grammar where
  options := schemaOption :: onlyOption :: ⟨"yes", some 'y', .flag⟩ :: ⟨"no", some 'n', .flag⟩
    :: databaseOptions ++ globalOptions
  free? := none
  commands := []

def checkGrammar : Grammar where
  options := schemaOption :: onlyOption :: databaseOptions ++ globalOptions
  free? := none
  commands := []

def showGrammar : Grammar where
  options := databaseOptions ++ globalOptions
  free? := some freeWord
  commands := []

def declareGrammar : Grammar where
  options := schemaOption :: databaseOptions ++ globalOptions
  free? := some freeWord
  commands := []

/-- The command that shows help on another one. -/
def helpCommand : String := "help"

def commandNames : List String := ["sync", "check", "show", "declare", helpCommand]

def grammar : Grammar where
  options := ⟨"version", some 'V', .version⟩ :: globalOptions
  free? := none
  commands := commandNames

/-- The name and the version of the program. -/
def versionText : String := "idb-typelib 1.0.0\n"

/-- How the program is used. -/
def helpText : String :=
  "Create or validate struct types in a type database from a schema\n\n"
    ++ "Usage: idb-typelib [OPTIONS] <COMMAND>\n\n"
    ++ "Commands:\n"
    ++ "  sync     Create missing structs and repair mismatching ones\n"
    ++ "  check    Report how the database differs from the schema without changing it\n"
    ++ "  show     List the structs stored in the database\n"
    ++ "  declare  Print the C declaration of each schema struct\n"
    ++ "  help     Print this message or the help of the given subcommand(s)\n\n"
    ++ "Options:\n"
    ++ "  -c, --config <CONFIG>        JSON config file; flags given on the command line win\n"
    ++ "  -l, --log-level <LOG_LEVEL>\n"
    ++ "  -v, --verbose...\n"
    ++ "      --log-file <LOG_FILE>\n"
    ++ "      --no-color\n"
    ++ "  -h, --help                   Print help\n"
    ++ "  -V, --version                Print version\n"

/-! ### What was read -/

def databaseOf (r : Reading) : DatabaseOptions where
  database := r.value? "database"
  pointerSize := (r.value? "pointer-size").bind wordOfText?

/-- The command with the options read behind it. -/
def commandOf (name : String) (words : List String) : Except UsageError (Command × Reading) := do
  let settled (g : Grammar) : Except UsageError Reading := do
    let (r, _) ← g.read words .empty
    r.settle
  match name with
  | "sync" =>
    let r ← settled syncGrammar
    if r.has "yes" && r.has "no" then .error .conflict
    else
      let options : SyncOptions := {
        schema := r.value? "schema", database := databaseOf r, only := r.values "only"
        yes := r.has "yes", no := r.has "no" }
      .ok (.sync options, r)
  | "check" =>
    let r ← settled checkGrammar
    .ok (.check ⟨r.value? "schema", databaseOf r, r.values "only"⟩, r)
  | "show" =>
    let r ← settled showGrammar
    .ok (.display ⟨databaseOf r, r.value? freeWord⟩, r)
  | "declare" =>
    let r ← settled declareGrammar
    .ok (.declare ⟨r.value? "schema", databaseOf r, r.value? freeWord⟩, r)
  | _ => .error .unknownCommand

/-- What is answered to a request for help on the command that the words name. -/
def helpOn : List String → UsageError
  | [] => .help
  | [name] => if commandNames.contains name then .help else .unknownCommand
  | _ => .unknownCommand

/-- The number of requests for more detail is kept in a byte. -/
def verbosityLimit : Nat := 255

/-- Reads a command line without the program's name. -/
def parse (words : List String) : Except UsageError Arguments := do
  let (before, next?) ← grammar.read words .empty
  match next? with
  | none =>
    let before ← before.settle
    .error (if before.given.isEmpty then .nothingGiven else .missingCommand)
  | some (name, rest) =>
    if name == helpCommand then .error (helpOn rest)
    else
      let (command, behind) ← commandOf name rest
      let before ← before.settle
      let value? (key : String) : Option String := behind.value? key <|> before.value? key
      let verbose := if behind.has "verbose" then behind else before
      .ok {
        command
        config := value? "config"
        logLevel := value? "log-level"
        verbosity := min (verbose.values "verbose").length verbosityLimit
        logFile := value? "log-file"
        noColor := behind.has "no-color" || before.has "no-color" }

end Arguments

end StructSync
