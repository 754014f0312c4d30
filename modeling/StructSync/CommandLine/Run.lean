import StructSync.CommandLine.Arguments
import StructSync.CommandLine.Logger
import StructSync.Config
import StructSync.Database.Format
import StructSync.Rendering
import StructSync.Sync

/-!
# Running a command line

The four commands: `sync` brings a database in step with a schema, `check` tells how it differs,
`show` lists what it holds, and `declare` writes the structs of a schema as C. A command that fails
leaves the database file as it is.
-/

namespace StructSync

/-- Why a command fails: a message, and after it what lies behind it. -/
abbrev Failure := List String

/-- What a command runs with. -/
structure Setting where
  config : Config
  palette : Palette
  logger : Logger

variable {m : Type → Type} [Monad m] [Machine m]

/-! ### Setting up -/

/-- The palette that a configuration leaves. -/
def Config.palette (config : Config) (environment : Palette) : Palette :=
  if config.color then environment else .plain

/-- The configuration of the file, if one is named, and of the options that stand above it. -/
def Arguments.configure (args : Arguments) : ExceptT Failure m Config := do
  let config ← match args.config with
    | none => pure ({} : Config)
    | some path =>
      let loaded := match ← (Machine.readFile path : m _) with
        | .error fault => Except.error (ConfigError.file fault)
        | .ok text => Config.load path text
      match loaded with
      | .error e => throw ["loading config " ++ path, e.message]
      | .ok config => pure config
  return {
    config with
    logLevel := args.logLevel.getD config.logLevel
    logFile := args.logFile <|> config.logFile
    color := config.color && !args.noColor }

/-- Are colours used in filtered output? A style that forces or forbids them comes first, then the
wishes of the environment, of which an empty one counts for nothing. -/
def filteredPalette : m Palette := do
  let style ← Machine.environment? "RUST_LOG_STYLE"
  let forced := ((← Machine.environment? "CLICOLOR_FORCE").getD "") != ""
  let forbidden := ((← Machine.environment? "NO_COLOR").getD "") != ""
  let isColored := match style with
    | some "always" => true
    | some "never" => false
    | _ => !forbidden && forced
  return if isColored then .colored else .plain

/-- The logger that the options and the configuration ask for. The environment's filter is used
only if neither asks for anything. -/
def openLogger (args : Arguments) (config : Config) (palette : Palette) :
    ExceptT Failure m Logger := do
  let isSilent := args.verbosity = 0 && args.logLevel.isNone && config.logFile.isNone
  let spec? ← Machine.environment? (m := m) "RUST_LOG"
  match spec?.filter fun _ => isSilent with
  | some spec =>
    let (filter, warnings) := LogFilter.parse spec
    warnings.forM fun warning => (Machine.printError (warning ++ "\n") : m Unit)
    return .filtered filter (← (filteredPalette : m Palette))
  | none =>
    let threshold :=
      if args.verbosity = 0 then .ofName config.logLevel else .ofVerbosity args.verbosity
    match config.logFile with
    | none => pure ()
    | some path =>
      match ← (Machine.writeFile path "" : m _) with
      | .ok () => pure ()
      | .error fault => throw ["opening log file", fault.message]
    return .console threshold config.color palette config.logFile

namespace Setting

/-! ### Output -/

/-- Writes a line behind a mark. -/
def say (s : Setting) (codes mark line : String) : m Unit :=
  Machine.print (s.palette.paint codes mark ++ " " ++ line ++ "\n")

def sayInfo (s : Setting) (line : String) : m Unit := s.say "34" "[*]" line

def saySuccess (s : Setting) (line : String) : m Unit := s.say "32" "[+]" line

def sayWarning (s : Setting) (line : String) : m Unit := s.say "33" "[!]" line

/-- Emits the records of a value and gives the value. -/
def emit {α : Type} (s : Setting) (x : Logged α) : m α := do
  s.logger.emitAll x.log
  return x.value

/-! ### Files -/

/-- Leaves a record about the database file. -/
def note (s : Setting) (level : Level) (message : String) : ExceptT Failure m Unit :=
  (s.logger.emit ⟨level, .database, message⟩ : m Unit)

/-- The setting with the options of the database above its configuration. -/
def withDatabase (s : Setting) (options : DatabaseOptions) : Except Failure Setting :=
  let config := {
    s.config with
    database := options.database.getD s.config.database
    pointerSize := options.pointerSize.getD s.config.pointerSize }
  match config.fault? with
  | some fault => .error [fault.message]
  | none => .ok { s with config }

/-- The database of the file, or an empty one if there is no file. -/
def loadDatabase (s : Setting) : ExceptT Failure m Database := do
  let path := s.config.database
  let fail (e : HostError) : ExceptT Failure m Database :=
    throw (("loading database " ++ path) :: e.chain)
  if ← (Machine.fileExists path : m Bool) then
    match ← (Machine.readFile path : m _) with
    | .error fault => fail (.file fault)
    | .ok text =>
      match Database.load text with
      | .error e => fail e
      | .ok db =>
        s.note .debug ("Loaded " ++ toString db.structs.size ++ " structures from " ++ path)
        return db
  else
    s.note .info ("Database " ++ path ++ " does not exist yet, starting empty")
    return .empty s.config.pointerSize

def saveDatabase (s : Setting) (db : Database) : ExceptT Failure m Unit := do
  let path := s.config.database
  match ← (Machine.writeFile path (db.json.text .pretty) : m _) with
  | .error fault => throw (("saving database " ++ path) :: (HostError.file fault).chain)
  | .ok () =>
    s.note .debug ("Saved " ++ toString db.structs.size ++ " structures to " ++ path)

/-- The schema of the path given, or else of the configuration's. -/
def loadSchema (s : Setting) (given? : Option String) : ExceptT Failure m Schema := do
  match given? <|> s.config.schema with
  | none => throw ["no schema given (use --schema or set 'schema' in the config)"]
  | some path =>
    let loaded := match ← (Machine.readFile path : m _) with
      | .error fault => Except.error (SchemaError.file path fault)
      | .ok text => Schema.load text
    match loaded with
    | .ok schema => return schema
    | .error e => throw (SyncError.schema e).chain

/-- The structs of those names. -/
def select (schema : Schema) (names : List String) : Except Failure (List StructSchema) :=
  (schema.select names).mapError fun name => ["schema has no struct named '" ++ name ++ "'"]

/-! ### Commands -/

/-- Puts the question that a policy leaves open. -/
def confirmer (s : Setting) : Confirmer m :=
  match s.config.overwrite with
  | .ask => Machine.ask
  | .always => Confirmer.fixed .yes
  | .never => Confirmer.fixed .no

/-- The policy that the options ask for, above that of the configuration. -/
def overwritePolicy (options : SyncOptions) (config : Config) : OverwritePolicy :=
  if options.yes then .always else if options.no then .never else config.overwrite

/-- Tells how a struct and the database came together. -/
def tellOutcome (s : Setting) (entry : StructSchema)
    (built : Logged (Except SyncError (Descriptor × Outcome))) : m Unit := do
  match ← s.emit built with
  | .ok (d, outcome) =>
    let line := d.name ++ " (" ++ toString d.size.toNat ++ " bytes, "
      ++ toString d.layout.members.length ++ " members): " ++ outcome.text
    if outcome.isMutation then s.saySuccess line else s.sayInfo line
  | .error e =>
    let line := entry.name ++ ": " ++ e.message
    if e.isUserAbort then s.sayWarning line
    else Machine.printError (s.palette.paint "31" "[!]" ++ " " ++ line ++ "\n")
    s.sayWarning (s.config.database ++ " left unchanged")

def sync (s : Setting) (options : SyncOptions) : ExceptT Failure m Unit := do
  match options.fault? with
  | some fault => throw [fault]
  | none => pure ()
  let s ← s.withDatabase options.database
  let s := { s with config.overwrite := overwritePolicy options s.config }
  let schema ← s.loadSchema options.schema
  let selected ← select schema options.only
  let db ← s.loadDatabase
  let opening := "Syncing " ++ toString selected.length ++ " struct(s) into " ++ s.config.database
  (s.sayInfo opening : m Unit)
  let (result, db) ← (syncAll s.confirmer s.tellOutcome selected db : m _)
  match result with
  | .error e => throw e.chain
  | .ok () => s.saveDatabase db

def check (s : Setting) (options : CheckOptions) : ExceptT Failure m Unit := do
  let s ← s.withDatabase options.database
  let schema ← s.loadSchema options.schema
  let selected ← select schema options.only
  let db ← s.loadDatabase
  let (findings, result) ← (s.emit (checkAll db selected) : m _)
  findings.forM fun finding =>
    (if finding.isDrift then s.sayWarning finding.text else s.saySuccess finding.text : m Unit)
  match result with
  | .error e => throw e.chain
  | .ok () =>
    let drifted := findings.countP Finding.isDrift
    if drifted > 0 then
      throw [toString drifted ++ " struct(s) do not match the schema"]

/-- The lines that show a stored struct. -/
def structText (s : Setting) (stored : StoredStruct) : String :=
  let line (m : StoredMember) : String :=
    "  0x" ++ Text.padLeft 4 '0' (Text.hexUpper m.offset.toNat) ++ " "
      ++ Text.padRight 24 m.name ++ " " ++ Text.padLeft 4 ' ' (toString m.size.toNat) ++ "  "
      ++ s.palette.paint "2" (m.typeName.getD "?") ++ "\n"
  s.palette.paint "1;36" stored.name ++ " " ++ stored.id.text ++ " ("
    ++ toString stored.size.toNat ++ " bytes)\n" ++ String.join (stored.members.map line)

def display (s : Setting) (options : ShowOptions) : ExceptT Failure m Unit := do
  let s ← s.withDatabase options.database
  let db ← s.loadDatabase
  let shown := db.structs.values.filter fun stored => options.name.all (· == stored.name)
  shown.forM fun stored => (Machine.print (s.structText stored) : m Unit)
  match options.name with
  | some name =>
    if shown.isEmpty then
      throw ["no struct named '" ++ name ++ "' in " ++ s.config.database]
  | none => pure ()

def declare (s : Setting) (options : DeclareOptions) : ExceptT Failure m Unit := do
  let s ← s.withDatabase options.database
  let schema ← s.loadSchema options.schema
  let db ← s.loadDatabase
  let (descriptors, result) ← (s.emit (layOutAll schema.structs db) : m _)
  (descriptors.filter fun d => options.name.all (· == d.name)).forM fun d =>
    (Machine.print (d.declaration ++ "\n") : m Unit)
  match result with
  | .error e => throw e.chain
  | .ok () => pure ()

def run (s : Setting) : Command → ExceptT Failure m Unit
  | .sync options => s.sync options
  | .check options => s.check options
  | .display options => s.display options
  | .declare options => s.declare options

end Setting

/-! ### The whole line -/

/-- The exit code of a command that worked. -/
def successCode : UInt32 := 0

/-- The exit code of a command that failed. -/
def failureCode : UInt32 := 1

/-- The exit code of a command line that makes no sense. -/
def usageCode : UInt32 := 2

/-- Writes why a command failed. -/
def tellFailure (palette : Palette) (failure : Failure) : m UInt32 := do
  Machine.printError (palette.paint "31" "[!]" ++ " " ++ ": ".intercalate failure ++ "\n")
  return failureCode

/-- Runs a command and gives the exit code. -/
def Arguments.run (args : Arguments) : m UInt32 := do
  let environment ← Palette.ofEnvironment
  match ← args.configure.run with
  | .error failure => tellFailure environment failure
  | .ok config =>
    let palette := config.palette environment
    match ← (openLogger args config palette).run with
    | .error failure => tellFailure palette failure
    | .ok logger =>
      let setting : Setting := { config, palette, logger }
      let result ← (setting.run args.command).run
      let time ← Machine.elapsed
      logger.emit ⟨.debug, .commandLine, "Finished in " ++ time⟩
      match result with
      | .ok () => return successCode
      | .error failure => tellFailure palette failure

/-- Runs a command line without the program's name and gives the exit code. -/
def runCommandLine (words : List String) : m UInt32 := do
  match Arguments.parse words with
  | .ok args => args.run
  | .error .help =>
    Machine.print Arguments.helpText
    return successCode
  | .error .version =>
    Machine.print Arguments.versionText
    return successCode
  | .error e =>
    Machine.printError ("error: " ++ e.message ++ "\n\n" ++ Arguments.helpText)
    return usageCode

end StructSync
