import StructSync.Host
import StructSync.Json.Fields

/-!
# Configuration

Where the database and the schema are, and how the command line works on them. A configuration is
read from JSON; what it leaves out has a default.
-/

namespace StructSync

open Json (Decoder Shape Slot)

/-- What happens to a stored struct that is not as declared. -/
inductive OverwritePolicy where
  | ask | always | never
deriving DecidableEq

def OverwritePolicy.name : OverwritePolicy → String
  | ask => "ask"
  | always => "always"
  | never => "never"

/-- The policies under their names. -/
def OverwritePolicy.named : List (String × OverwritePolicy) :=
  [ask, always, never].map fun policy => (policy.name, policy)

structure Config where
  database : String := "types.json"
  schema : Option String := none
  pointerSize : UInt64 := 8
  overwrite : OverwritePolicy := .ask
  logLevel : String := "info"
  logFile : Option String := none
  color : Bool := true
deriving DecidableEq

/-- Why a configuration makes no sense. -/
inductive ConfigFault where
  | pointerSize (found : UInt64)
  | noDatabase
deriving DecidableEq

def ConfigFault.message : ConfigFault → String
  | pointerSize found => "pointer_size must be 4 or 8, got " ++ toString found.toNat
  | noDatabase => "database path must not be empty"

/-- Why a configuration cannot be used. -/
inductive ConfigError where
  | file (fault : FileFault)
  | format (fault : Json.Error)
  | invalid (path : String) (fault : ConfigFault)
deriving DecidableEq

def ConfigError.message : ConfigError → String
  | file fault => fault.message
  | format fault => fault.summary
  | invalid path fault => path ++ ": " ++ fault.message

/-- The parts of a configuration read so far. -/
structure ConfigParts where
  database : Option String
  schema : Option (Option String)
  pointerSize : Option UInt64
  overwrite : Option OverwritePolicy
  logLevel : Option String
  logFile : Option (Option String)
  color : Option Bool

namespace Config

/-- A path in a configuration. -/
def path : Decoder String := .string "path string"

def shape : Shape ConfigParts Config where
  name := "struct Config"
  slots := [
    Slot.field "database" (·.database) ({ · with database := some · }) path,
    Slot.field "schema" (·.schema) ({ · with schema := some · }) path.optional,
    Slot.field "pointer_size" (·.pointerSize) ({ · with pointerSize := some · }) Decoder.word,
    Slot.field "overwrite" (·.overwrite) ({ · with overwrite := some · })
      (Decoder.choice OverwritePolicy.named),
    Slot.field "log_level" (·.logLevel) ({ · with logLevel := some · }) Decoder.text,
    Slot.field "log_file" (·.logFile) ({ · with logFile := some · }) path.optional,
    Slot.field "color" (·.color) ({ · with color := some · }) Decoder.boolean
  ].map Slot.trailing
  isStrict := false
  start := ⟨none, none, none, none, none, none, none⟩
  finish parts :=
    let default : Config := {}
    .ok {
      database := parts.database.getD default.database
      schema := parts.schema.getD default.schema
      pointerSize := parts.pointerSize.getD default.pointerSize
      overwrite := parts.overwrite.getD default.overwrite
      logLevel := parts.logLevel.getD default.logLevel
      logFile := parts.logFile.getD default.logFile
      color := parts.color.getD default.color }

/-- The first thing that makes no sense. -/
def fault? (config : Config) : Option ConfigFault :=
  if config.pointerSize ≠ 4 ∧ config.pointerSize ≠ 8 then some (.pointerSize config.pointerSize)
  else if config.database.isEmpty then some .noDatabase
  else none

/-- The configuration that the text holds, whether it makes sense or not. -/
def parse (text : String) : Except Json.Error Config := Json.decode shape.decoder text

/-- The configuration that the text of a file holds. -/
def load (path text : String) : Except ConfigError Config :=
  match parse text with
  | .error e => .error (.format e)
  | .ok config =>
    match config.fault? with
    | some fault => .error (.invalid path fault)
    | none => .ok config

end Config

end StructSync
