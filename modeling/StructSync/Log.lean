/-!
# Log records

What the library reports while it works: records with a level, the part they come from and a
message. Which of them are shown, and how, is decided by whoever runs the work.
-/

namespace StructSync

/-- How important a record is. -/
inductive Level where
  | error | warn | info | debug | trace
deriving DecidableEq

namespace Level

/-- Less important levels rank higher. -/
def rank : Level → Nat
  | error => 1
  | warn => 2
  | info => 3
  | debug => 4
  | trace => 5

def name : Level → String
  | error => "ERROR"
  | warn => "WARN"
  | info => "INFO"
  | debug => "DEBUG"
  | trace => "TRACE"

end Level

/-- The least important level that is let through, or nothing at all. -/
inductive Threshold where
  | off
  | upTo (level : Level)
deriving DecidableEq

namespace Threshold

def rank : Threshold → Nat
  | off => 0
  | upTo level => level.rank

/-- Is a record of that level let through? -/
def allows (t : Threshold) (level : Level) : Bool := level.rank ≤ t.rank

def name : Threshold → String
  | off => "OFF"
  | upTo level => level.name

/-- The threshold a name stands for, in any mixture of cases; `info` for an unknown name. -/
def ofName (s : String) : Threshold :=
  match s.toLower with
  | "error" => upTo .error
  | "warn" | "warning" => upTo .warn
  | "debug" => upTo .debug
  | "trace" => upTo .trace
  | "off" => off
  | _ => upTo .info

/-- The threshold for a number of requests for more detail. -/
def ofVerbosity : Nat → Threshold
  | 0 => upTo .info
  | 1 => upTo .debug
  | _ => upTo .trace

end Threshold

/-- The part of the program a record comes from. -/
inductive Origin where
  | database | confirmation | ctype | member | descriptor | report | registry | commandLine
deriving DecidableEq

/-- The path under which records of that part are shown. -/
def Origin.path : Origin → String
  | database => "idb_typelib::host::memory"
  | confirmation => "idb_typelib::host::prompt"
  | ctype => "idb_typelib::typelib::ctype"
  | member => "idb_typelib::typelib::member"
  | descriptor => "idb_typelib::typelib::base_struct"
  | report => "idb_typelib::typelib::validation"
  | registry => "idb_typelib::typelib::registry"
  | commandLine => "idb_typelib::ui::cli::handler"

structure LogRecord where
  level : Level
  origin : Origin
  message : String
deriving DecidableEq

/-- Level, path and message on one line, with the level under a given name. -/
def LogRecord.lineAs (level : String) (r : LogRecord) : String :=
  "[" ++ level ++ ":" ++ r.origin.path ++ "] " ++ r.message

/-- Level, path and message on one line. -/
def LogRecord.line (r : LogRecord) : String := r.lineAs r.level.name

end StructSync
