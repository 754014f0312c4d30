import StructSync.CommandLine.Palette
import StructSync.Log.Filter
import StructSync.Text.ControlSequence
import StructSync.Text.Numeral

/-!
# Loggers

Where log records go. A console logger shows records up to a level and may keep them, at least those
up to debug, in a file; a filtered logger shows what a filter lets through.
-/

namespace StructSync

inductive Logger where
  /-- `named` says whether the names of levels are those meant for people to read. -/
  | console (threshold : Threshold) (named : Bool) (palette : Palette) (file : Option String)
  | filtered (filter : LogFilter) (palette : Palette)
deriving DecidableEq

namespace Level

/-- The name of the level for people to read, in its colour. -/
def label (p : Palette) : Level → String
  | error => p.paint "1;31" "ERROR"
  | warn => p.paint "1;33" "WARNING"
  | info => p.paint "1;32" "INFO"
  | debug => p.paint "1;34" "DEBUG"
  | trace => p.paint "1;35" "TRACE"

/-- The codes of the level's colour in filtered output. -/
def filteredStart : Level → String
  | error => ansi "1" ++ ansi "31"
  | warn => ansi "33"
  | info => ansi "32"
  | debug => ansi "34"
  | trace => ansi "36"

end Level

/-- The line of the record as filtered output shows it. Further lines of a message are indented;
without colours the line keeps no control sequences of the message either, and one without an end
swallows the end of the line. -/
def LogRecord.filteredText (p : Palette) (r : LogRecord) : String :=
  let styled (start text : String) : String :=
    match p with
    | .plain => text
    | .colored => start ++ text ++ ansiReset
  let dim := styled (ansi "90")
  let text := dim "[" ++ styled r.level.filteredStart (Text.padRight 5 r.level.name) ++ " "
    ++ r.origin.path ++ dim "]" ++ " " ++ "\n    ".intercalate (r.message.splitOn "\n")
    ++ "\n"
  match p with
  | .plain => Text.withoutControls text
  | .colored => text

namespace Logger

variable {m : Type → Type} [Monad m] [Machine m]

/-- Shows and keeps a record. -/
def emit (logger : Logger) (r : LogRecord) : m Unit :=
  match logger with
  | console threshold named palette file => do
    if threshold.allows r.level then
      let level := if named then r.level.label palette else r.level.name
      Machine.printError (r.lineAs level ++ "\n")
    match file with
    | some path =>
      if (Threshold.upTo .debug).allows r.level then
        let time ← Machine.timestamp
        Machine.appendFile path (time ++ " " ++ r.line ++ "\n")
    | none => pure ()
  | filtered filter palette => do
    if filter.allows r then Machine.printError (r.filteredText palette)

/-- Shows and keeps records in order. -/
def emitAll (logger : Logger) (log : List LogRecord) : m Unit := log.forM logger.emit

end Logger

end StructSync
