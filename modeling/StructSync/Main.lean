import Std.Time.DateTime.Timestamp
import StructSync.CommandLine.Run
import StructSync.Confirmation.Dialogue
import StructSync.Duration

/-!
# The program

The machine that the program runs on, and its entry. Everything is decided elsewhere; here files
are read and written, and streams are used.
-/

namespace StructSync

/-- What the operating system says. -/
def FileFault.ofError : IO.Error → FileFault
  | .noFileOrDirectory .. => .notFound
  | .inappropriateType _ 20 _ => .notDirectory
  | .inappropriateType _ 21 _ => .isDirectory
  | e => .other (toString e)

/-- Does the file work, and tells what the operating system says if it cannot be done. -/
def attempt {α : Type} (work : IO α) : IO (Except FileFault α) := do
  match ← work.toBaseIO with
  | .ok a => return .ok a
  | .error e => return .error (.ofError e)

def readText (path : String) : IO (Except FileFault String) := do
  match ← attempt (IO.FS.readBinFile path) with
  | .error fault => return .error fault
  | .ok bytes =>
    match String.fromUTF8? bytes with
    | some text => return .ok text
    | none => return .error .notText

def appendText (path text : String) : IO Unit := do
  let handle ← IO.FS.Handle.mk path .append
  handle.putStr text

/-- Writes to a stream at once. -/
def write (stream : IO IO.FS.Stream) (text : String) : IO Unit := do
  let stream ← stream
  stream.putStr text
  stream.flush

/-- Asks whoever sits at the terminal until a line decides or the input ends. -/
partial def askTerminal (prompt : String) : IO (Logged Decision) := do
  write IO.getStdout (Dialogue.question prompt)
  match ← (← IO.getStdin).getLine.toBaseIO with
  | .error _ => return Dialogue.unreadable
  | .ok "" => return pure .cancel
  | .ok line =>
    match LineAnswer.ofText line with
    | .clear decision => return pure decision
    | .unreadable => return Dialogue.unreadable
    | .unclear =>
      write IO.getStdout Dialogue.reminder
      askTerminal prompt

/-- Asks if somebody sits at a terminal. -/
def ask : Confirmer IO := Confirmer.atTerminal (do (← IO.getStdin).isTty) askTerminal

/-- Seconds since the epoch with three places. -/
def currentTime : IO String := do
  let millis := (← Std.Time.Timestamp.now).toMillisecondsSinceUnixEpoch.val.toNat
  return Text.decimal (millis / 1000) ++ "." ++ Text.padLeft 3 '0' (Text.decimal (millis % 1000))

/-- The machine of a program that was started at a moment in nanoseconds. -/
abbrev Program := ReaderT Nat IO

instance : Machine Program where
  readFile path := readText path
  writeFile path text := attempt (IO.FS.writeFile path text)
  appendFile path text := do let _ ← attempt (appendText path text)
  fileExists path := do return (← attempt (IO.FS.realPath path)).isOk
  environment? name := IO.getEnv name
  outputIsTerminal := do (← IO.getStdout).isTty
  print text := write IO.getStdout text
  printError text := write IO.getStderr text
  ask prompt := ask prompt
  timestamp := currentTime
  elapsed := do
    let start ← read
    return Duration.text ⟨(← IO.monoNanosNow) - start⟩

end StructSync

def main (args : List String) : IO UInt32 := do
  let start ← IO.monoNanosNow
  (StructSync.runCommandLine args : StructSync.Program UInt32).run start
