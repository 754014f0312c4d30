import StructSync.Confirmation
import StructSync.Host

/-!
# Machines

What the command line needs of the machine it runs on: files, two streams to write to, the
environment, somebody to ask and a clock.
-/

namespace StructSync

/-- A machine, as far as the command line uses it. -/
class Machine (m : Type → Type) where
  readFile : String → m (Except FileFault String)
  /-- Puts the text in place of all that the file holds. -/
  writeFile : String → String → m (Except FileFault Unit)
  /-- Puts the text behind all that the file holds. -/
  appendFile : String → String → m Unit
  fileExists : String → m Bool
  /-- A variable of the environment. -/
  environment? : String → m (Option String)
  outputIsTerminal : m Bool
  print : String → m Unit
  printError : String → m Unit
  ask : Confirmer m
  /-- The text of the current time. -/
  timestamp : m String
  /-- The text of the time that has passed since the program was started. -/
  elapsed : m String

end StructSync
