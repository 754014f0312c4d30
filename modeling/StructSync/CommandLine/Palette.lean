import StructSync.CommandLine.Machine

/-!
# Colours

Whether output is coloured, and how it is.
-/

namespace StructSync

/-- Whether output is coloured. -/
inductive Palette where
  | plain
  | colored
deriving DecidableEq

/-- Selects the look of the text that follows. -/
def ansi (codes : String) : String := "\x1b[" ++ codes ++ "m"

/-- Ends all colours. -/
def ansiReset : String := ansi "0"

namespace Palette

/-- The text in the colours; a reset inside the text does not end them. -/
def paint (p : Palette) (codes text : String) : String :=
  match p with
  | plain => text
  | colored =>
    ansi codes ++ (ansiReset ++ ansi codes).intercalate (text.splitOn ansiReset) ++ ansiReset

variable {m : Type → Type} [Monad m] [Machine m]

/-- Is a switch of the environment on? -/
def switch? (name : String) : m (Option Bool) := do
  return (← Machine.environment? name).map (· != "0")

/-- Colours are forced on or forbidden by the environment, or else used on a terminal. -/
def ofEnvironment : m Palette := do
  let forced ← switch? "CLICOLOR_FORCE"
  let forbidden ← switch? "NO_COLOR"
  let wanted ← switch? "CLICOLOR"
  let isTerminal ← Machine.outputIsTerminal
  let isColored :=
    if forced == some true then true
    else if forbidden.isSome then false
    else wanted.getD true && isTerminal
  return if isColored then colored else plain

end Palette

end StructSync
