import StructSync.Logged

/-!
# Confirmation

Before a stored struct is replaced its owner is asked. A `Confirmer` puts the question: `fixed`
always gives one answer, `unattended` finds nobody to ask, `atTerminal` asks only where there is a
terminal, and a `Script` gives prepared answers in turn and keeps the questions.
-/

namespace StructSync

/-- An answer to a question whether to go on. -/
inductive Decision where
  | yes | no | cancel
deriving DecidableEq

def Decision.name : Decision → String
  | yes => "yes"
  | no => "no"
  | cancel => "cancel"

/-- Puts a question and brings back the answer. -/
abbrev Confirmer (m : Type → Type) := String → m (Logged Decision)

namespace Confirmer

variable {m : Type → Type} [Monad m]

/-- Gives the same answer to every question. -/
def fixed (decision : Decision) : Confirmer m := fun prompt => pure do
  Logged.note .info .confirmation (prompt ++ " -> " ++ decision.name)
  return decision

/-- Cancels, as nobody is there to answer. -/
def unattended : Confirmer m := fun prompt => pure do
  Logged.note .warn .confirmation ("stdin is not a terminal, cancelling: " ++ prompt)
  return .cancel

/-- Asks those who sit at a terminal, if there is one. -/
def atTerminal (isTerminal : m Bool) (attended : Confirmer m) : Confirmer m := fun prompt => do
  if ← isTerminal then attended prompt else unattended prompt

end Confirmer

/-- Prepared answers, and the questions asked so far. -/
structure Script where
  answers : List Decision
  prompts : List String
deriving DecidableEq

namespace Script

def ofAnswers (answers : List Decision) : Script := ⟨answers, []⟩

/-- The next answer, which is to cancel when there is none left. -/
def next (prompt : String) (s : Script) : Decision × Script :=
  match s.answers with
  | [] => (.cancel, { s with prompts := s.prompts ++ [prompt] })
  | answer :: rest => (answer, ⟨rest, s.prompts ++ [prompt]⟩)

def confirmer : Confirmer (StateM Script) := fun prompt => do
  let decision ← modifyGet (next prompt)
  return pure decision

end Script

end StructSync
