import StructSync.Confirmation
import StructSync.Text.Blank

/-!
# Dialogues

A question is answered by a line of text: yes or no in any case of letters, and an empty line
means no. The question is repeated after a line that is neither. A dialogue holds the bytes that
are still to be read and all that was written.
-/

namespace StructSync

/-- What a line says. -/
inductive LineAnswer where
  | clear (decision : Decision)
  | unclear
  /-- The line is no text. -/
  | unreadable
deriving DecidableEq

/-- What a line of text says. -/
def LineAnswer.ofText (line : String) : LineAnswer :=
  match String.ofList ((Text.trim line.toList).map Char.toLower) with
  | "y" | "yes" => clear .yes
  | "n" | "no" | "" => clear .no
  | _ => unclear

/-- What a line of bytes says. -/
def LineAnswer.ofBytes (line : List UInt8) : LineAnswer :=
  match String.fromUTF8? ⟨line.toArray⟩ with
  | some text => ofText text
  | none => unreadable

/-- The first line with its line feed, and what follows it. -/
def splitLine : List UInt8 → List UInt8 × List UInt8
  | [] => ([], [])
  | byte :: rest =>
    if byte = 10 then ([byte], rest)
    else
      let (line, rest) := splitLine rest
      (byte :: line, rest)

theorem splitLine_append (bytes : List UInt8) :
    (splitLine bytes).1 ++ (splitLine bytes).2 = bytes := by
  fun_induction splitLine bytes with
  | case1 => rfl
  | case2 => simp
  | case3 _ _ _ _ _ h ih => simp_all

theorem length_splitLine_lt (byte : UInt8) (bytes : List UInt8) :
    (splitLine (byte :: bytes)).2.length < (byte :: bytes).length := by
  have h := congrArg List.length (splitLine_append bytes)
  rw [List.length_append] at h
  unfold splitLine
  split
  · simp
  · simp only [List.length_cons]
    omega

namespace Dialogue

/-- The question as it is written. -/
def question (prompt : String) : String := prompt ++ " [y/N] "

/-- What is written after a line that is neither yes nor no. -/
def reminder : String := "Please answer 'y' or 'n'.\n"

/-- Cancels, as the line cannot be read. -/
def unreadable : Logged Decision := do
  Logged.note .error .confirmation "Failed to read answer: stream did not contain valid UTF-8"
  return .cancel

/-- Asks until a line decides or the input ends: the answer, all that was written, and the input
left. -/
def ask (prompt : String) (input : List UInt8) : Logged Decision × String × List UInt8 :=
  match input with
  | [] => (pure .cancel, question prompt, [])
  | byte :: bytes =>
    match LineAnswer.ofBytes (splitLine (byte :: bytes)).1 with
    | .clear decision => (pure decision, question prompt, (splitLine (byte :: bytes)).2)
    | .unreadable => (unreadable, question prompt, (splitLine (byte :: bytes)).2)
    | .unclear =>
      let (answer, shown, rest) := ask prompt (splitLine (byte :: bytes)).2
      (answer, question prompt ++ reminder ++ shown, rest)
termination_by input.length
decreasing_by exact length_splitLine_lt byte bytes

end Dialogue

/-- The bytes to be read, and all that was written. -/
structure Dialogue where
  input : List UInt8
  shown : String

/-- Asks over the dialogue. -/
def Dialogue.confirmer : Confirmer (StateM Dialogue) := fun prompt => do
  let dialogue ← get
  let (answer, shown, rest) := ask prompt dialogue.input
  set ({ input := rest, shown := dialogue.shown ++ shown } : Dialogue)
  return answer

end StructSync
