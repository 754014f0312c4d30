import StructSync.Pattern.Meaning
import StructSync.Pattern.Reading
import StructSync.Pattern.Size

/-!
# Patterns

A pattern describes texts by characters, classes of them, choices and repetitions. `Pattern.ofText`
reads one or tells what is wrong with it; `Pattern.occursIn` looks for it in a text.
-/

namespace StructSync

/-- A pattern that makes sense. -/
structure Pattern where
  expression : Pattern.Expression
deriving DecidableEq

namespace Pattern

/-- How many bytes a machine for a pattern may take. -/
def sizeLimit : Nat := 10 * 1024 * 1024

/-- The pattern that a text writes, or what is to be told about it. -/
def ofText (text : String) : Except String Pattern :=
  match Tree.ofText text >>= Tree.meaning? with
  | .error problem => .error (problem.text text)
  | .ok expression =>
    if expression.size ≤ sizeLimit then .ok ⟨expression⟩
    else
      .error ("Compiled regex exceeds size limit of " ++ Text.decimal sizeLimit ++ " bytes.")

/-- Does a piece of the text fit the pattern? -/
def occursIn (p : Pattern) (text : String) : Bool := p.expression.occursIn text.toList

end Pattern

end StructSync
