import StructSync.Json.Scan

/-!
# Values that are not wanted

`skipValue` passes over one value of any depth. It checks the grammar but neither the range of
numbers nor the codes of characters.
-/

namespace StructSync.Json

/-- A bracket that is still open. -/
inductive Bracket where
  | array
  | object
deriving DecidableEq

namespace Bracket

def closing : Bracket → Char
  | array => ']'
  | object => '\x7d'

def commaExpected : Bracket → SyntaxFault
  | array => .arrayCommaExpected
  | object => .objectCommaExpected

def endInside : Bracket → SyntaxFault
  | array => .endInArray
  | object => .endInObject

end Bracket

/-- What may come next inside the innermost open bracket. -/
inductive Stage where
  /-- a value -/
  | value
  /-- the closing bracket or a first element -/
  | opened
  /-- the closing bracket or a comma -/
  | filled

/-- What follows the quote and the colon of a key. -/
def skipKey (cs : List Char) : Except Problem (List Char) := do
  match skipSpace cs with
  | [] => .error (.before .endInObject [])
  | '"' :: rest =>
    let after ← skipString rest
    match skipSpace after with
    | [] => .error (.before .endInObject [])
    | ':' :: rest => .ok rest
    | rest => .error (.under .colonExpected rest)
  | rest => .error (.under .keyNotString rest)

/-- Passes over the rest of a value with these brackets open, innermost first. Every two steps use
up a character, so twice the length of the text is fuel enough. -/
def skipOpen : Nat → Stage → List Bracket → List Char → Except Problem (List Char)
  | 0, _, _, cs => .error (.under .endInValue cs)
  | fuel + 1, .value, opened, cs => do
    let cs := skipSpace cs
    match cs with
    | '[' :: rest => skipOpen fuel .opened (.array :: opened) rest
    | '\x7b' :: rest => skipOpen fuel .opened (.object :: opened) rest
    | _ =>
      let after ← match cs with
        | [] => .error (.before .endInValue [])
        | 'n' :: rest => literal ['u', 'l', 'l'] rest
        | 't' :: rest => literal ['r', 'u', 'e'] rest
        | 'f' :: rest => literal ['a', 'l', 's', 'e'] rest
        | '-' :: rest => skipNumber rest
        | '"' :: rest => skipString rest
        | c :: _ => if c.isDigit then skipNumber cs else .error (.under .valueExpected cs)
      if opened.isEmpty then .ok after else skipOpen fuel .filled opened after
  | _ + 1, _, [], cs => .ok cs
  | fuel + 1, stage, bracket :: outer, cs => do
    let cs := skipSpace cs
    let isFilled := stage matches .filled
    let element (cs : List Char) : Except Problem (List Char) := do
      let cs ← if bracket = .object then skipKey cs else .ok cs
      skipOpen fuel .value (bracket :: outer) cs
    match cs with
    | [] => .error (.before bracket.endInside [])
    | c :: rest =>
      if c = bracket.closing then
        if outer.isEmpty then .ok rest else skipOpen fuel .filled outer rest
      else if !isFilled then element cs
      else if c = ',' then element rest
      else .error (.under bracket.commaExpected cs)

/-- What follows the next value. -/
def skipValue (cs : List Char) : Except Problem (List Char) :=
  skipOpen (2 * cs.length + 2) .value [] cs

end StructSync.Json
