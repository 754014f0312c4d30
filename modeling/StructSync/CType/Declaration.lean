import StructSync.Text.Blank

/-!
# The grammar of declarations

A declaration is one or more words, then any number of `*`, then any number of dimensions
`[ digits ]`, with white space anywhere between these, and at the end white space and a run of
`;`. `scan` cuts a text into tokens and `Declaration.ofTokens?` reads their shape.
-/

namespace StructSync

/-- A letter or `_` of ASCII, as words begin with. -/
def isWordStart (c : Char) : Bool := c.isAlpha || c == '_'

/-- A letter, digit or `_` of ASCII, as words go on with. -/
def isWordChar (c : Char) : Bool := c.isAlphanum || c == '_'

inductive Token where
  | word (text : String)
  | number (digits : List Char)
  | star
  | opening
  | closing
deriving DecidableEq

/-- The tokens of the text, or nothing if a character fits none. -/
def scan : List Char → Option (List Token)
  | [] => some []
  | c :: rest =>
    if isBlank c then scan rest
    else if c == '*' then (scan rest).map (.star :: ·)
    else if c == '[' then (scan rest).map (.opening :: ·)
    else if c == ']' then (scan rest).map (.closing :: ·)
    else if isWordStart c then
      (scan (rest.dropWhile isWordChar)).map
        (.word (String.ofList (c :: rest.takeWhile isWordChar)) :: ·)
    else if c.isDigit then
      (scan (rest.dropWhile Char.isDigit)).map
        (.number (c :: rest.takeWhile Char.isDigit) :: ·)
    else none
termination_by cs => cs.length
decreasing_by
  all_goals simp only [List.length_cons]
  all_goals first
    | omega
    | exact Nat.lt_succ_of_le (Text.length_dropWhile_le _ _)

@[simp] theorem scan_nil : scan [] = some [] := by rw [scan]

/-- A declaration taken apart: base words, number of `*`, and the digits of each dimension. -/
structure Declaration where
  words : List String
  stars : Nat
  dimensions : List (List Char)
deriving DecidableEq

namespace Declaration

/-- The words that stand first, and what follows them. -/
def splitWords : List Token → List String × List Token
  | .word text :: rest => let (words, rest) := splitWords rest; (text :: words, rest)
  | rest => ([], rest)

/-- The number of stars that stand first, and what follows them. -/
def splitStars : List Token → Nat × List Token
  | .star :: rest => let (stars, rest) := splitStars rest; (stars + 1, rest)
  | rest => (0, rest)

/-- The dimensions, if there is nothing but dimensions. -/
def dimensions? : List Token → Option (List (List Char))
  | [] => some []
  | .opening :: .number digits :: .closing :: rest => (dimensions? rest).map (digits :: ·)
  | _ => none

def ofTokens? (tokens : List Token) : Option Declaration :=
  let (words, rest) := splitWords tokens
  let (stars, rest) := splitStars rest
  if words.isEmpty then none
  else (dimensions? rest).map fun dimensions => { words, stars, dimensions }

/-- The part of a text that carries the declaration: no white space and no `;` around it. -/
def body (text : List Char) : List Char :=
  Text.trim ((Text.trim text).reverse.dropWhile (· == ';')).reverse

end Declaration

end StructSync
