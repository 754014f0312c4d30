import StructSync.Word

/-!
# Options

A command line is a list of words: options with one or two dashes, values, a command and what
belongs to it. A `Grammar` says which options, which free word and which commands may stand at one
level of the line; `Grammar.read` collects what was given there.

An option that wants a value takes it from behind `=`, from behind its letter, or from the next
word. A value is checked only when the next option, the next free word or the end is met, so of two
faults the later one may be the one reported.
-/

namespace StructSync

/-- Why a command line is not run. -/
inductive UsageError where
  | unknownArgument
  | conflict
  /-- The value is no number of the range. -/
  | badValue
  /-- The value is missing, or empty where it must not be. -/
  | missingValue
  /-- A value stands behind an option that takes none. -/
  | needlessValue
  | unknownCommand
  | missingCommand
  | nothingGiven
  | help
  | version
deriving DecidableEq

def UsageError.message : UsageError → String
  | unknownArgument => "unexpected argument"
  | conflict => "arguments that cannot be used together, or one used twice"
  | badValue => "a value that is no number of 64 bits"
  | missingValue => "a value is required"
  | needlessValue => "a value where none is taken"
  | unknownCommand => "unrecognized subcommand"
  | missingCommand | nothingGiven => "a subcommand is required"
  | help => "help was asked for"
  | version => "the version was asked for"

/-- What an option takes and how often it may be given. -/
inductive OptionKind where
  /-- no value, once -/
  | flag
  /-- no value, any number of times -/
  | count
  /-- any text, once -/
  | text
  /-- any text, any number of times -/
  | texts
  /-- a text that is not empty, once -/
  | path
  /-- a decimal number of 64 bits, once -/
  | word
  /-- no value; asks for help -/
  | help
  /-- no value; asks for the version -/
  | version
deriving DecidableEq

namespace OptionKind

def takesValue : OptionKind → Bool
  | text | texts | path | word => true
  | flag | count | help | version => false

def isRepeatable : OptionKind → Bool
  | count | texts => true
  | _ => false

end OptionKind

/-- An option with its long name and its letter. -/
structure OptionSpec where
  long : String
  letter? : Option Char
  kind : OptionKind
deriving DecidableEq

/-- What has been given so far: names with values in the order given, and the option whose value
is missing or not yet checked. -/
structure Reading where
  given : List (String × String)
  pending : Option (OptionSpec × Option String)
deriving DecidableEq

namespace Reading

def empty : Reading := ⟨[], none⟩

def has (r : Reading) (name : String) : Bool := r.given.any (·.1 == name)

/-- The values given under a name. -/
def values (r : Reading) (name : String) : List String :=
  (r.given.filter (·.1 == name)).map Prod.snd

/-- The first value given under a name. -/
def value? (r : Reading) (name : String) : Option String := r.given.lookup name

/-- Takes an option with its value, which is empty for one that takes none. -/
def take (r : Reading) (option : OptionSpec) (value : String) : Except UsageError Reading :=
  let taken : Reading := { r with given := r.given ++ [(option.long, value)] }
  if !option.kind.isRepeatable && r.has option.long then .error .conflict
  else
    match option.kind with
    | .help => .error .help
    | .version => .error .version
    | .path => if value.isEmpty then .error .missingValue else .ok taken
    | .word => if (wordOfText? value).isNone then .error .badValue else .ok taken
    | .flag | .count | .text | .texts => .ok taken

/-- Takes the option that is pending. -/
def settle (r : Reading) : Except UsageError Reading :=
  match r.pending with
  | none => .ok r
  | some (_, none) => .error .missingValue
  | some (option, some value) => { r with pending := none }.take option value

/-- Is the next word the value of an option? -/
def isAwaiting (r : Reading) : Bool :=
  match r.pending with
  | some (_, none) => true
  | _ => false

end Reading

/-- What may stand at one level of a command line. -/
structure Grammar where
  options : List OptionSpec
  /-- the name of the one free word -/
  free? : Option String
  commands : List String

namespace Grammar

variable (g : Grammar)

/-- Takes an option, with a value if one is attached to it. -/
def takeOption (option : OptionSpec) (attached? : Option String) (r : Reading) :
    Except UsageError Reading := do
  let r ← r.settle
  match attached? with
  | some value => r.take option value
  | none =>
    if option.kind.takesValue then .ok { r with pending := some (option, none) }
    else r.take option ""

/-- Reads what follows two dashes. -/
def readLong (body : List Char) (r : Reading) : Except UsageError Reading :=
  let name := String.ofList (body.takeWhile (· ≠ '='))
  match g.options.find? (·.long == name) with
  | none => .error .unknownArgument
  | some option =>
    match body.dropWhile (· ≠ '=') with
    | [] => takeOption option none r
    | _ :: value =>
      if option.kind.takesValue then takeOption option (some (String.ofList value)) r
      else .error .needlessValue

/-- Reads what follows one dash: letters of options, the last of them perhaps with its value. -/
def readLetters : List Char → Reading → Except UsageError Reading
  | [], r => .ok r
  | letter :: rest, r =>
    match g.options.find? (·.letter? == some letter) with
    | none => .error .unknownArgument
    | some option =>
      if option.kind.takesValue then
        match rest with
        | [] => takeOption option none r
        | '=' :: value => takeOption option (some (String.ofList value)) r
        | value => takeOption option (some (String.ofList value)) r
      else do readLetters rest (← takeOption option none r)

/-- Reads a word that is no option and no value. -/
def readFree (word : String) (r : Reading) : Except UsageError Reading :=
  match g.free? with
  | some name =>
    if r.has name then .error .unknownArgument
    else do
      let r ← r.settle
      .ok { r with given := r.given ++ [(name, word)] }
  | none =>
    if g.commands.isEmpty || g.commands.contains word then .error .unknownArgument
    else .error .unknownCommand

/-- Reads words up to the first command, and gives that command with the words behind it. Behind
`--` all words are free. -/
def read : List String → Reading → Except UsageError (Reading × Option (String × List String))
  | [], r => .ok (r, none)
  | word :: rest, r => do
    if !r.isAwaiting && g.commands.contains word then .ok (r, some (word, rest))
    else
      match word.toList with
      | ['-', '-'] => .ok (← rest.foldlM (fun r word => g.readFree word r) r, none)
      | '-' :: '-' :: body => read rest (← g.readLong body r)
      | '-' :: letter :: letters => read rest (← g.readLetters (letter :: letters) r)
      | _ =>
        match r.pending with
        | some (option, none) => read rest { r with pending := some (option, some word) }
        | _ => read rest (← g.readFree word r)

end Grammar

end StructSync
