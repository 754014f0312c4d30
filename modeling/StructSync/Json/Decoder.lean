import StructSync.Json.Skip

/-!
# Reading data out of a JSON text

A `Decoder` reads one value of a type off the front of a text. The value types of this library are
read with the combinators here: scalars, optional values, lists, maps keyed by words, named
alternatives and records. A record may be written as an object or as the array of its fields in
order.
-/

namespace StructSync.Json

/-- Reads a value off the front of a text and gives the text behind it. -/
abbrev Decoder (α : Type) := List Char → Except Problem (α × List Char)

/-- The problem with a value that is not of the type expected. Scalars are read to the end first,
and may hold a problem of their own. -/
def unexpected (expected : String) (cs : List Char) : Problem :=
  let invalid (found : Found) (rest : List Char) : Problem :=
    .mismatch (.invalidType found expected) rest
  let scalar {α : Type} (found : α → Found) : Except Problem (α × List Char) → Problem
    | .ok (value, rest) => invalid (found value) rest
    | .error problem => problem
  let word (letters : List Char) (found : Found) (rest : List Char) : Problem :=
    scalar (fun () => found) ((literal letters rest).map fun rest => ((), rest))
  match cs with
  | 'n' :: rest => word ['u', 'l', 'l'] .null rest
  | 't' :: rest => word ['r', 'u', 'e'] (.boolean true) rest
  | 'f' :: rest => word ['a', 'l', 's', 'e'] (.boolean false) rest
  | '-' :: rest => scalar Number.found (numeral true rest)
  | '"' :: rest => scalar (fun text => Found.string (String.ofList text)) (stringBody rest)
  | '[' :: _ => invalid .array cs
  | '\x7b' :: _ => invalid .object cs
  | c :: _ =>
    if c.isDigit then scalar Number.found (numeral false cs) else .under .valueExpected cs
  | [] => .under .valueExpected []

namespace Decoder

/-! ### Scalars -/

def string (expected : String) : Decoder String := fun cs => do
  match skipSpace cs with
  | [] => .error (.before .endInValue [])
  | '"' :: rest =>
    let (text, rest) ← stringBody rest
    .ok (String.ofList text, rest)
  | cs => .error (unexpected expected cs)

/-- Any text. -/
def text : Decoder String := string "a string"

def boolean : Decoder Bool := fun cs => do
  match skipSpace cs with
  | [] => .error (.before .endInValue [])
  | 't' :: rest => .ok (true, ← literal ['r', 'u', 'e'] rest)
  | 'f' :: rest => .ok (false, ← literal ['a', 'l', 's', 'e'] rest)
  | cs => .error (unexpected "a boolean" cs)

/-- The number that was read, if it is a word below the bound. -/
def bounded (bound : Nat) (expected : String) (n : Number) (rest : List Char) :
    Except Problem (UInt64 × List Char) :=
  match n with
  | .word value =>
    if value.toNat < bound then .ok (value, rest)
    else .error (.mismatch (.invalidValue n.found expected) rest)
  | .negative _ => .error (.mismatch (.invalidValue n.found expected) rest)
  | .float _ => .error (.mismatch (.invalidType n.found expected) rest)

/-- A natural number below the bound. -/
def natural (bound : Nat) (expected : String) : Decoder UInt64 := fun cs => do
  match skipSpace cs with
  | [] => .error (.before .endInValue [])
  | '-' :: rest =>
    let (n, rest) ← numeral true rest
    bounded bound expected n rest
  | c :: rest =>
    if c.isDigit then
      let (n, rest) ← numeral false (c :: rest)
      bounded bound expected n rest
    else .error (unexpected expected (c :: rest))

/-- A word of 64 bits. -/
def word : Decoder UInt64 := natural UInt64.size "u64"

/-- A word of 32 bits. -/
def halfWord : Decoder UInt32 := fun cs => do
  let (value, rest) ← natural UInt32.size "u32" cs
  .ok (value.toUInt32, rest)

/-- A value, or `null` for none. -/
def optional {α : Type} (item : Decoder α) : Decoder (Option α) := fun cs => do
  match skipSpace cs with
  | 'n' :: rest => .ok (none, ← literal ['u', 'l', 'l'] rest)
  | cs =>
    let (value, rest) ← item cs
    .ok (some value, rest)

/-! ### Arrays -/

/-- Where the next element of an array starts, unless the array ends here. -/
def nextItem? (isFirst : Bool) (cs : List Char) : Except Problem (Option (List Char)) :=
  match skipSpace cs with
  | [] => .error (.before .endInArray [])
  | ']' :: _ => .ok none
  | ',' :: after =>
    if isFirst then .ok (some (',' :: after))
    else
      match skipSpace after with
      | [] => .error (.before .endInValue [])
      | ']' :: rest => .error (.under .trailingComma (']' :: rest))
      | rest => .ok (some rest)
  | rest => if isFirst then .ok (some rest) else .error (.under .arrayCommaExpected rest)

/-- What follows the end of an array that has given all that was wanted of it. -/
def closeArray (cs : List Char) : Except Problem (List Char) :=
  match skipSpace cs with
  | [] => .error (.before .endInArray [])
  | ']' :: rest => .ok rest
  | ',' :: after =>
    match skipSpace after with
    | ']' :: rest => .error (.under .trailingComma (']' :: rest))
    | rest => .error (.under .trailingCharacters rest)
  | rest => .error (.under .trailingCharacters rest)

/-- The elements up to the end of the array. No array has more elements than characters. -/
def items {α : Type} (item : Decoder α) : Nat → Bool → Decoder (List α)
  | 0, _, cs => .error (.under .endInArray cs)
  | fuel + 1, isFirst, cs => do
    match ← nextItem? isFirst cs with
    | none => .ok ([], skipSpace cs)
    | some start =>
      let (value, rest) ← item start
      let (values, rest) ← items item fuel false rest
      .ok (value :: values, rest)

def list {α : Type} (item : Decoder α) : Decoder (List α) := fun cs => do
  match skipSpace cs with
  | [] => .error (.before .endInValue [])
  | '[' :: rest =>
    let (values, rest) ← items item (rest.length + 1) true rest
    .ok (values, ← closeArray rest)
  | cs => .error (unexpected "a sequence" cs)

/-! ### Objects -/

/-- What follows the opening quote of the next key of an object, unless the object ends here. -/
def nextKey? (isFirst : Bool) (cs : List Char) : Except Problem (Option (List Char)) :=
  match skipSpace cs with
  | [] => .error (.before .endInObject [])
  | '\x7d' :: _ => .ok none
  | '"' :: rest =>
    if isFirst then .ok (some rest) else .error (.under .objectCommaExpected ('"' :: rest))
  | ',' :: after =>
    if isFirst then .error (.under .keyNotString (',' :: after))
    else
      match skipSpace after with
      | [] => .error (.before .endInValue [])
      | '"' :: rest => .ok (some rest)
      | '\x7d' :: rest => .error (.under .trailingComma ('\x7d' :: rest))
      | rest => .error (.under .keyNotString rest)
  | rest =>
    .error (.under (if isFirst then .keyNotString else .objectCommaExpected) rest)

/-- What follows the colon behind a key. -/
def colon (cs : List Char) : Except Problem (List Char) :=
  match skipSpace cs with
  | [] => .error (.before .endInObject [])
  | ':' :: rest => .ok rest
  | rest => .error (.under .colonExpected rest)

/-- What follows the end of an object. -/
def closeObject (cs : List Char) : Except Problem (List Char) :=
  match skipSpace cs with
  | [] => .error (.before .endInObject [])
  | '\x7d' :: rest => .ok rest
  | ',' :: rest => .error (.under .trailingComma (',' :: rest))
  | rest => .error (.under .trailingCharacters rest)

/-- The place where a mismatch inside brackets is noticed: behind white space, and behind the
bracket that closes them if that comes next. -/
def afterClosing (bracket : Char) (cs : List Char) : List Char :=
  match skipSpace cs with
  | [] => []
  | c :: rest => if c = bracket then rest else c :: rest

/-- The rest of a key that is a word in quotes. -/
def wordKey (cs : List Char) : Except Problem (UInt64 × List Char) := do
  let isNumeral := match cs with
    | c :: _ => c.isDigit || c == '-'
    | [] => false
  if !isNumeral then .error (.before .keyNotNumber cs)
  else
    let (key, rest) ← word cs
    match rest with
    | '"' :: rest => .ok (key, rest)
    | rest => .error (.under .quoteExpected rest)

/-- The entries up to the end of an object whose keys are words in quotes. -/
def entries {α : Type} (item : Decoder α) : Nat → Bool → Decoder (List (UInt64 × α))
  | 0, _, cs => .error (.under .endInObject cs)
  | fuel + 1, isFirst, cs => do
    match ← nextKey? isFirst cs with
    | none => .ok ([], skipSpace cs)
    | some start =>
      let (key, rest) ← wordKey start
      let rest ← colon rest
      let (value, rest) ← item rest
      let (values, rest) ← entries item fuel false rest
      .ok ((key, value) :: values, rest)

/-- An object whose keys are words in quotes, as the list of its entries. -/
def wordMap {α : Type} (item : Decoder α) : Decoder (List (UInt64 × α)) := fun cs => do
  match skipSpace cs with
  | [] => .error (.before .endInValue [])
  | '\x7b' :: rest =>
    let (values, rest) ← entries item (rest.length + 1) true rest
    .ok (values, ← closeObject rest)
  | cs => .error (unexpected "a map" cs)

/-! ### Named alternatives -/

/-- The alternative of that name. -/
def variant {α : Type} (alternatives : List (String × α)) (name : String) (rest : List Char) :
    Except Problem α :=
  match alternatives.lookup name with
  | some value => .ok value
  | none =>
    .error (.mismatch (.unknownVariant name (alternatives.map Prod.fst)) rest)

/-- The first key of an object. -/
def key : Decoder String := fun cs =>
  match skipSpace cs with
  | '"' :: rest => text ('"' :: rest)
  | [] => .error (.before .endInValue [])
  | rest => .error (.under .keyNotString rest)

/-- One of some named values: its name, or an object with its name and `null`. -/
def choice {α : Type} (alternatives : List (String × α)) : Decoder α := fun cs => do
  match skipSpace cs with
  | [] => .error (.before .endInValue [])
  | '"' :: rest =>
    let (name, rest) ← text ('"' :: rest)
    .ok (← variant alternatives name rest, rest)
  | '\x7b' :: rest =>
    let (name, rest) ← key rest
    let value ← variant alternatives name rest
    let rest ← colon rest
    let rest ← match skipSpace rest with
      | [] => .error (.before .endInValue [])
      | 'n' :: rest => literal ['u', 'l', 'l'] rest
      | cs => .error (unexpected "unit" cs)
    match skipSpace rest with
    | [] => .error (.before .endInObject [])
    | '\x7d' :: rest => .ok (value, rest)
    | rest => .error (.before .valueExpected rest)
  | cs => .error (.under .valueExpected cs)

/-! ### Records -/

end Decoder

/-- A field of a record that is being put together in a `π`. -/
structure Slot (π : Type) where
  key : String
  isFilled : π → Bool
  read : π → Decoder π
  /-- must stand in the array form -/
  isRequired : Bool

/-- How a record is read: its fields in order, whether other keys are refused, the parts to start
from, and how the parts make the record. A record that lacks a part names the key of that part. -/
structure Shape (π α : Type) where
  name : String
  slots : List (Slot π)
  isStrict : Bool
  start : π
  finish : π → Except String α

namespace Shape

variable {π α : Type} (shape : Shape π α)

def keys : List String := shape.slots.map Slot.key

/-- The record's name with the number of its fields. -/
def description : String :=
  shape.name ++ " with " ++ toString shape.slots.length
    ++ (if shape.slots.length = 1 then " element" else " elements")

/-- The fields of the object form, up to its end. -/
def fields : Nat → Bool → π → Decoder π
  | 0, _, _, cs => .error (.under .endInObject cs)
  | fuel + 1, isFirst, parts, cs => do
    match ← Decoder.nextKey? isFirst cs with
    | none => .ok (parts, skipSpace cs)
    | some start =>
      let (key, rest) ← stringBody start
      let key := String.ofList key
      match shape.slots.find? (·.key == key) with
      | some slot =>
        if slot.isFilled parts then
          .error (.mismatch (.duplicateField key) (Decoder.afterClosing '\x7d' rest))
        else
          let rest ← Decoder.colon rest
          let (parts, rest) ← slot.read parts rest
          fields fuel false parts rest
      | none =>
        if shape.isStrict then
          .error (.mismatch (.unknownField key shape.keys) (Decoder.afterClosing '\x7d' rest))
        else
          let rest ← Decoder.colon rest
          let rest ← skipValue rest
          fields fuel false parts rest

/-- The fields of the array form in order; the array may end early if it leaves out none that is
required. -/
def elements (index : Nat) (isFirst : Bool) (parts : π) : List (Slot π) → Decoder π
  | [], cs => .ok (parts, cs)
  | slot :: slots, cs => do
    match ← Decoder.nextItem? isFirst cs with
    | some start =>
      let (parts, rest) ← slot.read parts start
      elements (index + 1) false parts slots rest
    | none =>
      if slot.isRequired then
        .error (.mismatch (.invalidLength index shape.description) (Decoder.afterClosing ']' cs))
      else elements (index + 1) isFirst parts slots cs

/-- The record of the parts, read up to the rest inside the brackets. -/
def complete (bracket : Char) (parts : π) (rest : List Char) : Except Problem α :=
  match shape.finish parts with
  | .ok record => .ok record
  | .error key => .error (.mismatch (.missingField key) (Decoder.afterClosing bracket rest))

/-- Reads the record in either form. -/
def decoder : Decoder α := fun cs => do
  match skipSpace cs with
  | [] => .error (.before .endInValue [])
  | '\x7b' :: rest =>
    let (parts, rest) ← shape.fields (rest.length + 1) true shape.start rest
    let record ← shape.complete '\x7d' parts rest
    .ok (record, ← Decoder.closeObject rest)
  | '[' :: rest =>
    let (parts, rest) ← shape.elements 0 true shape.start shape.slots rest
    let record ← shape.complete ']' parts rest
    .ok (record, ← Decoder.closeArray rest)
  | cs => .error (unexpected shape.name cs)

end Shape

/-- Reads a text that holds one value and nothing else. -/
def decode {α : Type} (decoder : Decoder α) (text : String) : Except Error α :=
  let cs := text.toList
  let whole : Except Problem α := do
    let (value, rest) ← decoder cs
    match skipSpace rest with
    | [] => .ok value
    | rest => .error (.under .trailingCharacters rest)
  whole.mapError (Error.locate cs)

end StructSync.Json
