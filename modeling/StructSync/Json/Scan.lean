import StructSync.Json.Problem
import StructSync.Decimal.Shortest
import StructSync.Word

/-!
# The words of JSON

Readers of the smallest parts of a JSON text: white space, strings, numbers and literals. Each
takes the characters at hand and gives a value with the characters behind it, or the first problem.
-/

namespace StructSync.Json

/-- The white space of JSON. -/
def isSpace (c : Char) : Bool := c == ' ' || c == '\n' || c == '\t' || c == '\r'

def skipSpace (cs : List Char) : List Char := cs.dropWhile isSpace

/-! ### Strings -/

/-- Four hexadecimal digits. They take four bytes of the text, whether they are digits or not. -/
def hexFour (cs : List Char) : Except Problem (Nat × { r : List Char // r.length < cs.length }) :=
  let bytes := Text.utf8Length cs
  if bytes < 4 then .error ⟨.text .endInString, 0⟩
  else
    match cs with
    | a :: b :: c :: d :: rest =>
      match Text.hexValue? a, Text.hexValue? b, Text.hexValue? c, Text.hexValue? d with
      | some a, some b, some c, some d =>
        .ok (((a * 16 + b) * 16 + c) * 16 + d, ⟨rest, by simp only [List.length_cons]; omega⟩)
      | _, _, _, _ => .error ⟨.text .invalidEscape, bytes - 4⟩
    | _ => .error ⟨.text .invalidEscape, bytes - 4⟩

/-- A character written by its code: four digits, or twice four for a pair of surrogates. -/
def unicodeEscape (cs : List Char) :
    Except Problem (Char × { r : List Char // r.length < cs.length }) := do
  let (high, ⟨rest, shorter⟩) ← hexFour cs
  if 0xDC00 ≤ high && high ≤ 0xDFFF then .error (.before .loneSurrogate rest)
  else if high < 0xD800 || 0xDBFF < high then .ok (Char.ofNat high, ⟨rest, shorter⟩)
  else
    match rest, shorter with
    | '\\' :: 'u' :: digits, shorter =>
      let (low, ⟨after, shorterStill⟩) ← hexFour digits
      if low < 0xDC00 || 0xDFFF < low then .error (.before .loneSurrogate after)
      else
        .ok (Char.ofNat ((high - 0xD800) * 1024 + (low - 0xDC00) + 0x10000),
          ⟨after, by simp only [List.length_cons] at shorter; omega⟩)
    | [], _ | ['\\'], _ => .error (.before .endInString [])
    | '\\' :: after, _ => .error (.under .hexEscapeEnd after)
    | after, _ => .error (.under .hexEscapeEnd after)

/-- The escapes of one letter. -/
def letterEscape? : Char → Option Char
  | '"' => some '"'
  | '\\' => some '\\'
  | '/' => some '/'
  | 'b' => some '\x08'
  | 'f' => some '\x0c'
  | 'n' => some '\n'
  | 'r' => some '\r'
  | 't' => some '\t'
  | _ => none

/-- What stands behind a backslash. -/
def escape (cs : List Char) : Except Problem (Char × { r : List Char // r.length < cs.length }) :=
  match cs with
  | [] => .error (.before .endInString [])
  | 'u' :: rest => do
    let (c, ⟨after, _⟩) ← unicodeEscape rest
    .ok (c, ⟨after, by simp only [List.length_cons]; omega⟩)
  | c :: rest =>
    match letterEscape? c with
    | some c => .ok (c, ⟨rest, by simp⟩)
    | none => .error (.under .invalidEscape (c :: rest))

/-- The inside of a string and what follows its closing quote. -/
def stringBody (cs : List Char) : Except Problem (List Char × List Char) :=
  match cs with
  | [] => .error (.before .endInString [])
  | '"' :: rest => .ok ([], rest)
  | '\\' :: rest => do
    let (c, ⟨after, _⟩) ← escape rest
    let (text, final) ← stringBody after
    .ok (c :: text, final)
  | c :: rest => do
    if c.toNat < 0x20 then .error (.before .controlCharacter rest)
    else
      let (text, final) ← stringBody rest
      .ok (c :: text, final)
termination_by cs.length
decreasing_by
  all_goals simp only [List.length_cons]
  all_goals omega

/-- What follows the closing quote of a string whose text is not wanted. The code of a character is
not looked into. -/
def skipString (cs : List Char) : Except Problem (List Char) :=
  match cs with
  | [] => .error (.before .endInString [])
  | '"' :: rest => .ok rest
  | '\\' :: 'u' :: rest => do
    let (_, ⟨after, _⟩) ← hexFour rest
    skipString after
  | ['\\'] => .error (.before .endInString [])
  | '\\' :: c :: rest =>
    if (letterEscape? c).isSome then skipString rest
    else .error (.under .invalidEscape (c :: rest))
  | c :: rest =>
    if c.toNat < 0x20 then .error (.before .controlCharacter (c :: rest)) else skipString rest
termination_by cs.length
decreasing_by
  all_goals simp only [List.length_cons]
  all_goals omega

/-! ### Literals -/

/-- What follows the given letters. -/
def literal : List Char → List Char → Except Problem (List Char)
  | [], cs => .ok cs
  | _ :: _, [] => .error (.before .endInValue [])
  | letter :: letters, c :: rest =>
    if c = letter then literal letters rest else .error (.under .identExpected (c :: rest))

/-! ### Numbers -/

/-- A number as data sees it: a word, a negative integer of 64 bits, or anything else. -/
inductive Number where
  | word (value : UInt64)
  | negative (value : Int)
  | float (value : Float)

def Number.found : Number → Found
  | word value => .integer value.toNat
  | negative value => .integer value
  | float value => .float (Decimal.floatText value)

/-- Digits read so far: their value, as far as it is a word, and the power of ten it stands for.
Digits that do not fit are dropped. -/
structure Significand where
  value : Nat
  exponent : Int

/-- The significand of whole digits: each digit that no longer fits, and all after it, raise the
exponent. -/
def Significand.ofWhole (digits : List Char) : Significand :=
  digits.foldl (fun s c =>
    let next := s.value * 10 + (c.toNat - 48)
    if s.exponent = 0 && next < UInt64.size then { s with value := next }
    else { s with exponent := s.exponent + 1 }) ⟨0, 0⟩

/-- The significand with the digits behind the point, up to the first that no longer fits. -/
def Significand.withDecimals (s : Significand) : List Char → Significand
  | [] => s
  | c :: rest =>
    let next := s.value * 10 + (c.toNat - 48)
    if next < UInt64.size then Significand.withDecimals ⟨next, s.exponent - 1⟩ rest else s

/-- `10 ^ n` as a double. -/
def tenTo (n : Nat) : Float := Float.ofScientific 1 false n

/-- The double nearest to significand times or divided by a power of ten in one step; powers beyond
the range of doubles divide in steps. Nothing if it is too large. -/
def toDouble? (value : Float) (exponent : Int) : Nat → Option Float
  | 0 => some value
  | fuel + 1 =>
    if exponent.natAbs ≤ 308 then
      if exponent ≥ 0 then
        let product := value * tenTo exponent.toNat
        if product.isInf then none else some product
      else some (value / tenTo exponent.natAbs)
    else if value == 0.0 then some value
    else if exponent ≥ 0 then none
    else toDouble? (value / tenTo 308) (exponent + 308) fuel

/-- The largest exponent that is read as a number. -/
def maxExponent : Nat := 2147483647

/-- The signed double of a significand, right before the rest. -/
def Significand.double (s : Significand) (isNegative : Bool) (rest : List Char) :
    Except Problem Number :=
  match toDouble? (UInt64.ofNat s.value).toFloat s.exponent 4 with
  | some x => .ok (.float (if isNegative then -x else x))
  | none => .error (.before .numberRange rest)

/-- The digits of an exponent up to the first that makes it too large, and whether there is one. -/
def exponentDigits (value : Nat) : List Char → Nat × List Char × Bool
  | [] => (value, [], false)
  | c :: rest =>
    if c.isDigit then
      let next := value * 10 + (c.toNat - 48)
      if next > maxExponent then (value, rest, true) else exponentDigits next rest
    else (value, c :: rest, false)

/-- The exponent behind `e`, its sign included. -/
def exponentPart (s : Significand) (isNegative : Bool) (cs : List Char) :
    Except Problem (Number × List Char) := do
  let (isDown, digits) := match cs with
    | '+' :: rest => (false, rest)
    | '-' :: rest => (true, rest)
    | rest => (false, rest)
  match digits with
  | [] => .error (.before .endInValue [])
  | c :: _ =>
    if !c.isDigit then .error (.under .invalidNumber digits)
    else
      let (value, rest, isHuge) := exponentDigits 0 digits
      if isHuge then
        if s.value ≠ 0 && !isDown then .error (.before .numberRange rest)
        else .ok (.float (if isNegative then -0.0 else 0.0), rest.dropWhile Char.isDigit)
      else
        let exponent := if isDown then s.exponent - value else s.exponent + value
        let value ← Significand.double { s with exponent } isNegative rest
        .ok (value, rest)

/-- What follows the whole digits of a number: a point, an exponent, or something else. -/
def fractionPart (s : Significand) (isNegative : Bool) (cs : List Char) :
    Except Problem (Option Number × List Char) := do
  match cs with
  | '.' :: rest =>
    let digits := rest.takeWhile Char.isDigit
    let after := rest.dropWhile Char.isDigit
    let s := s.withDecimals digits
    if digits.isEmpty then
      if after.isEmpty then .error (.before .endInValue [])
      else .error (.under .invalidNumber after)
    else
      match after with
      | 'e' :: power | 'E' :: power =>
        let (value, rest) ← exponentPart s isNegative power
        .ok (some value, rest)
      | _ =>
        let value ← s.double isNegative after
        .ok (some value, after)
  | 'e' :: power | 'E' :: power =>
    let (value, rest) ← exponentPart s isNegative power
    .ok (some value, rest)
  | _ => .ok (none, cs)

/-- An integer that has no point and no exponent. Minus zero and integers out of range are
doubles. -/
def integerOf (s : Significand) (isNegative : Bool) (rest : List Char) : Except Problem Number :=
  if s.exponent ≠ 0 then s.double isNegative rest
  else if !isNegative then .ok (.word (UInt64.ofNat s.value))
  else if s.value = 0 || UInt64.size / 2 < s.value then
    .ok (.float (-(UInt64.ofNat s.value).toFloat))
  else .ok (.negative (-(s.value : Int)))

/-- A number without its sign. -/
def numeral (isNegative : Bool) (cs : List Char) : Except Problem (Number × List Char) := do
  match cs with
  | [] => .error (.before .endInValue [])
  | c :: rest =>
    if !c.isDigit then .error (.under .invalidNumber cs)
    else
      let digits := if c = '0' then [c] else c :: rest.takeWhile Char.isDigit
      let after := if c = '0' then rest else rest.dropWhile Char.isDigit
      match c, after.head? with
      | '0', some next =>
        if next.isDigit then .error (.under .invalidNumber after)
      | _, _ => pure ()
      let s := Significand.ofWhole digits
      match ← fractionPart s isNegative after with
      | (some value, rest) => .ok (value, rest)
      | (none, rest) =>
        let value ← integerOf s isNegative rest
        .ok (value, rest)

/-- What follows a number whose value is not wanted, its sign left out. -/
def skipNumber (cs : List Char) : Except Problem (List Char) := do
  let power (cs : List Char) : Except Problem (List Char) :=
    let digits := match cs with
      | '+' :: rest | '-' :: rest => rest
      | rest => rest
    match digits with
    | [] => .error (.before .invalidNumber [])
    | c :: rest =>
      if c.isDigit then .ok (rest.dropWhile Char.isDigit)
      else .error (.under .invalidNumber digits)
  match cs with
  | [] => .error (.before .invalidNumber [])
  | c :: rest =>
    if !c.isDigit then .error (.under .invalidNumber cs)
    else
      let after := if c = '0' then rest else rest.dropWhile Char.isDigit
      match after with
      | '.' :: decimals =>
        match decimals.takeWhile Char.isDigit, decimals.dropWhile Char.isDigit with
        | [], after => .error (.under .invalidNumber after)
        | _, 'e' :: rest | _, 'E' :: rest => power rest
        | _, after => .ok after
      | 'e' :: rest | 'E' :: rest => power rest
      | next :: _ =>
        if c = '0' && next.isDigit then .error (.under .invalidNumber after) else .ok after
      | [] => .ok []

end StructSync.Json
