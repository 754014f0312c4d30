/-!
# Shortest decimals

The shortest decimal that reads back as a given binary fraction, found with exact natural numbers.
For a value `m * 2 ^ q` the reals that round to it form an interval, ends included exactly when `m`
is even. On each decimal grid, coarse to fine, only the value's two neighbours can lie in that
interval; the first grid with a hit has the fewest digits.
-/

namespace StructSync.Decimal

/-- A positive binary fraction `mantissa * 2 ^ exponent`; `atPowerOfTwo` says that the next
smaller one is only half as far away as the next larger one. -/
structure BinaryFraction where
  mantissa : Nat
  exponent : Int
  atPowerOfTwo : Bool

/-- The leading bit of a fraction, which the bits of a double leave out. -/
def hiddenBit : Nat := 0x10000000000000

/-- The fraction that the bits of a double stand for, its sign left out; nothing for zero. -/
def BinaryFraction.ofBits? (bits : UInt64) : Option BinaryFraction :=
  let field : Nat := (bits >>> 52).toNat % 2048
  let fraction : Nat := bits.toNat % hiddenBit
  if field = 0 then
    if fraction = 0 then none else some ⟨fraction, -1074, false⟩
  else some ⟨hiddenBit + fraction, (field : Int) - 1075, fraction = 0 && field > 1⟩

/-- A decimal `digits * 10 ^ exponent`. -/
structure DecimalFraction where
  digits : Nat
  exponent : Int

/-- The neighbour on the grid of that exponent which rounds to the fraction: the nearer one if
both do, the even one if both are as near. -/
def onGrid? (v : BinaryFraction) (exponent : Int) : Option DecimalFraction :=
  -- quarters of the fraction's last binary place, scaled so that the grid's step is `step`
  let scale := Nat.pow 2 (v.exponent - 2).toNat * Nat.pow 10 (-exponent).toNat
  let step := Nat.pow 2 (2 - v.exponent).toNat * Nat.pow 10 exponent.toNat
  let value := 4 * v.mantissa * scale
  let low := (4 * v.mantissa - if v.atPowerOfTwo then 1 else 2) * scale
  let high := (4 * v.mantissa + 2) * scale
  let closed := v.mantissa % 2 = 0
  let rounds (d : Nat) : Bool :=
    if closed then low ≤ d * step && d * step ≤ high else low < d * step && d * step < high
  let below := value / step
  let above := below + 1
  let belowGap := value - below * step
  let aboveGap := above * step - value
  let takeBelow := belowGap < aboveGap || (belowGap = aboveGap && below % 2 = 0)
  if rounds below && rounds above then some ⟨if takeBelow then below else above, exponent⟩
  else if rounds below then some ⟨below, exponent⟩
  else if rounds above then some ⟨above, exponent⟩
  else none

/-- The shortest decimal of a double's fraction. Its exponents run from 308 down to -343. -/
def shortest (v : BinaryFraction) : DecimalFraction :=
  ((List.range 652).findSome? fun (i : Nat) => onGrid? v (308 - (i : Int))).getD ⟨0, 0⟩

/-- The text of a decimal: positional while its leading digit stands for a power of ten from -5 to
15, with a point always; otherwise one digit before the point and a signed exponent. -/
def DecimalFraction.text (d : DecimalFraction) : String :=
  let digits := Nat.toDigits 10 d.digits
  let lead : Int := d.exponent + digits.length - 1
  if 0 ≤ lead && lead ≤ 15 then
    let whole := lead.toNat + 1
    let padded := digits ++ List.replicate (whole + 1 - digits.length) '0'
    String.ofList (padded.take whole ++ '.' :: padded.drop whole)
  else if -5 ≤ lead && lead < 0 then
    "0." ++ String.ofList (List.replicate ((-lead).toNat - 1) '0' ++ digits)
  else
    let power := (if lead < 0 then "e-" else "e+") ++ toString lead.natAbs
    match digits with
    | [] => power
    | [digit] => String.singleton digit ++ power
    | digit :: rest => String.ofList (digit :: '.' :: rest) ++ power

/-- The text of a finite double. -/
def floatText (x : Float) : String :=
  let bits := x.toBits
  let sign := if bits >>> 63 = 1 then "-" else ""
  match BinaryFraction.ofBits? bits with
  | none => sign ++ "0.0"
  | some v => sign ++ (shortest v).text

end StructSync.Decimal
