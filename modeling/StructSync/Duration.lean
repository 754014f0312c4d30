import StructSync.Decimal.Fixed

/-!
# Durations

A duration is shown in the largest of three units that it fills: whole microseconds, whole
milliseconds, or seconds with two decimal places.
-/

namespace StructSync

/-- A span of time in nanoseconds. -/
structure Duration where
  nanos : Nat
deriving DecidableEq

namespace Duration

/-- The seconds as a double. -/
def seconds (d : Duration) : Float :=
  Float.ofNat (d.nanos / 1000000000) + Float.ofNat (d.nanos % 1000000000) / 1000000000.0

def text (d : Duration) : String :=
  if d.nanos < 1000000 then Text.decimal (d.nanos / 1000) ++ "µs"
  else if d.nanos < 1000000000 then Text.decimal (d.nanos / 1000000) ++ "ms"
  else
    match Decimal.BinaryFraction.ofBits? d.seconds.toBits with
    | some v => v.fixedText 2 ++ "s"
    | none => "0.00s"

end Duration

end StructSync
