import StructSync.Pattern.Expression

/-!
# How large patterns are

The number of bytes of a machine that looks for an expression in UTF-8 text, byte after byte. Each
state takes 32 bytes; repetitions are written out. A set beyond ASCII is told apart by the bytes of
its characters, in sequences of ranges of bytes; those that start alike share their states.
-/

namespace StructSync.Pattern

/-- The number of code points that differ in their last so many bytes alone. -/
def blockSize : Nat → Nat
  | 0 => 1
  | n + 1 => 64 * blockSize n

/-- A sequence of ranges, one for each byte. -/
abbrev ByteSequence := List (Nat × Nat)

/-- The sequences for the code points from one to another that take a number of bytes. -/
def byteSequences : Nat → Nat → Nat → List ByteSequence
  | 0, _, _ => [[]]
  | n + 1, low, high =>
    let block := blockSize n
    let first := low / block
    let last := high / block
    if first = last then (byteSequences n (low % block) (high % block)).map ((first, first) :: ·)
    else
      let isFirstWhole := low % block = 0
      let isLastWhole := high % block = block - 1
      let start := if isFirstWhole then []
        else (byteSequences n (low % block) (block - 1)).map ((first, first) :: ·)
      let stop := if isLastWhole then []
        else (byteSequences n 0 (high % block)).map ((last, last) :: ·)
      let begun := if isFirstWhole then first else first + 1
      let upTo := if isLastWhole then last else last - 1
      let middle := if begun ≤ upTo then [(begun, upTo) :: List.replicate n (0, 63)] else []
      start ++ middle ++ stop

/-- The ranges of code points whose characters take the same number of bytes. -/
def byteLengths : List (Nat × Nat × Nat) :=
  [(1, 0, 0x7F), (2, 0x80, 0x7FF), (3, 0x800, 0xD7FF), (3, 0xE000, 0xFFFF),
    (4, 0x10000, CharSet.lastPoint)]

/-- The sequences for a range of code points. -/
def sequencesOf (range : Nat × Nat) : List (Nat × ByteSequence) :=
  byteLengths.flatMap fun (length, first, last) =>
    let low := max range.1 first
    let high := min range.2 last
    if low ≤ high then (byteSequences length low high).map (length, ·) else []

/-- How many ranges the sequence has behind those that it shares with another. -/
def unshared : ByteSequence → ByteSequence → Nat
  | [], _ => 0
  | s, [] => s.length
  | a :: s, b :: t => if a = b then unshared s t else s.length + 1

/-- The number of states for sequences in order. -/
def sequenceStates : List (Nat × ByteSequence) → Nat
  | [] => 0
  | [(_, s)] => s.length
  | (n, s) :: (m, t) :: rest =>
    (if n = m then unshared s t else s.length) + sequenceStates ((m, t) :: rest)

def stateSize : Nat := 32

def setSize (set : CharSet) : Nat :=
  match set.ranges with
  | [] => stateSize
  | [(low, high)] =>
    if low = high then stateSize * (Char.ofNat low).utf8Size
    else if high < 0x80 then 2 * stateSize + 8
    else setStates set
  | ranges => if ranges.all (·.2 < 0x80) then 2 * stateSize + 8 * ranges.length else setStates set
where
  /-- The bytes for the states of a set beyond ASCII. -/
  setStates (set : CharSet) : Nat :=
    let sequences := set.ranges.flatMap sequencesOf
    stateSize * (sequenceStates sequences + 2) + 4 * sequences.length

namespace Expression

/-- Is every piece that fits empty? -/
def isStill : Expression → Bool
  | empty | place _ => true
  | oneOf _ => false
  | captured body => body.isStill
  | sequence first second | choice first second => first.isStill && second.isStill
  | repetition body _ most => body.isStill || most == some 0

/-- The bytes for a repetition of a body of some size. -/
def repetitionSize (body least : Nat) : Option Nat → Nat
  | none => max least 1 * body + (if least = 0 then 3 * stateSize + 16 else stateSize + 8)
  | some most =>
    if least = most then most * body
    else most * body + (most - least) * (stateSize + 8) + 2 * stateSize

/-- The bytes for an expression. A body that fits nothing but empty pieces is repeated once at
most. -/
def size : Expression → Nat
  | empty | place _ => stateSize
  | oneOf set => setSize set
  | captured body => body.size + 2 * stateSize
  | sequence first second => first.size + second.size
  | choice first second => first.size + second.size + 2 * stateSize + 8
  | repetition body least most =>
    if body.isStill then repetitionSize body.size (min least 1) (some (min (most.getD 1) 1))
    else repetitionSize body.size least most

end Expression

end StructSync.Pattern
