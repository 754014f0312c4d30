/-!
# Integer specifiers

C lets the words of an integer type stand in any order: `long unsigned int` is `unsigned long`.
`IntegerType.ofWords?` counts the words and reads off the one type they name; `IntegerType.name`
is its canonical spelling.
-/

namespace StructSync

/-- The width of a sized integer such as `__int32`. -/
inductive SizedInt where
  | bits8 | bits16 | bits32 | bits64 | bits128
deriving DecidableEq

def SizedInt.name : SizedInt → String
  | bits8 => "__int8"
  | bits16 => "__int16"
  | bits32 => "__int32"
  | bits64 => "__int64"
  | bits128 => "__int128"

/-- A word of an integer type. -/
inductive Specifier where
  | signed | unsigned | short | long | int | char
  | sized (width : SizedInt)
deriving DecidableEq

def Specifier.ofWord? : String → Option Specifier
  | "signed" => some signed
  | "unsigned" => some unsigned
  | "short" => some short
  | "long" => some long
  | "int" => some int
  | "char" => some char
  | "__int8" => some (sized .bits8)
  | "__int16" => some (sized .bits16)
  | "__int32" => some (sized .bits32)
  | "__int64" => some (sized .bits64)
  | "__int128" => some (sized .bits128)
  | _ => none

def Specifier.width? : Specifier → Option SizedInt
  | sized width => some width
  | _ => none

/-- The integer ranks that a sign can be put to. -/
inductive IntegerRank where
  | short | int | long | longLong
  | sized (width : SizedInt)
deriving DecidableEq

def IntegerRank.name : IntegerRank → String
  | short => "short"
  | int => "int"
  | long => "long"
  | longLong => "long long"
  | sized width => width.name

/-- An integer type. The three types of `char` are distinct; elsewhere `signed` says nothing. -/
inductive IntegerType where
  | char
  | signedChar
  | unsignedChar
  | ranked (isUnsigned : Bool) (rank : IntegerRank)
deriving DecidableEq

namespace IntegerType

/-- The canonical spelling. -/
def name : IntegerType → String
  | char => "char"
  | signedChar => "signed char"
  | unsignedChar => "unsigned char"
  | ranked false rank => rank.name
  | ranked true rank => "unsigned " ++ rank.name

/-- The type that these specifiers name together, in whatever order they stand. -/
def ofSpecifiers? (specifiers : List Specifier) : Option IntegerType :=
  let signed := specifiers.count .signed
  let unsigned := specifiers.count .unsigned
  let int := specifiers.count .int
  if signed + unsigned > 1 || int > 1 then none
  else
    let isUnsigned := unsigned == 1
    match specifiers.filterMap Specifier.width?, specifiers.count .char,
        specifiers.count .short, specifiers.count .long with
    | [width], 0, 0, 0 => if int == 0 then some (ranked isUnsigned (.sized width)) else none
    | [], 1, 0, 0 =>
      if int != 0 then none
      else if signed == 1 then some signedChar
      else if isUnsigned then some unsignedChar
      else some char
    | [], 0, 1, 0 => some (ranked isUnsigned .short)
    | [], 0, 0, 1 => some (ranked isUnsigned .long)
    | [], 0, 0, 2 => some (ranked isUnsigned .longLong)
    | [], 0, 0, 0 => if signed + unsigned + int > 0 then some (ranked isUnsigned .int) else none
    | _, _, _, _ => none

/-- The integer type that the words name, if they are all specifiers and combine. -/
def ofWords? (words : List String) : Option IntegerType :=
  (words.mapM Specifier.ofWord?).bind ofSpecifiers?

end IntegerType

end StructSync
