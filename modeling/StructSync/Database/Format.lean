import StructSync.Database
import StructSync.Json.Fields
import StructSync.Json.Writer

/-!
# Databases as text

A database is kept as a JSON object of its pointer size, its next id and its structs under their
ids. `Database.load` takes back what `Database.json` writes, puts the members of each struct into
the order of their offsets and refuses ranges that no request could have made.
-/

namespace StructSync

open Json (Decoder Shape Slot need)

/-! ### Writing -/

def StoredMember.json (m : StoredMember) : Json :=
  .object [
    ("id", .number m.id.value.toNat),
    ("name", .string m.name),
    ("offset", .number m.offset.toNat),
    ("size", .number m.size.toNat),
    ("flags", .number m.flags.bits.toNat),
    ("type_name", (m.typeName.map Json.string).getD .null)]

def StoredStruct.json (s : StoredStruct) : Json :=
  .object [
    ("id", .number s.id.value.toNat),
    ("name", .string s.name),
    ("members", .array (s.members.map StoredMember.json))]

/-- The database without its journal. -/
def Database.json (db : Database) : Json :=
  .object [
    ("pointer_size", .number db.pointerSize.toNat),
    ("next_id", .number db.nextId.toNat),
    ("structs", .object (db.structs.entries.map fun (key, s) =>
      (toString key.toNat, s.json)))]

/-! ### Reading -/

/-- The parts of a member read so far. -/
structure MemberParts where
  id : Option UInt64
  name : Option String
  offset : Option UInt64
  size : Option UInt64
  flags : Option UInt32
  typeName : Option (Option String)

def StoredMember.shape : Shape MemberParts StoredMember where
  name := "struct StoredMember"
  slots := [
    .field "id" (·.id) ({ · with id := some · }) .word,
    .field "name" (·.name) ({ · with name := some · }) .text,
    .field "offset" (·.offset) ({ · with offset := some · }) .word,
    .field "size" (·.size) ({ · with size := some · }) .word,
    .field "flags" (·.flags) ({ · with flags := some · }) .halfWord,
    .field "type_name" (·.typeName) ({ · with typeName := some · }) (.optional .text)]
  isStrict := false
  start := ⟨none, none, none, none, none, none⟩
  finish parts := do
    let id ← need "id" parts.id
    let name ← need "name" parts.name
    let offset ← need "offset" parts.offset
    let size ← need "size" parts.size
    let flags ← need "flags" parts.flags
    .ok { id := ⟨id⟩, name, offset, size, flags := ⟨flags⟩, typeName := parts.typeName.join }

/-- The parts of a struct read so far. -/
structure StructParts where
  id : Option UInt64
  name : Option String
  members : Option (List StoredMember)

def StoredStruct.shape : Shape StructParts StoredStruct where
  name := "struct StoredStruct"
  slots := [
    .field "id" (·.id) ({ · with id := some · }) .word,
    .field "name" (·.name) ({ · with name := some · }) .text,
    .field "members" (·.members) ({ · with members := some · })
      (.list StoredMember.shape.decoder)]
  isStrict := false
  start := ⟨none, none, none⟩
  finish parts := do
    let id ← need "id" parts.id
    let name ← need "name" parts.name
    let members ← need "members" parts.members
    .ok { id := ⟨id⟩, name, members }

/-- The parts of a database read so far. -/
structure DatabaseParts where
  pointerSize : Option UInt64
  nextId : Option UInt64
  structs : Option (List (UInt64 × StoredStruct))

def Database.shape : Shape DatabaseParts Database where
  name := "struct InMemoryDatabase"
  slots := [
    (Slot.field "pointer_size" (·.pointerSize) ({ · with pointerSize := some · })
      Decoder.word).trailing,
    .field "next_id" (·.nextId) ({ · with nextId := some · }) .word,
    .field "structs" (·.structs) ({ · with structs := some · })
      (.wordMap StoredStruct.shape.decoder)]
  isStrict := false
  start := ⟨none, none, none⟩
  finish parts := do
    let nextId ← need "next_id" parts.nextId
    let structs ← need "structs" parts.structs
    .ok {
      pointerSize := parts.pointerSize.getD Database.defaultPointerSize
      nextId
      structs := .ofList structs
      journal := [] }

/-- The first member in order of offsets whose range is impossible or meets the one before it. -/
def StoredStruct.corruption? (s : StoredStruct) (previous : Option StoredMember) :
    List StoredMember → Option Corruption
  | [] => none
  | m :: rest =>
    if m.size = 0 || (addWord? m.offset m.size).isNone then
      some (.range s.name m.name m.offset m.size)
    else
      match previous.filter (m.offset < ·.stop) with
      | some other => some (.overlap s.name other.name m.name)
      | none => s.corruption? (some m) rest

/-- The struct with its members in order of their offsets; members of one offset keep their
order. -/
def StoredStruct.sorted (s : StoredStruct) : StoredStruct :=
  { s with members := s.members.mergeSort (·.offset ≤ ·.offset) }

/-- The database that the text holds. -/
def Database.load (text : String) : Except HostError Database :=
  match Json.decode Database.shape.decoder text with
  | .error e => .error (.format e)
  | .ok db =>
    let db := { db with structs := db.structs.map StoredStruct.sorted }
    match db.structs.values.findSome? fun s => s.corruption? none s.members with
    | some fault => .error (.corrupt fault)
    | none => .ok db

end StructSync
