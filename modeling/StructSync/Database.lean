import StructSync.Host
import StructSync.WordMap

/-!
# The struct database

A host of its own: structs under ascending ids, each with its members in order of their offsets,
and a journal of every change made. Ids of structs and members come from one counter. A request
either succeeds as a whole or changes nothing: the functions here give the new database only on
success.
-/

namespace StructSync

/-- A change as the journal keeps it. -/
inductive HostCall where
  | createStruct (name : String)
  | deleteStruct (id : StructId)
  | createMember (struct : StructId) (name : String) (offset size : UInt64)
  | setMemberType (struct : StructId) (member : MemberId) (typeName : String)
deriving DecidableEq

structure StoredMember where
  id : MemberId
  name : String
  offset : UInt64
  size : UInt64
  flags : DataFlags
  typeName : Option String
deriving DecidableEq

/-- The offset behind the member's last byte. -/
def StoredMember.stop (m : StoredMember) : UInt64 := addClamped m.offset m.size

structure StoredStruct where
  id : StructId
  name : String
  members : List StoredMember
deriving DecidableEq

/-- The largest end of a member, zero if there is none. -/
def StoredStruct.size (s : StoredStruct) : UInt64 :=
  s.members.foldl (fun size m => max size m.stop) 0

structure Database where
  pointerSize : UInt64
  nextId : UInt64
  structs : WordMap StoredStruct
  journal : List HostCall
deriving DecidableEq

namespace Database

/-- The pointer size of a database that does not name one. -/
def defaultPointerSize : UInt64 := 8

/-- The first id that an empty database gives out. -/
def firstId : UInt64 := 0xFF000000

/-- A database without structs. -/
def empty (pointerSize : UInt64) : Database :=
  { pointerSize, nextId := firstId, structs := .empty, journal := [] }

variable (db : Database)

def get? (id : StructId) : Option StoredStruct := db.structs.get? id.value

/-- The struct of that name, the one of smallest id if there are several. -/
def findByName? (name : String) : Option StoredStruct := db.structs.values.find? (·.name == name)

/-- The struct of that id. -/
def get (id : StructId) : Except HostError StoredStruct :=
  match db.get? id with
  | some s => .ok s
  | none => .error (.unknownStruct id)

/-- The database with a call behind its journal. -/
def record (call : HostCall) : Database := { db with journal := db.journal ++ [call] }

/-- The database with its journal emptied. -/
def clearJournal : Database := { db with journal := [] }

def createStruct (name : String) : Except HostError (StructId × Database) :=
  if (db.findByName? name).isSome then .error (.nameCollision name)
  else
    let id : StructId := ⟨db.nextId⟩
    let structs := db.structs.insert id.value { id, name, members := [] }
    .ok (id, { db with nextId := db.nextId + 1, structs }.record (.createStruct name))

def deleteStruct (id : StructId) : Except HostError Database := do
  let _ ← db.get id
  .ok ({ db with structs := db.structs.erase id.value }.record (.deleteStruct id))

def structSize (id : StructId) : Except HostError UInt64 := do
  let s ← db.get id
  .ok s.size

def members (id : StructId) : Except HostError (List HostMember) := do
  let s ← db.get id
  .ok (s.members.map fun m => { id := m.id, name := m.name, start := m.offset, stop := m.stop })

/-- The members with one more, before the first that does not start earlier. -/
def insertMember (m : StoredMember) (members : List StoredMember) : List StoredMember :=
  members.takeWhile (·.offset < m.offset) ++ m :: members.dropWhile (·.offset < m.offset)

def createMember (id : StructId) (name : String) (offset size : UInt64) (flags : DataFlags) :
    Except HostError (MemberId × Database) := do
  if size = 0 then .error (.memberRejected name .zeroSize)
  else
    match addWord? offset size with
    | none => .error (.memberRejected name .endOverflow)
    | some stop =>
      let s ← db.get id
      if s.members.any (·.name == name) then .error (.memberRejected name .duplicateName)
      else
        match s.members.find? fun m => offset < m.stop && m.offset < stop with
        | some other => .error (.memberRejected name (.overlap offset stop other.name))
        | none =>
          let member : MemberId := ⟨db.nextId⟩
          let stored : StoredMember := { id := member, name, offset, size, flags, typeName := none }
          let s := { s with members := insertMember stored s.members }
          let structs := db.structs.insert id.value s
          .ok (member, { db with nextId := db.nextId + 1, structs }.record
            (.createMember id name offset size))

/-- The members with the type name put to the first that has the id. -/
def putTypeName (member : MemberId) (typeName : String) : List StoredMember → List StoredMember
  | [] => []
  | m :: rest =>
    if m.id = member then { m with typeName := some typeName } :: rest
    else m :: putTypeName member typeName rest

def setMemberType (id : StructId) (member : MemberId) (offset : UInt64) (type : CType) :
    Except HostError Database := do
  let s ← db.get id
  match s.members.find? (·.id == member) with
  | none => .error (.unknownMember member)
  | some m =>
    if m.offset ≠ offset then
      .error (.typeRejected member type.name (.wrongOffset m.offset offset))
    else if m.size ≠ type.size then
      .error (.typeRejected member type.name (.wrongSize type.size m.size))
    else
      let s := { s with members := putTypeName member type.name s.members }
      .ok ({ db with structs := db.structs.insert id.value s }.record
        (.setMemberType id member type.name))

/-- What declarations are resolved against in this database. -/
def scope : TypeScope :=
  { pointerSize := db.pointerSize, structSize? := fun name => (db.findByName? name).map (·.size) }

def parseType (text : String) : Except HostError CType :=
  (parseDeclaration db.scope text).mapError (.declaration text)

end Database

/-- What a request leaves behind: the new database, or on refusal the old one. -/
def Database.settle {α : Type} (db : Database) :
    Except HostError (α × Database) → Except HostError α × Database
  | .ok (answer, db) => (.ok answer, db)
  | .error e => (.error e, db)

instance : Host Database where
  findStruct? db name := (db.findByName? name).map (·.id)
  structSize := Database.structSize
  members := Database.members
  parseType := Database.parseType
  createStruct name db := db.settle (db.createStruct name)
  deleteStruct id db := db.settle ((db.deleteStruct id).map ((), ·))
  createMember id name offset size flags db := db.settle (db.createMember id name offset size flags)
  setMemberType id member offset type db :=
    db.settle ((db.setMemberType id member offset type).map ((), ·))

end StructSync
