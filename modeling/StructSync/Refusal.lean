import StructSync.Host

/-!
# Refusing hosts

A host with some of its requests refused, whatever the host itself would say to them. All else is
passed on.
-/

namespace StructSync

/-- What is refused. -/
structure Refusal where
  /-- the names under which no member is created -/
  members : List String
  /-- the names of the types that are given to no member -/
  types : List String
  /-- whether no struct is deleted -/
  delete : Bool
  /-- the declarations that stand for a type without a size -/
  unsized : List String
deriving DecidableEq

/-- Nothing is refused. -/
def Refusal.none : Refusal := ⟨[], [], false, []⟩

/-- A host, and what it refuses. -/
structure RefusingHost (σ : Type) where
  host : σ
  refusal : Refusal

namespace RefusingHost

variable {α σ : Type}

/-- A request passed on to the host. -/
def pass (change : σ → α × σ) (r : RefusingHost σ) : α × RefusingHost σ :=
  let (answer, host) := change r.host
  (answer, { r with host })

instance [Host σ] : Host (RefusingHost σ) where
  findStruct? r := Host.findStruct? r.host
  structSize r := Host.structSize r.host
  members r := Host.members r.host
  parseType r text :=
    if r.refusal.unsized.contains text then .ok ⟨0, text, .integer⟩
    else Host.parseType r.host text
  createStruct name := pass (Host.createStruct name)
  deleteStruct id r :=
    if r.refusal.delete then (.error (.unknownStruct id), r) else pass (Host.deleteStruct id) r
  createMember id name offset size flags r :=
    if r.refusal.members.contains name then (.error (.memberRejected name .refused), r)
    else pass (Host.createMember id name offset size flags) r
  setMemberType id member offset type r :=
    if r.refusal.types.contains type.name then
      (.error (.typeRejected member type.name .refused), r)
    else pass (Host.setMemberType id member offset type) r

end RefusingHost

end StructSync
