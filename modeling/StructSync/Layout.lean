import StructSync.Member

/-!
# Layouts

A layout is a list of members, in the order they are declared, that have different names and share
no byte. Its size is the largest end of a member.
-/

namespace StructSync

/-- The members of a struct in the order of their declaration. -/
structure Layout where
  members : List Member
  apart : members.Pairwise Member.Apart
deriving DecidableEq

namespace Layout

def empty : Layout := ⟨[], .nil⟩

/-- The largest end of a member, zero if there is none. -/
def size (l : Layout) : UInt64 := l.members.foldl (fun size m => max size m.stop) 0

/-- The member of that name. -/
def find? (l : Layout) (name : String) : Option Member := l.members.find? (·.name == name)

/-- The layout with one more member behind the others, unless its name or a byte of it is taken. -/
def add (l : Layout) (m : Member) : Except SyncError Layout :=
  match hname : l.find? m.name with
  | some _ => .error (.duplicateMember m.struct m.name)
  | none =>
    match hrange : l.members.find? m.overlaps with
    | some other => .error (.overlappingMember m.struct m.name other.name)
    | none =>
      .ok {
        members := l.members ++ [m]
        apart := by
          refine List.pairwise_append.2 ⟨l.apart, by simp, fun a ha b hb => ?_⟩
          obtain rfl := List.mem_singleton.1 hb
          have hne := List.find?_eq_none.1 hname a ha
          have hfree := List.find?_eq_none.1 hrange a ha
          have h := Member.apart_of_not_overlaps (a := b) (b := a)
            (fun h => hne (by simp [h])) hfree
          exact ⟨fun h' => h.1 h'.symm, h.2.symm⟩ }

/-- The members in order of their offsets. -/
def byOffset (l : Layout) : List Member := l.members.mergeSort (·.offset ≤ ·.offset)

end Layout

end StructSync
