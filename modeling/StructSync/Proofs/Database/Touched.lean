import Mathlib
import StructSync.Proofs.Creation

/-!
# One name touched

`Database.Touched`: two sound databases that answer alike for every name but one. A creation and a
deletion touch the name of their struct only.
-/

namespace StructSync.Database

/-- The database after differs under one name only, and in at most `n` ids given out. -/
structure Touched (db : Database) (name : String) (n : Nat) (after : Database) : Prop where
  sound : after.Sound
  pointerSize : after.pointerSize = db.pointerSize
  next_le : after.nextId.toNat ≤ db.nextId.toNat + n
  others : ∀ {other}, other ≠ name → after.findByName? other = db.findByName? other

variable {db middle after : Database} {name other : String} {id : StructId} {s t : StoredStruct}
  {m n : Nat}

theorem findByName?_congr (h : db.Sound) (h' : after.Sound)
    (hget : ∀ k s, s.name = name → (after.structs.get? k = some s ↔ db.structs.get? k = some s)) :
    after.findByName? name = db.findByName? name := by
  refine Option.ext fun s => ?_
  rw [h.findByName?_eq_some, h'.findByName?_eq_some]
  exact ⟨fun ⟨hs, hname⟩ => ⟨(hget _ _ hname).1 hs, hname⟩,
    fun ⟨hs, hname⟩ => ⟨(hget _ _ hname).2 hs, hname⟩⟩

namespace Touched

theorem refl (h : db.Sound) (name : String) (n : Nat) : db.Touched name n db :=
  ⟨h, rfl, Nat.le_add_right _ _, fun _ => rfl⟩

theorem trans (h : db.Touched name m middle) (h' : middle.Touched name n after) :
    db.Touched name (m + n) after where
  sound := h'.sound
  pointerSize := h'.pointerSize.trans h.pointerSize
  next_le := by
    have := h.next_le
    have := h'.next_le
    omega
  others hne := (h'.others hne).trans (h.others hne)

theorem spare (h : db.Touched name m after) (hspare : db.Spare (m + n)) : after.Spare n := by
  have := h.next_le
  unfold Spare at *
  omega

/-- What grows under an id that was free touches its own name. -/
theorem of_grown (h : db.Sound) (hfree : db.get? id = none) (hgrown : db.Grown id s n after t) :
    db.Touched s.name n after where
  sound := hgrown.sound
  pointerSize := hgrown.pointerSize
  next_le := hgrown.next_le
  others hne := by
    refine findByName?_congr h hgrown.sound fun k u hu => ?_
    rw [hgrown.structs, WordMap.get?_insert]
    by_cases hk : k = id.value
    · rw [if_pos hk, hk, show db.structs.get? id.value = none from hfree]
      refine ⟨fun heq => ?_, nofun⟩
      obtain rfl := Option.some.inj heq
      exact absurd (hu.symm.trans hgrown.name) hne
    · rw [if_neg hk]

theorem deleteStruct (h : db.Sound) (hs : db.get? id = some s)
    (hdb : db.deleteStruct id = .ok after) : db.Touched s.name 0 after := by
  have hsound := h.deleteStruct hdb
  obtain ⟨-, rfl⟩ := deleteStruct_eq_ok.1 hdb
  refine ⟨hsound, rfl, Nat.le_refl _, fun hne => findByName?_congr h hsound fun k t ht => ?_⟩
  rw [WordMap.get?_erase]
  by_cases hk : k = id.value
  · rw [if_pos hk, hk, show db.structs.get? id.value = some s from hs]
    refine ⟨nofun, fun heq => ?_⟩
    obtain rfl := Option.some.inj heq
    exact absurd ht.symm hne
  · rw [if_neg hk]

end Touched

end StructSync.Database
