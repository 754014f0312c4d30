import Mathlib
import StructSync.Proofs.Database.Loaded

/-!
# Structs over time

Requests only store structs under ids that were never given out before. Main statement
(`Database.Later.stored_before`): a struct that is stored under an id from below the counter of an
earlier database was stored there at that time already, under the same name. So an id that is known
stands for one struct for ever, although the struct may be gone and its members may be others.
-/

namespace StructSync.Database

variable {db middle after : Database} {id : StructId} {s t : StoredStruct}

theorem stored_before_perform (r : Request) (hid : id.value ≠ db.nextId)
    (ht : (r.perform db).get? id = some t) : ∃ s, db.get? id = some s ∧ s.name = t.name := by
  rcases perform_cases r db with heq | hcase
  · exact ⟨t, heq ▸ ht, rfl⟩
  -- a struct that is put in the place of another has the name of that one
  have hput {k : StructId} {u v : StoredStruct} (hu : db.get? k = some u)
      (hv : (db.structs.insert k.value v).get? id.value = some t) (hname : u.name = v.name) :
      ∃ s, db.get? id = some s ∧ s.name = t.name := by
    rw [WordMap.get?_insert] at hv
    split at hv
    · next hkey =>
      obtain rfl := Option.some.inj hv
      exact ⟨u, (congrArg db.structs.get? hkey).trans hu, hname⟩
    · exact ⟨t, hv, rfl⟩
  rw [get?] at ht
  cases r with
  | createStruct name =>
    obtain ⟨created, hdb⟩ := hcase
    obtain ⟨-, rfl, hafter⟩ := createStruct_eq_ok.1 hdb
    rw [hafter, WordMap.get?_insert, if_neg hid] at ht
    exact ⟨t, ht, rfl⟩
  | deleteStruct deleted =>
    rw [(deleteStruct_eq_ok.1 hcase).2, WordMap.get?_erase] at ht
    split at ht
    · cases ht
    · exact ⟨t, ht, rfl⟩
  | createMember owner name offset size flags =>
    obtain ⟨member, hdb⟩ := hcase
    obtain ⟨u, hu, -, -, hafter⟩ := createMember_eq_ok.1 hdb
    rw [hafter] at ht
    exact hput hu ht rfl
  | setMemberType owner member offset type =>
    obtain ⟨u, -, hu, -, -, -, hafter⟩ := setMemberType_eq_ok.1 hcase
    rw [hafter] at ht
    exact hput hu ht rfl

namespace Later

theorem trans (h : db.Later middle) (h' : middle.Later after) : db.Later after := by
  induction h' with
  | refl => exact h
  | perform r _ hspare ih => exact ih.perform r hspare
  | clearJournal _ ih => exact ih.clearJournal

theorem next_le (h : db.Later after) : db.nextId.toNat ≤ after.nextId.toNat := by
  induction h with
  | refl => exact Nat.le_refl _
  | perform r _ hspare ih => exact ih.trans (next_perform r hspare).1
  | clearJournal _ ih => exact ih

theorem reachable (h : db.Later after) (hdb : db.Reachable) : after.Reachable := by
  induction h with
  | refl => exact hdb
  | perform r _ hspare ih => exact ih.perform r hspare
  | clearJournal _ ih => exact ih.clearJournal

theorem stored_before (h : db.Later after) (hid : id.value.toNat < db.nextId.toNat)
    (ht : after.get? id = some t) : ∃ s, db.get? id = some s ∧ s.name = t.name := by
  induction h generalizing t with
  | refl => exact ⟨t, ht, rfl⟩
  | perform r hlater _ ih =>
    have hne : id.value ≠ Database.nextId _ := fun he =>
      absurd (hid.trans_le hlater.next_le) (he ▸ Nat.lt_irrefl _)
    obtain ⟨u, hu, hname⟩ := stored_before_perform r hne ht
    obtain ⟨s, hs, hname'⟩ := ih hu
    exact ⟨s, hs, hname'.trans hname⟩
  | clearJournal _ ih => exact ih ht

end Later

end StructSync.Database
