import Mathlib
import StructSync.Proofs.Call

/-!
# Other ids

A permutation of the words gives other ids to everything that holds some: stored structs, journal
entries, errors, outcomes and descriptors. Names, ranges and reports stay. What a database computes
from a struct, and what a validation finds, is the same for the other ids.
-/

namespace StructSync

open Equiv (Perm)

/-! ### The actions -/

instance : MulAction (Perm UInt64) StructId where
  smul ρ id := ⟨ρ id.value⟩
  one_smul _ := rfl
  mul_smul _ _ _ := rfl

instance : MulAction (Perm UInt64) MemberId where
  smul ρ id := ⟨ρ id.value⟩
  one_smul _ := rfl
  mul_smul _ _ _ := rfl

instance : MulAction (Perm UInt64) StoredMember where
  smul ρ m := { m with id := ρ • m.id }
  one_smul _ := rfl
  mul_smul _ _ _ := rfl

instance : MulAction (Perm UInt64) HostMember where
  smul ρ m := { m with id := ρ • m.id }
  one_smul _ := rfl
  mul_smul _ _ _ := rfl

instance : MulAction (Perm UInt64) StoredStruct where
  smul ρ s := { s with id := ρ • s.id, members := s.members.map (ρ • ·) }
  one_smul s := congrArg (StoredStruct.mk s.id s.name) (List.map_id s.members)
  mul_smul ρ σ s := by
    show StoredStruct.mk _ _ (s.members.map ((ρ * σ) • ·)) =
      ⟨_, _, (s.members.map (σ • ·)).map (ρ • ·)⟩
    rw [List.map_map]
    rfl

instance : MulAction (Perm UInt64) HostCall where
  smul ρ
    | .createStruct name => .createStruct name
    | .deleteStruct id => .deleteStruct (ρ • id)
    | .createMember struct name offset size => .createMember (ρ • struct) name offset size
    | .setMemberType struct member typeName => .setMemberType (ρ • struct) (ρ • member) typeName
  one_smul call := by cases call <;> rfl
  mul_smul _ _ call := by cases call <;> rfl

instance : MulAction (Perm UInt64) HostError where
  smul ρ
    | .unknownStruct id => .unknownStruct (ρ • id)
    | .unknownMember id => .unknownMember (ρ • id)
    | .typeRejected member typeName fault => .typeRejected (ρ • member) typeName fault
    | e => e
  one_smul e := by cases e <;> rfl
  mul_smul _ _ e := by cases e <;> rfl

instance : MulAction (Perm UInt64) SyncError where
  smul ρ
    | .unresolvedType member declaration source => .unresolvedType member declaration (ρ • source)
    | .refusedMember member source => .refusedMember member (ρ • source)
    | .host source => .host (ρ • source)
    | e => e
  one_smul e := by cases e <;> first | rfl | exact congrArg _ (one_smul _ _)
  mul_smul ρ σ e := by cases e <;> first | rfl | exact congrArg _ (mul_smul ρ σ _)

/-- There is no id in a report. -/
instance : MulAction (Perm UInt64) Report where
  smul _ report := report
  one_smul _ := rfl
  mul_smul _ _ _ := rfl

instance : MulAction (Perm UInt64) Outcome where
  smul ρ
    | .accepted id => .accepted (ρ • id)
    | .created id => .created (ρ • id)
    | .recreated deleted recreation => .recreated (ρ • deleted) (ρ • recreation)
    | .needsConfirmation report => .needsConfirmation report
  one_smul outcome := by cases outcome <;> rfl
  mul_smul _ _ outcome := by cases outcome <;> rfl

instance : MulAction (Perm UInt64) Descriptor.State where
  smul ρ
    | .awaitingConfirmation existing report => .awaitingConfirmation (ρ • existing) report
    | .materialized id => .materialized (ρ • id)
    | state => state
  one_smul state := by cases state <;> rfl
  mul_smul _ _ state := by cases state <;> rfl

instance : MulAction (Perm UInt64) Bindings where
  smul ρ bindings := bindings.map fun b => (b.1, ρ • b.2)
  one_smul bindings := List.map_id bindings
  mul_smul ρ σ bindings := by
    show bindings.map (fun b => (b.1, (ρ * σ) • b.2)) =
      (bindings.map fun b => (b.1, σ • b.2)).map fun b => (b.1, ρ • b.2)
    rw [List.map_map]
    rfl

instance : MulAction (Perm UInt64) Descriptor where
  smul ρ d := { d with bindings := ρ • d.bindings, state := ρ • d.state }
  one_smul d := by
    show Descriptor.mk _ _ _ _ = _
    rw [one_smul, one_smul]
  mul_smul ρ σ d := by
    show Descriptor.mk _ _ _ _ = _
    rw [mul_smul, mul_smul]
    rfl

instance Except.instMulAction {G ε α : Type} [Monoid G] [MulAction G ε] [MulAction G α] :
    MulAction G (Except ε α) where
  smul g
    | .ok a => .ok (g • a)
    | .error e => .error (g • e)
  one_smul
    | .ok a => congrArg Except.ok (one_smul G a)
    | .error e => congrArg Except.error (one_smul G e)
  mul_smul g h
    | .ok a => congrArg Except.ok (mul_smul g h a)
    | .error e => congrArg Except.error (mul_smul g h e)

variable {ρ : Perm UInt64}

@[simp] theorem Except.smul_ok {G ε α : Type} [Monoid G] [MulAction G ε] [MulAction G α] (g : G)
    (a : α) : g • (.ok a : Except ε α) = .ok (g • a) := rfl

@[simp] theorem Except.smul_error {G ε α : Type} [Monoid G] [MulAction G ε] [MulAction G α] (g : G)
    (e : ε) : g • (.error e : Except ε α) = .error (g • e) := rfl

/-- All ids in it lie below, so whatever leaves the words below alone leaves it alone. -/
def Below {α : Type} [MulAction (Perm UInt64) α] (n : UInt64) (a : α) : Prop :=
  ∀ ρ : Perm UInt64, (∀ x, x < n → ρ x = x) → ρ • a = a

theorem Below.mono {α : Type} [MulAction (Perm UInt64) α] {n m : UInt64} {a : α} (h : Below n a)
    (hnm : n ≤ m) : Below m a :=
  fun ρ hρ => h ρ fun x hx => hρ x (UInt64.lt_of_lt_of_le hx hnm)

/-! ### What a database computes from a struct -/

namespace StoredStruct

variable {s : StoredStruct}

@[simp] theorem name_smul : (ρ • s).name = s.name := rfl

@[simp] theorem id_smul : (ρ • s).id = ρ • s.id := rfl

@[simp] theorem members_smul : (ρ • s).members = s.members.map (ρ • ·) := rfl

theorem size_smul : (ρ • s).size = s.size := by
  rw [size, members_smul, List.foldl_map]
  rfl

end StoredStruct

namespace Database

variable {members : List StoredMember}

theorem find?_smul (member : MemberId) :
    (members.map (ρ • ·)).find? (·.id == ρ • member) = ρ • members.find? (·.id == member) := by
  rw [List.find?_map]
  refine congrArg (Option.map (ρ • ·)) (congrArg (members.find? ·) (funext fun m => ?_))
  exact decide_eq_decide.2 (smul_left_cancel_iff ρ)

theorem reported_smul (s : StoredStruct) : reported (ρ • s) = (reported s).map (ρ • ·) := by
  rw [reported, reported, StoredStruct.members_smul, List.map_map, List.map_map]
  rfl

theorem Sound.below_lookup {db : Database} (h : db.Sound) (name : String) :
    Below db.nextId (db.findByName? name) := by
  intro ρ hρ
  cases hfind : db.findByName? name with
  | none => rfl
  | some s =>
    obtain ⟨hs, -⟩ := h.findByName?_eq_some.1 hfind
    have hid : ρ • s.id = s.id :=
      congrArg StructId.mk (hρ _ (UInt64.lt_iff_toNat_lt.2 (h.lt_next hs)))
    have hmembers : s.members.map (ρ • ·) = s.members := by
      refine (List.map_congr_left fun m hm => ?_).trans (List.map_id s.members)
      have hmember : ρ • m.id = m.id :=
        congrArg MemberId.mk (hρ _ (UInt64.lt_iff_toNat_lt.2 (h.member_lt hs hm)))
      exact congrArg (fun id => { m with id }) hmember
    exact congrArg some (congrArg₂ (StoredStruct.mk · s.name ·) hid hmembers)

end Database

/-! ### What a validation finds -/

namespace Descriptor

variable {d : Descriptor} {size : UInt64} {stored : List HostMember}

@[simp] theorem name_smul : (ρ • d).name = d.name := rfl

@[simp] theorem layout_smul : (ρ • d).layout = d.layout := rfl

@[simp] theorem state_smul : (ρ • d).state = ρ • d.state := rfl

theorem differences_smul :
    (ρ • d).differences size (stored.map (ρ • ·)) = d.differences size stored := by
  have hcomparison (l : Layout) :
      (stored.map (ρ • ·)).flatMap l.comparison = stored.flatMap l.comparison :=
    List.flatMap_map ..
  have hmissing (l : Layout) : missing l (stored.map (ρ • ·)) = missing l stored := by
    unfold missing
    simp only [List.any_map]
    rfl
  unfold differences
  rw [layout_smul, hcomparison, hmissing, List.length_map]
  rfl

theorem bound_smul :
    (ρ • d).bound size (stored.map (ρ • ·)) = ρ • d.bound size stored := by
  have hbinding (l : Layout) (m : HostMember) : l.binding (ρ • m) = ρ • l.binding m := by
    unfold Layout.binding
    rw [show l.find? (ρ • m).name = l.find? m.name from rfl]
    cases l.find? m.name with
    | none => rfl
    | some declared =>
      dsimp only
      rw [show declared.mismatches (ρ • m) = declared.mismatches m from rfl]
      split <;> rfl
  have hbindings (l : Layout) (stored : List HostMember) :
      (stored.map (ρ • ·)).flatMap l.binding = ρ • stored.flatMap l.binding := by
    rw [List.flatMap_map]
    simp only [hbinding]
    exact (List.map_flatMap ..).symm
  unfold bound
  rw [differences_smul, ← List.map_reverse, layout_smul, hbindings]
  split
  · exact (List.map_append ..).symm
  · rfl

end Descriptor

end StructSync
