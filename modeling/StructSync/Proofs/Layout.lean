import Mathlib
import StructSync.Proofs.Validation
import StructSync.Proofs.Database.Members

/-!
# Layouts in order

In order of their offsets the members of a layout lie one behind the other, as those of a sound
stored struct do. So both orders are determined by what stands in them (`eq_map_byOffset`), and
the two sizes agree if the ends do.
-/

namespace StructSync

instance rightCommutative_max : RightCommutative (max : UInt64 → UInt64 → UInt64) where
  right_comm a b c := by
    rw [← UInt64.toNat_inj]
    simp only [UInt64.toNat_max]
    exact max_right_comm _ _ _

namespace Member

theorem Apart.symm {a b : Member} (h : a.Apart b) : b.Apart a := ⟨h.1.symm, h.2.symm⟩

theorem addClamped_eq_stop (m : Member) : addClamped m.offset m.size = m.stop := by
  have := m.fits
  rw [← UInt64.toNat_inj, toNat_addClamped, m.toNat_stop]
  exact Nat.min_eq_left (Nat.le_sub_one_of_lt this)

end Member

namespace Layout

theorem byOffset_perm (l : Layout) : l.byOffset.Perm l.members := List.mergeSort_perm _ _

theorem ascending_of_perm {l : Layout} {ms : List Member} (hperm : ms.Perm l.members)
    (hsorted : ms.Pairwise fun a b => a.offset ≤ b.offset) :
    ms.Pairwise fun a b => a.stop ≤ b.offset := by
  have hapart : ms.Pairwise Member.Apart := (hperm.pairwise_iff fun h => h.symm).2 l.apart
  refine (hsorted.and hapart).imp fun {a b} h => h.2.2.resolve_right fun hba => ?_
  exact UInt64.lt_irrefl _
    (UInt64.lt_of_lt_of_le b.offset_lt_stop (UInt64.le_trans hba h.1))

theorem byOffset_ascending (l : Layout) : l.byOffset.Pairwise fun a b => a.stop ≤ b.offset :=
  ascending_of_perm l.byOffset_perm (pairwise_mergeSort_word Member.offset l.members)

theorem offset_lt_of_ascending {ms : List Member}
    (h : ms.Pairwise fun a b => a.stop ≤ b.offset) :
    ms.Pairwise fun a b => a.offset.toNat < b.offset.toNat :=
  h.imp fun {a _} h => UInt64.lt_iff_toNat_lt.1 (UInt64.lt_of_lt_of_le a.offset_lt_stop h)

theorem byOffset_lt (l : Layout) :
    l.byOffset.Pairwise fun a b => a.offset.toNat < b.offset.toNat :=
  offset_lt_of_ascending l.byOffset_ascending

/-- No two members share an offset, so there is one order only, however it is found. -/
theorem byOffset_eq_insertionSort (l : Layout) :
    l.byOffset = l.members.insertionSort fun a b => a.offset ≤ b.offset := by
  have htotal : Std.Total fun a b : Member => a.offset ≤ b.offset :=
    ⟨fun a b => UInt64.le_total a.offset b.offset⟩
  have htrans : IsTrans Member fun a b => a.offset ≤ b.offset :=
    ⟨fun _ _ _ => UInt64.le_trans⟩
  have hperm := List.perm_insertionSort (fun a b : Member => a.offset ≤ b.offset) l.members
  have hsorted := List.pairwise_insertionSort (fun a b : Member => a.offset ≤ b.offset) l.members
  exact eq_of_perm_of_ascending (·.offset.toNat) (l.byOffset_perm.trans hperm.symm) l.byOffset_lt
    (offset_lt_of_ascending (ascending_of_perm hperm hsorted))

end Layout

namespace StoredStruct

variable {s : StoredStruct} {l : Layout}

/-- If the members of a sound struct are those of the layout in some order, they are those of the
layout in order of their offsets. -/
theorem Sound.eq_map_byOffset {γ : Type} (h : s.Sound) {f : StoredMember → γ} {g : Member → γ}
    (key : γ → Nat) (hf : ∀ m, key (f m) = m.offset.toNat) (hg : ∀ m, key (g m) = m.offset.toNat)
    (hperm : (s.members.map f).Perm (l.members.map g)) : s.members.map f = l.byOffset.map g := by
  refine eq_of_perm_of_ascending key (hperm.trans (l.byOffset_perm.map g).symm) ?_ ?_
  · refine List.pairwise_map.2 (h.ranged.offset_lt.imp fun {a b} hab => ?_)
    rw [hf, hf]
    exact hab
  · refine List.pairwise_map.2 (l.byOffset_lt.imp fun {a b} hab => ?_)
    rw [hg, hg]
    exact hab

theorem size_eq_of_perm (h : (s.members.map (·.stop)).Perm (l.members.map (·.stop))) :
    s.size = l.size := by
  have hs : s.size = (s.members.map (·.stop)).foldl max 0 := by rw [List.foldl_map, size]
  have hl : l.size = (l.members.map (·.stop)).foldl max 0 := by rw [List.foldl_map, Layout.size]
  rw [hs, hl, h.foldl_eq]

end StoredStruct

end StructSync
