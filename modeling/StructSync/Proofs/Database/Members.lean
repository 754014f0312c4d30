import Mathlib
import StructSync.Database

/-!
# The members of a stored struct

`StoredStruct.Sound`: the members of a struct have a size, end inside the range of addresses, stand
in order of their offsets without sharing a byte, and have different names and ids. Putting one
more member in its place keeps this if the member shares no byte, name or id with the others; giving
a member a type keeps it always. The size of a sound struct is the end of its last member.
-/

namespace StructSync

theorem eq_of_perm_of_ascending {γ : Type} (key : γ → Nat) {xs ys : List γ} (h : xs.Perm ys)
    (hxs : xs.Pairwise fun a b => key a < key b) (hys : ys.Pairwise fun a b => key a < key b) :
    xs = ys :=
  h.eq_of_pairwise (fun _ _ _ _ hab hba => absurd hab (Nat.lt_asymm hba)) hxs hys

theorem pairwise_mergeSort_word {γ : Type} (key : γ → UInt64) (l : List γ) :
    (l.mergeSort (key · ≤ key ·)).Pairwise fun a b => key a ≤ key b := by
  have h : (l.mergeSort (key · ≤ key ·)).Pairwise fun a b => decide (key a ≤ key b) = true := by
    refine List.pairwise_mergeSort (fun a b c hab hbc => ?_) (fun a b => ?_) l
    · simp only [decide_eq_true_eq] at hab hbc ⊢
      exact UInt64.le_trans hab hbc
    · simpa using UInt64.le_total (key a) (key b)
  exact h.imp of_decide_eq_true

namespace StoredMember

variable {m a b : StoredMember}

/-- The offset behind the last byte, as a number. -/
def stopNat (m : StoredMember) : Nat := m.offset.toNat + m.size.toNat

/-- The member has a size and ends inside the range of addresses. -/
structure Fits (m : StoredMember) : Prop where
  sized : m.size ≠ 0
  fits : m.stopNat < UInt64.size

theorem Fits.toNat_stop (h : m.Fits) : m.stop.toNat = m.stopNat := by
  have := h.fits
  rw [stop, toNat_addClamped]
  exact Nat.min_eq_left (by unfold stopNat at this; omega)

theorem Fits.size_pos (h : m.Fits) : 0 < m.size.toNat :=
  Nat.pos_of_ne_zero fun hz => h.sized (UInt64.toNat_inj.1 hz)

theorem Fits.offset_lt (h : m.Fits) : m.offset.toNat < m.stopNat := by
  have := h.size_pos
  unfold stopNat
  omega

end StoredMember

/-- The members as a sound struct has them. -/
structure StoredStruct.Sound (s : StoredStruct) : Prop where
  fits : ∀ m ∈ s.members, m.Fits
  ascending : s.members.Pairwise fun a b => a.stopNat ≤ b.offset.toNat
  names : (s.members.map (·.name)).Nodup
  ids : (s.members.map (·.id)).Nodup

/-- What a sound struct's members keep of it if names and ids are left aside. -/
structure StoredStruct.Ranged (s : StoredStruct) : Prop where
  fits : ∀ m ∈ s.members, m.Fits
  ascending : s.members.Pairwise fun a b => a.stopNat ≤ b.offset.toNat

namespace StoredStruct

variable {s : StoredStruct}

theorem sound_iff : s.Sound ↔
    s.Ranged ∧ (s.members.map (·.name)).Nodup ∧ (s.members.map (·.id)).Nodup :=
  ⟨fun h => ⟨⟨h.fits, h.ascending⟩, h.names, h.ids⟩,
    fun ⟨hranged, hnames, hids⟩ => ⟨hranged.fits, hranged.ascending, hnames, hids⟩⟩

theorem Sound.ranged (h : s.Sound) : s.Ranged := (sound_iff.1 h).1

theorem Ranged.offset_lt (h : s.Ranged) :
    s.members.Pairwise fun a b => a.offset.toNat < b.offset.toNat :=
  h.ascending.imp_of_mem fun {a _} ha _ hab => Nat.lt_of_lt_of_le (h.fits a ha).offset_lt hab

theorem foldl_stop_le {members : List StoredMember} {size : UInt64} {bound : Nat}
    (hsize : size.toNat ≤ bound) (h : ∀ m ∈ members, m.stop.toNat ≤ bound) :
    (members.foldl (fun size m => max size m.stop) size).toNat ≤ bound := by
  induction members generalizing size with
  | nil => exact hsize
  | cons m rest ih =>
    obtain ⟨hm, hrest⟩ := List.forall_mem_cons.1 h
    refine ih ?_ hrest
    rw [UInt64.toNat_max]
    exact max_le hsize hm

theorem Ranged.toNat_size (h : s.Ranged) :
    s.size.toNat = (s.members.getLast?.map StoredMember.stopNat).getD 0 := by
  rcases List.eq_nil_or_concat s.members with hnil | ⟨front, last, hfront⟩
  · rw [size, hnil]
    rfl
  · rw [List.concat_eq_append] at hfront
    obtain ⟨-, -, hcross⟩ := List.pairwise_append.1 (hfront ▸ h.ascending)
    have hlast : last.Fits := h.fits last (by simp [hfront])
    -- every other member ends where the last one starts, or earlier
    have hstops : ∀ m ∈ front, m.stop.toNat ≤ last.stopNat := by
      intro m hm
      have hmfits : m.Fits := h.fits m (by simp [hfront, hm])
      have hle : m.stopNat ≤ last.offset.toNat := hcross m hm last (by simp)
      rw [hmfits.toNat_stop]
      exact hle.trans hlast.offset_lt.le
    rw [size, hfront, List.foldl_append, List.foldl_cons, List.foldl_nil, UInt64.toNat_max,
      hlast.toNat_stop, List.getLast?_append]
    exact max_eq_right (foldl_stop_le (Nat.zero_le _) hstops)

end StoredStruct

namespace Database

variable {m : StoredMember} {members : List StoredMember}

/-! ### Putting a member in its place -/

theorem insertMember_perm (m : StoredMember) (members : List StoredMember) :
    (insertMember m members).Perm (m :: members) := by
  have h : insertMember m members =
    members.takeWhile (·.offset < m.offset) ++ m :: members.dropWhile (·.offset < m.offset) := rfl
  rw [h]
  refine List.perm_middle.trans ?_
  rw [List.takeWhile_append_dropWhile]

theorem mem_insertMember {x : StoredMember} : x ∈ insertMember m members ↔ x = m ∨ x ∈ members := by
  rw [(insertMember_perm m members).mem_iff, List.mem_cons]

/-- Behind the place of a new member every member starts at its offset or later. -/
theorem le_offset_of_mem_dropWhile {x : StoredMember} {offset : UInt64}
    (hsorted : members.Pairwise fun a b => a.offset.toNat ≤ b.offset.toNat)
    (hx : x ∈ members.dropWhile (·.offset < offset)) : offset.toNat ≤ x.offset.toNat := by
  induction members with
  | nil => simp at hx
  | cons head tail ih =>
    obtain ⟨hhead, htail⟩ := List.pairwise_cons.1 hsorted
    by_cases hlt : head.offset < offset
    · rw [List.dropWhile_cons_of_pos (by simpa using hlt)] at hx
      exact ih htail hx
    · rw [List.dropWhile_cons_of_neg (by simpa using hlt)] at hx
      have hle : offset.toNat ≤ head.offset.toNat := UInt64.le_iff_toNat_le.1 (UInt64.not_lt.1 hlt)
      rcases List.mem_cons.1 hx with rfl | hx
      · exact hle
      · exact hle.trans (hhead x hx)

theorem pairwise_insertMember (hm : m.Fits) (hfits : ∀ x ∈ members, x.Fits)
    (hsorted : members.Pairwise fun a b => a.stopNat ≤ b.offset.toNat)
    (hfree : ∀ x ∈ members, x.stopNat ≤ m.offset.toNat ∨ m.stopNat ≤ x.offset.toNat) :
    (insertMember m members).Pairwise fun a b => a.stopNat ≤ b.offset.toNat := by
  have hbefore : ∀ x ∈ members.takeWhile (·.offset < m.offset), x.stopNat ≤ m.offset.toNat := by
    intro x hx
    have hlt : x.offset.toNat < m.offset.toNat :=
      UInt64.lt_iff_toNat_lt.1 (by simpa using List.mem_takeWhile_imp hx)
    have := hm.offset_lt
    rcases hfree x ((List.takeWhile_sublist _).mem hx) with h | h <;> omega
  have hafter : ∀ x ∈ members.dropWhile (·.offset < m.offset), m.stopNat ≤ x.offset.toNat := by
    intro x hx
    have hmem : x ∈ members := (List.dropWhile_sublist _).mem hx
    have hoffsets : members.Pairwise fun a b => a.offset.toNat ≤ b.offset.toNat :=
      hsorted.imp_of_mem fun {a b} ha _ hab => (hfits a ha).offset_lt.le.trans hab
    have hle := le_offset_of_mem_dropWhile hoffsets hx
    have := (hfits x hmem).offset_lt
    rcases hfree x hmem with h | h <;> omega
  have hparts := hsorted
  rw [← List.takeWhile_append_dropWhile (p := (·.offset < m.offset)) (l := members)] at hparts
  obtain ⟨hfront, hback, hcross⟩ := List.pairwise_append.1 hparts
  refine List.pairwise_append.2 ⟨hfront, List.pairwise_cons.2 ⟨hafter, hback⟩, ?_⟩
  intro a ha b hb
  rcases List.mem_cons.1 hb with rfl | hb
  · exact hbefore a ha
  · exact hcross a ha b hb

theorem insertMember_map (f : StoredMember → StoredMember) (hf : ∀ x, (f x).offset = x.offset)
    (m : StoredMember) (members : List StoredMember) :
    insertMember (f m) (members.map f) = (insertMember m members).map f := by
  have hplace : (fun x => decide (x.offset < (f m).offset)) ∘ f =
      fun x => decide (x.offset < m.offset) := funext fun x => by simp only [Function.comp, hf]
  rw [insertMember, List.takeWhile_map, List.dropWhile_map, hplace, insertMember, List.map_append,
    List.map_cons]

/-! ### Giving a member a type -/

theorem putTypeName_map (f : StoredMember → StoredMember) {id id' : MemberId}
    (hid : ∀ x, (f x).id = id' ↔ x.id = id)
    (hf : ∀ (x : StoredMember) t, f { x with typeName := t } = { f x with typeName := t })
    (name : String) (members : List StoredMember) :
    putTypeName id' name (members.map f) = (putTypeName id name members).map f := by
  induction members with
  | nil => rfl
  | cons head tail ih =>
    rw [List.map_cons, putTypeName, putTypeName]
    by_cases hhead : head.id = id
    · rw [if_pos ((hid head).2 hhead), if_pos hhead]
      exact congrArg (· :: tail.map f) (hf head (some name)).symm
    · rw [if_neg fun h => hhead ((hid head).1 h), if_neg hhead, List.map_cons, ih]

theorem map_putTypeName {α : Type} (f : StoredMember → α)
    (hf : ∀ (m : StoredMember) t, f { m with typeName := t } = f m) (id : MemberId)
    (name : String) :
    (putTypeName id name members).map f = members.map f := by
  induction members with
  | nil => rfl
  | cons head tail ih =>
    unfold putTypeName
    split
    · rw [List.map_cons, List.map_cons, hf]
    · rw [List.map_cons, List.map_cons, ih]

theorem putTypeName_insertMember (name : String) (h : ∀ x ∈ members, x.id ≠ m.id) :
    putTypeName m.id name (insertMember m members) =
      insertMember { m with typeName := some name } members := by
  unfold insertMember
  have hfront : ∀ x ∈ members.takeWhile (·.offset < m.offset), x.id ≠ m.id :=
    fun x hx => h x ((List.takeWhile_sublist _).mem hx)
  generalize members.takeWhile (·.offset < m.offset) = front at hfront
  induction front with
  | nil => simp [putTypeName]
  | cons head tail ih =>
    rw [List.cons_append, putTypeName, if_neg (hfront head (by simp)),
      ih fun x hx => hfront x (by simp [hx])]
    rfl

end Database

namespace StoredStruct

variable {s t : StoredStruct} {m : StoredMember}

namespace Ranged

theorem nil (id : StructId) (name : String) : Ranged ⟨id, name, []⟩ := ⟨by simp, .nil⟩

theorem insertMember (h : s.Ranged) (hm : m.Fits)
    (hfree : ∀ x ∈ s.members, x.stopNat ≤ m.offset.toNat ∨ m.stopNat ≤ x.offset.toNat) :
    Ranged { s with members := Database.insertMember m s.members } where
  fits x hx := by
    rcases Database.mem_insertMember.1 hx with rfl | hx
    · exact hm
    · exact h.fits x hx
  ascending := Database.pairwise_insertMember hm h.fits h.ascending hfree

theorem of_map_eq (h : s.Ranged)
    (heq : t.members.map (fun m => (m.offset, m.size)) =
      s.members.map fun m => (m.offset, m.size)) : t.Ranged := by
  refine ⟨fun m hm => ?_, ?_⟩
  · obtain ⟨x, hx, hxm⟩ := List.mem_map.1 (heq ▸ List.mem_map_of_mem hm)
    simp only [Prod.mk.injEq] at hxm
    obtain ⟨hoffset, hsize⟩ := hxm
    have := h.fits x hx
    exact ⟨hsize ▸ this.sized, by simpa [StoredMember.stopNat, hoffset, hsize] using this.fits⟩
  · have hpairs : (t.members.map fun m => (m.offset, m.size)).Pairwise
        fun a b => a.1.toNat + a.2.toNat ≤ b.1.toNat := by
      rw [heq]
      exact List.pairwise_map.2 h.ascending
    exact List.pairwise_map.1 hpairs

theorem putTypeName (h : s.Ranged) (id : MemberId) (name : String) :
    Ranged { s with members := Database.putTypeName id name s.members } :=
  h.of_map_eq (Database.map_putTypeName _ (fun _ _ => rfl) id name)

end Ranged

namespace Sound

theorem nil (id : StructId) (name : String) : Sound ⟨id, name, []⟩ :=
  sound_iff.2 ⟨.nil id name, .nil, .nil⟩

theorem insertMember (h : s.Sound) (hm : m.Fits) (hname : ∀ x ∈ s.members, x.name ≠ m.name)
    (hid : ∀ x ∈ s.members, x.id ≠ m.id)
    (hfree : ∀ x ∈ s.members, x.stopNat ≤ m.offset.toNat ∨ m.stopNat ≤ x.offset.toNat) :
    Sound { s with members := Database.insertMember m s.members } := by
  refine sound_iff.2 ⟨h.ranged.insertMember hm hfree, ?_, ?_⟩
  · refine (((Database.insertMember_perm m s.members).map _).nodup_iff).2 ?_
    refine List.nodup_cons.2 ⟨fun hmem => ?_, h.names⟩
    obtain ⟨x, hx, hxm⟩ := List.mem_map.1 hmem
    exact hname x hx hxm
  · refine (((Database.insertMember_perm m s.members).map _).nodup_iff).2 ?_
    refine List.nodup_cons.2 ⟨fun hmem => ?_, h.ids⟩
    obtain ⟨x, hx, hxm⟩ := List.mem_map.1 hmem
    exact hid x hx hxm

theorem putTypeName (h : s.Sound) (id : MemberId) (name : String) :
    Sound { s with members := Database.putTypeName id name s.members } := by
  refine sound_iff.2 ⟨h.ranged.putTypeName id name, ?_, ?_⟩
  · rw [Database.map_putTypeName _ (fun _ _ => rfl)]
    exact h.names
  · rw [Database.map_putTypeName _ (fun _ _ => rfl)]
    exact h.ids

end Sound

end StoredStruct

end StructSync
