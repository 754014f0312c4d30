import Mathlib
import StructSync.Proofs.Exchange
import StructSync.Proofs.Renamed

/-!
# Descriptors side by side

Descriptors of different names work on one database that fails at the same requests all the time.
Main statement (`Shared.interleavings_agree`): in whatever order their calls are interleaved, each
call gets the same answer and records the same changes, each descriptor comes to the same state and
the database to the same structs, but for a renaming of the ids that are given out meanwhile.
-/

namespace StructSync

open Equiv (Perm)
open Work Descriptor

/-- What a call gives, and the calls that it adds to the journal. -/
structure Answer where
  result : Except SyncError Outcome
  recorded : List HostCall
deriving DecidableEq

instance : MulAction (Perm UInt64) Answer where
  smul ρ a := ⟨ρ • a.result, a.recorded.map (ρ • ·)⟩
  one_smul a := by
    show Answer.mk _ (a.recorded.map ((1 : Perm UInt64) • ·)) = _
    simp only [one_smul, List.map_id']
  mul_smul ρ σ a := by
    show Answer.mk _ (a.recorded.map ((ρ * σ) • ·)) =
      ⟨ρ • σ • a.result, (a.recorded.map (σ • ·)).map (ρ • ·)⟩
    simp only [mul_smul, List.map_map]
    rfl

/-- Descriptors that work on one database. -/
structure Shared (ι : Type) where
  descriptors : ι → Descriptor
  host : FaultyDatabase

namespace Shared

variable {ι : Type} [DecidableEq ι]

/-- The answer to a call on one of the descriptors, and everything after it. -/
def step (w : Shared ι) (call : ι × Call) : Answer × Shared ι :=
  let after := call.2.run (w.descriptors call.1) w.host
  (⟨after.1.1, after.2.db.journal.drop w.host.db.journal.length⟩,
    ⟨Function.update w.descriptors call.1 after.1.2, after.2⟩)

/-- The answers to the calls in order, each with the descriptor it was for, and everything after
them. -/
def run (w : Shared ι) : List (ι × Call) → List (ι × Answer) × Shared ι
  | [] => ([], w)
  | call :: rest =>
    ((call.1, (w.step call).1) :: ((w.step call).2.run rest).1, ((w.step call).2.run rest).2)

/-- The answers that one descriptor gets. -/
def answers (w : Shared ι) (calls : List (ι × Call)) (i : ι) : List Answer :=
  ((w.run calls).1.filter (·.1 = i)).map Prod.snd

omit [DecidableEq ι] in
/-- The counter of the database. -/
def next (w : Shared ι) : UInt64 := w.host.db.nextId

/-- The ids that a call on the descriptor takes at most. -/
def ids (w : Shared ι) (i : ι) : Nat := (w.descriptors i).layout.members.length + 1

/-- The ids that the calls take at most. -/
def idsOfAll (w : Shared ι) (calls : List (ι × Call)) : Nat := (calls.map fun c => w.ids c.1).sum

/-- What holds as long as only calls are made: the database is made by requests, no two descriptors
have one name, each asks about a struct of its name if it asks, and has ids that were given out. -/
structure Orderly (w : Shared ι) : Prop where
  reachable : w.host.db.Reachable
  names : ∀ {i j}, (w.descriptors i).name = (w.descriptors j).name → i = j
  asked : ∀ i, (w.descriptors i).AskedOf w.host.db
  below : ∀ i, Below w.next (w.descriptors i)

variable {w w' : Shared ι} {i j : ι} {c : Call} {ρ : Perm UInt64} {δ : UInt64}

/-! ### One step -/

theorem step_self : (w.step (i, c)).2.descriptors i = (c.run (w.descriptors i) w.host).1.2 :=
  Function.update_self ..

theorem step_other (hij : i ≠ j) : (w.step (i, c)).2.descriptors j = w.descriptors j :=
  Function.update_of_ne (Ne.symm hij) ..

theorem alike_step (call : ι × Call) (i : ι) :
    Call.Alike ((w.step call).2.descriptors i) (w.descriptors i) := by
  by_cases hi : call.1 = i
  · subst hi
    rw [show call = (call.1, call.2) from rfl, step_self]
    exact call.2.run_alike _ _
  · rw [show call = (call.1, call.2) from rfl, step_other hi]
    exact ⟨rfl, rfl⟩

theorem ids_step (call : ι × Call) : (w.step call).2.ids = w.ids :=
  funext fun i => by rw [ids, ids, (alike_step call i).2]

theorem Orderly.step_touched (h : Orderly w) (hspare : w.host.db.Spare (w.ids i)) (c : Call) :
    (w.step (i, c)).2.host.faults = w.host.faults ∧
      w.host.db.Touched (w.descriptors i).name (w.ids i) (w.step (i, c)).2.host.db := by
  obtain ⟨after, hafter, htouched⟩ :=
    Call.run_touches (F := w.host.faults) h.reachable hspare (h.asked i) c
  rw [show (w.step (i, c)).2.host = ⟨after, w.host.faults⟩ from hafter]
  exact ⟨rfl, htouched⟩

theorem later_step (hspare : w.host.db.Spare (w.ids i)) (c : Call) :
    w.host.db.Later (w.step (i, c)).2.host.db := by
  obtain ⟨requests, hrequests, hids, -⟩ := c.run_requests (w.descriptors i) w.host
  rw [show (w.step (i, c)).2.host = _ from hrequests]
  exact FaultyDatabase.later_performAll (hspare.mono hids)

theorem next_le_step (hspare : w.host.db.Spare (w.ids i)) (c : Call) :
    w.next ≤ (w.step (i, c)).2.next :=
  UInt64.le_iff_toNat_le.2 (later_step hspare c).next_le

/-- What a call on the descriptor depends on is the same but for a renaming of ids. -/
structure SameFor (ρ : Perm UInt64) (δ : UInt64) (i : ι) (w w' : Shared ι) : Prop where
  faults : w'.host.faults = w.host.faults
  descriptor : w'.descriptors i = ρ • w.descriptors i
  next : w'.next = w.next + δ
  lookup : w'.host.db.findByName? (w.descriptors i).name =
    ρ • w.host.db.findByName? (w.descriptors i).name

theorem SameFor.after_step (h : SameFor ρ δ i w w') (hw : Orderly w) (hw' : Orderly w')
    (hspare : w.host.db.Spare (w.ids i)) (hspare' : w'.host.db.Spare (w.ids i))
    (hmoves : Moves ρ δ w.next (w.step (i, c)).2.next) :
    (w'.step (i, c)).1 = ρ • (w.step (i, c)).1 ∧
      SameFor ρ δ i (w.step (i, c)).2 (w'.step (i, c)).2 := by
  have hunder : Database.SameUnder ρ δ w.host.db.journal w'.host.db.journal
      (w.descriptors i).name w.host.db w'.host.db :=
    ⟨h.next, h.lookup, [], (List.append_nil _).symm, (List.append_nil _).symm⟩
  have hasked' : (ρ • w.descriptors i).AskedOf w'.host.db := h.descriptor ▸ hw'.asked i
  obtain ⟨hfaults, -⟩ := hw.step_touched hspare c
  rcases hrun : c.run (w.descriptors i) w.host with ⟨answer, ⟨after, F⟩⟩
  have hstep : w.step (i, c) = (⟨answer.1, after.journal.drop w.host.db.journal.length⟩,
      ⟨Function.update w.descriptors i answer.2, ⟨after, F⟩⟩) := by
    rw [step, hrun]
  rw [hstep] at hfaults hmoves ⊢
  obtain rfl : F = w.host.faults := hfaults
  have hhost' : w'.host = ⟨w'.host.db, w.host.faults⟩ := by rw [← h.faults]
  obtain ⟨after', hrun', hafter⟩ := c.run_renamed hunder hw.reachable hw'.reachable hspare hspare'
    (hw.asked i) hasked' hrun hmoves
  have hstep' : w'.step (i, c) = (⟨ρ • answer.1, after'.journal.drop w'.host.db.journal.length⟩,
      ⟨Function.update w'.descriptors i (ρ • answer.2), ⟨after', w.host.faults⟩⟩) := by
    rw [step, h.descriptor, hhost', hrun']
    rfl
  obtain ⟨calls, hcalls, hcalls'⟩ := hafter.recorded
  have halike := c.run_alike (w.descriptors i) w.host
  rw [hrun] at halike
  rw [hstep']
  refine ⟨?_, rfl, ?_, hafter.next, ?_⟩
  · rw [hcalls, hcalls', List.drop_left, List.drop_left]
    rfl
  · dsimp only
    rw [Function.update_self, Function.update_self]
  · dsimp only
    rw [Function.update_self, halike.1]
    exact hafter.lookup

omit [DecidableEq ι] in
theorem Orderly.sameFor_self (h : Orderly w) (hρ : ∀ x, x < w.next → ρ x = x) (i : ι) :
    SameFor ρ 0 i w w :=
  ⟨rfl, (h.below i ρ hρ).symm, (UInt64.add_zero _).symm,
    (h.reachable.sound.below_lookup _ ρ hρ).symm⟩

/-- What comes out of a call has ids that were given out. -/
theorem Orderly.step_below (h : Orderly w) (hspare : w.host.db.Spare (w.ids i)) (c : Call) :
    Below (w.step (i, c)).2.next (w.step (i, c)).1 ∧
      Below (w.step (i, c)).2.next ((w.step (i, c)).2.descriptors i) := by
  have hsame {ρ : Perm UInt64} (hρ : ∀ x, x < (w.step (i, c)).2.next → ρ x = x) :=
    (h.sameFor_self (fun x hx => hρ x (UInt64.lt_of_lt_of_le hx (next_le_step hspare c))) i).after_step
      (c := c) h h hspare hspare fun x _ hx => (hρ x hx).trans (UInt64.add_zero x).symm
  exact ⟨fun ρ hρ => (hsame hρ).1.symm, fun ρ hρ => (hsame hρ).2.descriptor.symm⟩

theorem Orderly.after_step (h : Orderly w) (hspare : w.host.db.Spare (w.ids i)) (c : Call) :
    Orderly (w.step (i, c)).2 where
  reachable := (later_step hspare c).reachable h.reachable
  names {j k} hname := h.names <| by rwa [(alike_step _ j).1, (alike_step _ k).1] at hname
  asked j := by
    by_cases hij : i = j
    · subst hij
      rw [step_self]
      exact AskedOf.later (.run h.reachable (h.asked i) c) (later_step hspare c)
    · rw [step_other hij]
      exact AskedOf.later (h.asked j) (later_step hspare c)
  below j := by
    by_cases hij : i = j
    · exact hij ▸ (h.step_below hspare c).2
    · rw [step_other hij]
      exact (h.below j).mono (next_le_step hspare c)

/-- Everything is the same but for a renaming of ids. -/
structure Renamed (ρ : Perm UInt64) (w w' : Shared ι) : Prop where
  faults : w'.host.faults = w.host.faults
  pointerSize : w'.host.db.pointerSize = w.host.db.pointerSize
  next : w'.next = w.next
  descriptors : ∀ i, w'.descriptors i = ρ • w.descriptors i
  lookup : ∀ name, w'.host.db.findByName? name = ρ • w.host.db.findByName? name

omit [DecidableEq ι] in
theorem Renamed.refl (w : Shared ι) : Renamed 1 w w :=
  ⟨rfl, rfl, rfl, fun i => (one_smul _ (w.descriptors i)).symm, fun _ => (one_smul _ _).symm⟩

omit [DecidableEq ι] in
theorem Renamed.trans {σ : Perm UInt64} {w'' : Shared ι} (h : Renamed ρ w w')
    (h' : Renamed σ w' w'') : Renamed (σ * ρ) w w'' where
  faults := h'.faults.trans h.faults
  pointerSize := h'.pointerSize.trans h.pointerSize
  next := h'.next.trans h.next
  descriptors i := by rw [h'.descriptors i, h.descriptors i, mul_smul]
  lookup name := by rw [h'.lookup name, h.lookup name, mul_smul]

theorem Renamed.after_step (h : Renamed ρ w w') (hw : Orderly w) (hw' : Orderly w')
    (hspare : w.host.db.Spare (w.ids i)) (hρ : ∀ x, w.next ≤ x → ρ x = x) (c : Call) :
    (w'.step (i, c)).1 = ρ • (w.step (i, c)).1 ∧
      Renamed ρ (w.step (i, c)).2 (w'.step (i, c)).2 := by
  have hids : w'.ids i = w.ids i := by rw [ids, h.descriptors i, layout_smul, ids]
  have hspare' : w'.host.db.Spare (w.ids i) := hspare.of_next_eq h.next
  have hzero (x : UInt64) : x = x + 0 := (UInt64.add_zero x).symm
  have hbefore : SameFor ρ 0 i w w' :=
    ⟨h.faults, h.descriptors i, h.next.trans (hzero _), h.lookup _⟩
  obtain ⟨hanswer, hsame⟩ := hbefore.after_step (c := c) hw hw' hspare hspare' fun x hx _ =>
    (hρ x hx).trans (hzero x)
  obtain ⟨-, htouched⟩ := hw.step_touched hspare c
  obtain ⟨-, htouched'⟩ := hw'.step_touched (hids ▸ hspare') c
  refine ⟨hanswer, hsame.faults, ?_, hsame.next.trans (hzero _).symm, fun j => ?_, fun name => ?_⟩
  · rw [htouched.pointerSize, htouched'.pointerSize, h.pointerSize]
  · by_cases hij : i = j
    · exact hij ▸ hsame.descriptor
    · rw [step_other hij, step_other hij]
      exact h.descriptors j
  · by_cases hname : name = (w.descriptors i).name
    · subst hname
      rw [← (alike_step (i, c) i).1]
      exact hsame.lookup
    · have hname' : name ≠ (w'.descriptors i).name := by rwa [h.descriptors i, name_smul]
      rw [htouched.others hname, htouched'.others hname']
      exact h.lookup name

/-! ### Two calls exchanged -/

/-- For one descriptor a call on another one changes nothing but the counter. -/
theorem Orderly.sameFor_other (h : Orderly w) (hij : i ≠ j) (hspare : w.host.db.Spare (w.ids j))
    (c : Call) (hρ : ∀ x, x < w.next → ρ x = x) :
    SameFor ρ ((w.step (j, c)).2.next - w.next) i w (w.step (j, c)).2 := by
  obtain ⟨hfaults, htouched⟩ := h.step_touched hspare c
  have hname : (w.descriptors i).name ≠ (w.descriptors j).name := fun he => hij (h.names he)
  have hself := h.sameFor_self hρ i
  refine ⟨hfaults, ?_, ?_, ?_⟩
  · rw [step_other (Ne.symm hij)]
    exact hself.descriptor
  · rw [UInt64.add_comm, UInt64.sub_add_cancel]
  · rw [htouched.others hname]
    exact hself.lookup

theorem Orderly.spare_step (h : Orderly w) {n : Nat} (hspare : w.host.db.Spare (w.ids i + n))
    (c : Call) : (w.step (i, c)).2.host.db.Spare n :=
  (h.step_touched (hspare.mono (Nat.le_add_right _ _)) c).2.spare hspare

theorem Orderly.taken_le (h : Orderly w) (hspare : w.host.db.Spare (w.ids i)) (c : Call) :
    ((w.step (i, c)).2.next - w.next).toNat ≤ w.ids i := by
  rw [UInt64.toNat_sub_of_le _ _ (next_le_step hspare c)]
  have := (h.step_touched hspare c).2.next_le
  unfold Shared.next
  omega

theorem Orderly.spare_other (h : Orderly w) (hspare : w.host.db.Spare (w.ids i + w.ids j))
    (c : Call) : (w.step (i, c)).2.host.db.Spare ((w.step (i, c)).2.ids j) := by
  rw [ids_step]
  exact h.spare_step hspare c

theorem Orderly.after_steps (h : Orderly w) (hspare : w.host.db.Spare (w.ids i + w.ids j))
    (a b : Call) : Orderly ((w.step (i, a)).2.step (j, b)).2 :=
  (h.after_step (hspare.mono (Nat.le_add_right _ _)) a).after_step (h.spare_other hspare a) b

/-- If each of two descriptors finds the same before and after the other's call, everything is the
same after both. -/
theorem Orderly.renamed_of_sameFor (h : Orderly w) (hij : i ≠ j) {a b : Call} {δ' : UInt64}
    (hspare : w.host.db.Spare (w.ids i + w.ids j)) (hρ : ∀ x, x < w.next → ρ x = x)
    (hA : SameFor ρ δ i (w.step (i, a)).2 ((w.step (j, b)).2.step (i, a)).2)
    (hB : SameFor ρ⁻¹ δ' j (w.step (j, b)).2 ((w.step (i, a)).2.step (j, b)).2)
    (hnext : ((w.step (j, b)).2.step (i, a)).2.next = ((w.step (i, a)).2.step (j, b)).2.next) :
    Renamed ρ ((w.step (i, a)).2.step (j, b)).2 ((w.step (j, b)).2.step (i, a)).2 := by
  have hspareI : w.host.db.Spare (w.ids i) := hspare.mono (Nat.le_add_right _ _)
  have hspareJ : w.host.db.Spare (w.ids j) := hspare.mono (Nat.le_add_left _ _)
  obtain ⟨hfaultsA, htouchedA⟩ := h.step_touched hspareI a
  obtain ⟨hfaultsB, htouchedB⟩ := h.step_touched hspareJ b
  obtain ⟨hfaultsAB, htouchedAB⟩ :=
    (h.after_step hspareI a).step_touched (h.spare_other hspare a) b
  obtain ⟨hfaultsBA, htouchedBA⟩ :=
    (h.after_step hspareJ b).step_touched (h.spare_other (by rwa [Nat.add_comm]) b) a
  rw [(alike_step (i, a) j).1] at htouchedAB
  rw [(alike_step (j, b) i).1] at htouchedBA
  have hname : (w.descriptors i).name ≠ (w.descriptors j).name := fun he => hij (h.names he)
  have hlookupA := hA.lookup
  have hlookupB := hB.lookup
  rw [(alike_step (i, a) i).1] at hlookupA
  rw [(alike_step (j, b) j).1] at hlookupB
  refine ⟨?_, ?_, hnext, fun m => ?_, fun name => ?_⟩
  · rw [hfaultsBA, hfaultsB, hfaultsAB, hfaultsA]
  · rw [htouchedBA.pointerSize, htouchedB.pointerSize, htouchedAB.pointerSize,
      htouchedA.pointerSize]
  · by_cases hi : i = m
    · subst hi
      rw [hA.descriptor, step_other (Ne.symm hij)]
    by_cases hj : j = m
    · subst hj
      rw [hB.descriptor, smul_inv_smul, step_other hij]
    · rw [step_other hi, step_other hj, step_other hj, step_other hi]
      exact (h.below m ρ hρ).symm
  · by_cases hi : name = (w.descriptors i).name
    · subst hi
      rw [hlookupA, htouchedAB.others hname]
    by_cases hj : name = (w.descriptors j).name
    · subst hj
      rw [hlookupB, smul_inv_smul, htouchedBA.others (Ne.symm hname)]
    · rw [htouchedBA.others hi, htouchedB.others hj, htouchedAB.others hj, htouchedA.others hi]
      exact (h.reachable.sound.below_lookup name ρ hρ).symm

/-- Calls on two descriptors in either order. -/
theorem Orderly.exchanged (h : Orderly w) (hij : i ≠ j) (a b : Call)
    (hspare : w.host.db.Spare (w.ids i + w.ids j)) :
    ∃ ρ : Perm UInt64, (∀ x, x < w.next → ρ x = x) ∧
      (∀ x, ((w.step (i, a)).2.step (j, b)).2.next ≤ x → ρ x = x) ∧
      ((w.step (j, b)).2.step (i, a)).1 = ρ • (w.step (i, a)).1 ∧
      (w.step (j, b)).1 = ρ • ((w.step (i, a)).2.step (j, b)).1 ∧
      Renamed ρ ((w.step (i, a)).2.step (j, b)).2 ((w.step (j, b)).2.step (i, a)).2 := by
  have hspareI : w.host.db.Spare (w.ids i) := hspare.mono (Nat.le_add_right _ _)
  have hspareJ : w.host.db.Spare (w.ids j) := hspare.mono (Nat.le_add_left _ _)
  -- how many ids the one call takes and how many the other
  generalize hka : (w.step (i, a)).2.next - w.next = ka
  generalize hkb : (w.step (j, b)).2.next - w.next = kb
  have hnextA : (w.step (i, a)).2.next = w.next + ka := by
    rw [← hka, UInt64.add_comm, UInt64.sub_add_cancel]
  have hnextB : (w.step (j, b)).2.next = w.next + kb := by
    rw [← hkb, UInt64.add_comm, UInt64.sub_add_cancel]
  have hroom : w.next.toNat + ka.toNat + kb.toNat < UInt64.size := by
    have hkaLe := hka ▸ h.taken_le hspareI a
    have hkbLe := hkb ▸ h.taken_le hspareJ b
    have hsize : w.next.toNat + (w.ids i + w.ids j) < UInt64.size := hspare
    omega
  have hroom' : w.next.toNat + kb.toNat + ka.toNat < UInt64.size := by omega
  have hfix : ∀ x, x < w.next → exchange w.next ka kb hroom x = x := fun x => exchange_of_lt
  -- the exchange the other way round is the inverse
  have hfix' : ∀ x, x < w.next → (exchange w.next ka kb hroom)⁻¹ x = x := fun x =>
    exchange_of_lt (h := hroom')
  obtain ⟨hanswerA, hsameA⟩ := (h.sameFor_other hij hspareJ b hfix).after_step (c := a) h
    (h.after_step hspareJ b) hspareI (h.spare_step (by rwa [Nat.add_comm]) b)
    (by rw [hkb, hnextA]; exact exchange_moves)
  obtain ⟨hanswerB, hsameB⟩ := (h.sameFor_other (Ne.symm hij) hspareI a hfix').after_step (c := b) h
    (h.after_step hspareI a) hspareJ (h.spare_step hspare a)
    (by rw [hka, hnextB]; exact exchange_moves (h := hroom'))
  rw [hkb] at hsameA
  rw [hka] at hsameB
  have hcomm : w.next + ka + kb = w.next + kb + ka := by ac_rfl
  refine ⟨exchange w.next ka kb hroom, hfix, fun x hx => exchange_of_le ?_, hanswerA, ?_,
    h.renamed_of_sameFor hij hspare hfix hsameA hsameB ?_⟩
  · rw [hsameB.next, hnextB] at hx
    rwa [hcomm]
  · rw [hanswerB, smul_inv_smul]
  · rw [hsameA.next, hsameB.next, hnextA, hnextB, hcomm]

/-! ### Runs -/

variable {u v calls : List (ι × Call)}

theorem answers_cons (w : Shared ι) (call : ι × Call) (rest : List (ι × Call)) (i : ι) :
    w.answers (call :: rest) i =
      (if call.1 = i then [(w.step call).1] else []) ++ (w.step call).2.answers rest i := by
  rw [answers, run, List.filter_cons, answers]
  by_cases hi : call.1 = i <;> simp [hi]

theorem idsOfAll_cons (w : Shared ι) (call : ι × Call) (rest : List (ι × Call)) :
    w.idsOfAll (call :: rest) = w.ids call.1 + (w.step call).2.idsOfAll rest := by
  rw [idsOfAll, List.map_cons, List.sum_cons, idsOfAll, ids_step]

theorem Orderly.run (h : Orderly w) (hspare : w.host.db.Spare (w.idsOfAll calls)) :
    Orderly (w.run calls).2 ∧ w.host.db.Later (w.run calls).2.host.db := by
  induction calls generalizing w with
  | nil => exact ⟨h, .refl⟩
  | cons call rest ih =>
    obtain ⟨i, c⟩ := call
    rw [idsOfAll_cons] at hspare
    have hspareHere : w.host.db.Spare (w.ids i) := hspare.mono (Nat.le_add_right _ _)
    obtain ⟨hrest, hlater⟩ := ih (h.after_step hspareHere c) (h.spare_step hspare c)
    exact ⟨hrest, (later_step hspareHere c).trans hlater⟩

/-- What is the same but for a renaming stays so through the same calls. -/
theorem Renamed.run (h : Renamed ρ w w') (hw : Orderly w) (hw' : Orderly w')
    (hspare : w.host.db.Spare (w.idsOfAll calls)) (hρ : ∀ x, w.next ≤ x → ρ x = x) :
    (∀ i, w'.answers calls i = (w.answers calls i).map (ρ • ·)) ∧
      Renamed ρ (w.run calls).2 (w'.run calls).2 := by
  induction calls generalizing w w' with
  | nil => exact ⟨fun _ => rfl, h⟩
  | cons call rest ih =>
    obtain ⟨i, c⟩ := call
    rw [idsOfAll_cons] at hspare
    have hspareHere : w.host.db.Spare (w.ids i) := hspare.mono (Nat.le_add_right _ _)
    have hspareHere' : w'.host.db.Spare (w'.ids i) := by
      rw [ids, h.descriptors i, layout_smul]
      exact hspareHere.of_next_eq h.next
    obtain ⟨hanswer, hstep⟩ := h.after_step hw hw' hspareHere hρ c
    obtain ⟨hanswers, hlast⟩ := ih hstep (hw.after_step hspareHere c)
      (hw'.after_step hspareHere' c) (hw.spare_step hspare c)
      fun x hx => hρ x (UInt64.le_trans (next_le_step hspareHere c) hx)
    refine ⟨fun j => ?_, hlast⟩
    rw [answers_cons, answers_cons, hanswers j, List.map_append, hanswer]
    by_cases hij : i = j <;> simp [hij]

/-- The two runs agree but for a renaming of the ids that the first gives out. -/
structure Agree (ρ : Perm UInt64) (w : Shared ι) (u v : List (ι × Call)) : Prop where
  before : ∀ x, x < w.next → ρ x = x
  after : ∀ x, (w.run u).2.next ≤ x → ρ x = x
  answers : ∀ i, w.answers v i = (w.answers u i).map (ρ • ·)
  renamed : Renamed ρ (w.run u).2 (w.run v).2

theorem Agree.cons {i : ι} {c : Call} (h : Orderly w) (hspare : w.host.db.Spare (w.ids i))
    (hρ : Agree ρ (w.step (i, c)).2 u v) : Agree ρ w ((i, c) :: u) ((i, c) :: v) := by
  have hbefore : ∀ x, x < w.next → ρ x = x := fun x hx =>
    hρ.before x (UInt64.lt_of_lt_of_le hx (next_le_step hspare c))
  refine ⟨hbefore, hρ.after, fun j => ?_, hρ.renamed⟩
  -- the first answer has older ids than those that are renamed
  have hself := (h.step_below hspare c).1 ρ hρ.before
  rw [answers_cons, answers_cons, hρ.answers j, List.map_append]
  by_cases hij : i = j
  · rw [if_pos hij, List.map_singleton, hself]
  · rw [if_neg hij, List.map_nil]

/-- Two calls on different descriptors may be exchanged, whatever follows. -/
theorem Orderly.agree_swap (h : Orderly w) {x y : ι × Call} (hxy : x.1 ≠ y.1)
    (hspare : w.host.db.Spare (w.idsOfAll (x :: y :: calls))) :
    ∃ ρ, Agree ρ w (x :: y :: calls) (y :: x :: calls) := by
  obtain ⟨i, a⟩ := x
  obtain ⟨j, b⟩ := y
  rw [idsOfAll_cons, idsOfAll_cons, ids_step, ← Nat.add_assoc] at hspare
  have hspareBoth : w.host.db.Spare (w.ids i + w.ids j) := hspare.mono (Nat.le_add_right _ _)
  have hAB := h.after_steps hspareBoth a b
  have hBA := h.after_steps (Nat.add_comm (w.ids i) _ ▸ hspareBoth) b a
  have hspareRest : ((w.step (i, a)).2.step (j, b)).2.host.db.Spare
      (((w.step (i, a)).2.step (j, b)).2.idsOfAll calls) := by
    refine (h.after_step (hspareBoth.mono (Nat.le_add_right _ _)) a).spare_step ?_ b
    rw [ids_step]
    exact h.spare_step (by rwa [Nat.add_assoc] at hspare) a
  obtain ⟨ρ, hbefore, hafter, hanswerI, hanswerJ, hrenamed⟩ := h.exchanged hxy a b hspareBoth
  obtain ⟨hanswers, hlast⟩ := hrenamed.run hAB hBA hspareRest hafter
  have hlater := (hAB.run hspareRest).2.next_le
  refine ⟨ρ, hbefore, fun x hx => hafter x (UInt64.le_trans (UInt64.le_iff_toNat_le.2 hlater) hx),
    fun m => ?_, hlast⟩
  rw [answers_cons, answers_cons, answers_cons, answers_cons, hanswers m, hanswerI, hanswerJ]
  by_cases hi : i = m
  · subst hi
    simp [Ne.symm hxy]
  · by_cases hj : j = m <;> simp [hi, hj]

theorem Agree.trans {σ : Perm UInt64} {t : List (ι × Call)} (hρ : Agree ρ w u v)
    (hσ : Agree σ w v t) : Agree (σ * ρ) w u t where
  before x hx := by rw [Equiv.Perm.mul_apply, hρ.before x hx, hσ.before x hx]
  after x hx := by rw [Equiv.Perm.mul_apply, hρ.after x hx, hσ.after x (hρ.renamed.next ▸ hx)]
  answers i := by
    rw [hσ.answers i, hρ.answers i, List.map_map]
    exact List.map_congr_left fun a _ => (mul_smul σ ρ a).symm
  renamed := hρ.renamed.trans hσ.renamed

theorem agree_of_reordered (huv : Reordered u v) (h : Orderly w)
    (hspare : w.host.db.Spare (w.idsOfAll u)) : ∃ ρ, Agree ρ w u v := by
  induction huv generalizing w with
  | nil => exact ⟨1, fun _ _ => rfl, fun _ _ => rfl, fun _ => rfl, .refl w⟩
  | cons call huv ih =>
    obtain ⟨i, c⟩ := call
    rw [idsOfAll_cons] at hspare
    have hspareHere : w.host.db.Spare (w.ids i) := hspare.mono (Nat.le_add_right _ _)
    obtain ⟨ρ, hρ⟩ := ih (h.after_step hspareHere c) (h.spare_step hspare c)
    exact ⟨ρ, .cons h hspareHere hρ⟩
  | swap x y hxy l => exact h.agree_swap hxy hspare
  | trans huv hvw ih ih' =>
    obtain ⟨ρ, hρ⟩ := ih h hspare
    have hids := (huv.perm.map fun c => w.ids c.1).sum_eq
    obtain ⟨σ, hσ⟩ := ih' h (by rwa [idsOfAll, ← hids])
    exact ⟨σ * ρ, hρ.trans hσ⟩

omit [DecidableEq ι] in
theorem orderly_of_parsed (hdb : w.host.db.Reachable)
    (hnames : ∀ i j, (w.descriptors i).name = (w.descriptors j).name → i = j)
    (hparsed : ∀ i, (w.descriptors i).state = .schemaParsed)
    (hbound : ∀ i, ∀ b ∈ (w.descriptors i).bindings, b.2.value < w.next) : Orderly w where
  reachable := hdb
  names hname := hnames _ _ hname
  asked i _ _ hstate := nomatch (hparsed i).symm.trans hstate
  below i ρ hρ := by
    have hbindings : (w.descriptors i).bindings.map (fun b => (b.1, ρ • b.2)) =
        (w.descriptors i).bindings := by
      refine (List.map_congr_left (g := id) fun b hb => ?_).trans (List.map_id _)
      exact Prod.ext rfl (congrArg MemberId.mk (hρ _ (hbound i b hb)))
    have hstate : ρ • (w.descriptors i).state = (w.descriptors i).state := by
      rw [hparsed i]
      rfl
    exact congrArg₂ (Descriptor.mk (w.descriptors i).name (w.descriptors i).layout · ·) hbindings
      hstate

/-- Any number of parsed descriptors of different names, on a database that requests have made and
of which any requests fail, make their calls in two orders, each its own in the same order. Up to one
renaming of the ids that are given out meanwhile, each call gets the same answer and adds the same to
the journal, each descriptor ends in the same state, and the database with the same structs. -/
theorem interleavings_agree (hdb : w.host.db.Reachable)
    (hnames : ∀ i j, (w.descriptors i).name = (w.descriptors j).name → i = j)
    (hparsed : ∀ i, (w.descriptors i).state = .schemaParsed)
    (hbound : ∀ i, ∀ b ∈ (w.descriptors i).bindings, b.2.value < w.next)
    (hspare : w.host.db.Spare (w.idsOfAll u))
    (hsame : ∀ i, u.filter (·.1 = i) = v.filter (·.1 = i)) :
    ∃ ρ : Perm UInt64, (∀ x, x < w.next ∨ (w.run u).2.next ≤ x → ρ x = x) ∧
      (∀ i, w.answers v i = (w.answers u i).map (ρ • ·)) ∧
      (∀ i, (w.run v).2.descriptors i = ρ • (w.run u).2.descriptors i) ∧
      (w.run v).2.host.faults = (w.run u).2.host.faults ∧
      (w.run v).2.host.db.pointerSize = (w.run u).2.host.db.pointerSize ∧
      (w.run v).2.next = (w.run u).2.next ∧
      ∀ id, (w.run v).2.host.db.get? (ρ • id) = ρ • (w.run u).2.host.db.get? id := by
  have h := orderly_of_parsed hdb hnames hparsed hbound
  have huv := Reordered.of_filter hsame
  obtain ⟨ρ, hρ⟩ := agree_of_reordered huv h hspare
  have hids := (huv.perm.map fun c => w.ids c.1).sum_eq
  have hsound : (w.run u).2.host.db.Sound := (h.run hspare).1.reachable.sound
  have hsound' : (w.run v).2.host.db.Sound :=
    (h.run (by rwa [idsOfAll, ← hids])).1.reachable.sound
  exact ⟨ρ, fun x hx => hx.elim (hρ.before x) (hρ.after x), hρ.answers, hρ.renamed.descriptors,
    hρ.renamed.faults, hρ.renamed.pointerSize, hρ.renamed.next,
    fun id => Database.get?_smul hsound hsound' fun s _ => hρ.renamed.lookup s.name⟩

/-- A struct is to be replaced, but a member of the new one is refused and it is rolled back;
another one is created before that, or afterwards. -/
theorem interleavings_agree_rollBack :
    let db : Database := Request.perform (.createStruct "pair") (Database.empty 8)
    let w : Shared Bool := ⟨fun isPair => if isPair then pair else
      ((ofName "other").parse db [⟨some "c", none, some "char"⟩]).value.2,
      ⟨db, { Faults.none with member := (· == "first") }⟩⟩
    let replace : List (Bool × Call) := [(true, .reconcile), (true, .resolve .yes)]
    let u := replace ++ [(false, .reconcile)]
    let v := (false, .reconcile) :: replace
    ∃ ρ : Perm UInt64, ρ (Database.firstId + 3) = Database.firstId + 1 ∧
      w.answers v true = (w.answers u true).map (ρ • ·) ∧
      (w.run v).2.host.db.get? (ρ • ⟨Database.firstId + 3⟩) =
        ρ • (w.run u).2.host.db.get? ⟨Database.firstId + 3⟩ := by
  intro db w replace u v
  have hdb : db.Reachable :=
    .perform (.createStruct "pair") (.empty 8) (by unfold Database.Spare; decide)
  obtain ⟨ρ, -, hanswers, -, -, -, -, hget⟩ := interleavings_agree (w := w) (u := u) (v := v) hdb
    (by decide +kernel) (by decide +kernel) (by decide +kernel)
    (by unfold Database.Spare; decide +kernel) (by intro i; cases i <;> rfl)
  refine ⟨ρ, ?_, hanswers true, hget _⟩
  have hu : (w.answers u false).map (·.result) =
      [.ok (.created ⟨Database.firstId + 3⟩)] := by decide +kernel
  have hv : (w.answers v false).map (·.result) =
      [.ok (.created ⟨Database.firstId + 1⟩)] := by decide +kernel
  have hmap : (w.answers v false).map (·.result) =
      ((w.answers u false).map (·.result)).map (ρ • ·) := by
    rw [hanswers false, List.map_map, List.map_map]
    rfl
  rw [hu, hv] at hmap
  injection hmap with hresult
  injection hresult with houtcome
  injection houtcome with hid
  exact (congrArg StructId.value hid).symm

end Shared

end StructSync
