import Mathlib
import StructSync.Proofs.Morphism

/-!
# Hosts under observation

`Observed` is a host together with the requests issued to it so far and the ids that it gave to
structs. Main statement (`Descriptor.Call.run_issued`): among the requests of one call, a deletion
either is the roll-back of a struct created earlier in the call, or it is the first request and
deletes the struct that the call may replace.
-/

namespace StructSync

open Work

/-- A request that was issued, and the id that it gave to a struct. -/
structure Issued where
  request : Request
  given : Option StructId
deriving DecidableEq

/-- A host and what was issued to it. -/
structure Observed (σ : Type) where
  host : σ
  issued : List Issued

namespace Observed

variable {α σ : Type}

/-- A host of which nothing was asked yet. -/
def start (host : σ) : Observed σ := ⟨host, []⟩

/-- A request passed on to the host and kept. -/
def pass (request : Request) (given : α → Option StructId) (change : σ → Except HostError α × σ)
    (o : Observed σ) : Except HostError α × Observed σ :=
  let (answer, host) := change o.host
  (answer, ⟨host, o.issued ++ [⟨request, answer.toOption.bind given⟩]⟩)

instance [Host σ] : Host (Observed σ) where
  findStruct? o := Host.findStruct? o.host
  structSize o := Host.structSize o.host
  members o := Host.members o.host
  parseType o := Host.parseType o.host
  createStruct name := pass (.createStruct name) some (Host.createStruct name)
  deleteStruct id := pass (.deleteStruct id) (fun _ => none) (Host.deleteStruct id)
  createMember id name offset size flags :=
    pass (.createMember id name offset size flags) (fun _ => none)
      (Host.createMember id name offset size flags)
  setMemberType id member offset type :=
    pass (.setMemberType id member offset type) (fun _ => none)
      (Host.setMemberType id member offset type)

variable [Host σ]

theorem morphism_host : Host.Morphism (Observed.host : Observed σ → σ) where
  findStruct _ _ := rfl
  structSize _ _ := rfl
  members _ _ := rfl
  createStruct _ _ := rfl
  deleteStruct _ _ := rfl
  createMember _ _ _ _ _ _ := rfl
  setMemberType _ _ _ _ _ := rfl

theorem parse_observed (d : Descriptor) (o : Observed σ) (fields : List Field) :
    d.parse o fields = d.parse o.host fields := by
  have hfields (index : Nat) (l : Layout) :
      l.addFields o d.name index fields = l.addFields o.host d.name index fields := by
    induction fields generalizing index l with
    | nil => rfl
    | cons field fields ih =>
      unfold Layout.addFields
      simp only [ih]
      rfl
  unfold Descriptor.parse
  rw [hfields]

end Observed

/-- No struct is deleted. -/
def Issued.Keep (es : List Issued) : Prop := ∀ e ∈ es, ∀ id, e.request ≠ .deleteStruct id

/-- No struct is deleted but one that was created before. -/
def Issued.RollBack (es : List Issued) : Prop :=
  ∀ before id given after, es = before ++ ⟨.deleteStruct id, given⟩ :: after →
    ∃ name, ⟨.createStruct name, some id⟩ ∈ before

namespace Issued

theorem Keep.append {es es' : List Issued} (h : Keep es) (h' : Keep es') : Keep (es ++ es') := by
  intro e he
  rcases List.mem_append.1 he with he | he
  · exact h e he
  · exact h' e he

theorem Keep.rollBack {es : List Issued} (h : Keep es) : RollBack es := by
  rintro before id given after rfl
  exact absurd rfl (h ⟨.deleteStruct id, given⟩ (by simp) id)

theorem rollBack_cons {name : String} {id : StructId} {es : List Issued}
    (h : ∀ e ∈ es, ∀ other, e.request = .deleteStruct other → other = id) :
    RollBack (⟨.createStruct name, some id⟩ :: es) := by
  intro before other given after heq
  cases before with
  | nil => simp at heq
  | cons head tail =>
    obtain ⟨rfl, rfl⟩ := List.cons.inj heq
    obtain rfl : other = id := h ⟨.deleteStruct other, given⟩ (by simp) other rfl
    exact ⟨name, by simp⟩

end Issued

namespace Descriptor.Call

open Issued

variable {σ : Type} [Host σ]

theorem member_issued (id : StructId) (m : Member) (o : Observed σ) :
    ∃ es, (value (m.materialize id) o).2.issued = o.issued ++ es ∧ Keep es := by
  rw [Member.value_materialize]
  have hcreate : ∃ given, (Host.createMember id m.name m.offset m.size m.type.flags o).2.issued =
    o.issued ++ [⟨.createMember id m.name m.offset m.size m.type.flags, given⟩] := ⟨_, rfl⟩
  obtain ⟨given, hcreate⟩ := hcreate
  rcases hc : Host.createMember id m.name m.offset m.size m.type.flags o with ⟨e | member, o'⟩
  · rw [hc] at hcreate
    exact ⟨_, hcreate, by simp [Keep]⟩
  · have hset : ∃ given, (Host.setMemberType id member m.offset m.type.type o').2.issued =
      o'.issued ++ [⟨.setMemberType id member m.offset m.type.type, given⟩] := ⟨_, rfl⟩
    obtain ⟨given', hset⟩ := hset
    rw [hc] at hcreate
    dsimp only at hcreate ⊢
    rw [hcreate, List.append_assoc] at hset
    rcases ht : Host.setMemberType id member m.offset m.type.type o' with ⟨e | _, o''⟩ <;>
      rw [ht] at hset <;> exact ⟨_, hset, by simp [Keep]⟩

theorem members_issued (id : StructId) (members : List Member) (o : Observed σ) :
    ∃ es, (value (createMembers id members) o).2.issued = o.issued ++ es ∧ Keep es := by
  induction members generalizing o with
  | nil => exact ⟨[], by simp, by simp [Keep]⟩
  | cons m rest ih =>
    rw [value_createMembers_cons]
    obtain ⟨es, hes, hkeep⟩ := member_issued id m o
    rcases hm : value (m.materialize id) o with ⟨e | member, o'⟩
    · rw [hm] at hes
      exact ⟨es, hes, hkeep⟩
    · obtain ⟨es', hes', hkeep'⟩ := ih o'
      rw [hm] at hes
      dsimp only at hes ⊢
      rw [hes, List.append_assoc] at hes'
      rcases hr : value (createMembers id rest) o' with ⟨e | bindings, o''⟩ <;>
        rw [hr] at hes' <;> exact ⟨es ++ es', hes', hkeep.append hkeep'⟩

theorem create_issued (d : Descriptor) (o : Observed σ) :
    ∃ es, (value d.create o).2.issued = o.issued ++ es ∧ RollBack es := by
  have hcreated : (Host.createStruct d.name o).2.issued = o.issued ++
    [⟨.createStruct d.name, (Host.createStruct d.name o).1.toOption.bind some⟩] := rfl
  have h := creation d o
  generalize value d.create o = r at h
  cases h with
  | refused e after hcreate =>
    rw [hcreate] at hcreated
    exact ⟨_, hcreated, Keep.rollBack (by simp [Keep])⟩
  | complete id bindings begun after hcreate hmembers =>
    obtain ⟨es, hes, hkeep⟩ := members_issued id d.layout.members begun
    rw [hcreate] at hcreated
    rw [hmembers, hcreated, List.append_assoc] at hes
    exact ⟨_, hes, rollBack_cons fun e he other hother => absurd hother (hkeep e he other)⟩
  | undone id m e begun after hcreate hmembers =>
    obtain ⟨es, hes, hkeep⟩ := members_issued id d.layout.members begun
    have hdeleted : ∃ given, (Host.deleteStruct id after).2.issued =
      after.issued ++ [⟨.deleteStruct id, given⟩] := ⟨_, rfl⟩
    obtain ⟨given, hdeleted⟩ := hdeleted
    rw [hcreate] at hcreated
    rw [hmembers, hcreated, List.append_assoc] at hes
    dsimp only at hes
    rw [hes, List.append_assoc] at hdeleted
    refine ⟨_, hdeleted, rollBack_cons fun e he other hother => ?_⟩
    rcases List.mem_append.1 he with he | he
    · exact absurd hother (hkeep e he other)
    · obtain rfl := List.mem_singleton.1 he
      exact (Request.deleteStruct.inj hother).symm

theorem reconcile_issued (d : Descriptor) (o : Observed σ) :
    ∃ es, (value d.reconcile o).2.issued = o.issued ++ es ∧ RollBack es := by
  have h := reconciliation d o
  generalize value d.reconcile o = r at h
  cases h with
  | creates result d' after hstate hfind hcreate =>
    have := create_issued d o
    rwa [hcreate] at this
  | _ => exact ⟨[], by simp, Keep.rollBack (by simp [Keep])⟩

/-- Either nothing is deleted but what was created, or the first request deletes that struct. -/
def Answers (replaced : Option StructId) (es : List Issued) : Prop :=
  RollBack es ∨ ∃ id given es', replaced = some id ∧ es = ⟨.deleteStruct id, given⟩ :: es' ∧
    RollBack es'

theorem resolve_issued (decision : Decision) (d : Descriptor) (o : Observed σ) :
    ∃ es, (value (d.resolve decision) o).2.issued = o.issued ++ es ∧
      Answers (if decision = .yes then d.awaited? else none) es := by
  have h := resolution decision d o
  generalize value (d.resolve decision) o = r at h
  have hdeleted (id : StructId) : ∃ given, (Host.deleteStruct id o).2.issued =
    o.issued ++ [⟨.deleteStruct id, given⟩] := ⟨_, rfl⟩
  have hnothing : RollBack [] := Keep.rollBack (by simp [Keep])
  cases h with
  | notAsked => exact ⟨[], by simp, .inl hnothing⟩
  | stopped => exact ⟨[], by simp, .inl hnothing⟩
  | kept e existing report after hstate hdecision hdelete =>
    obtain ⟨given, hes⟩ := hdeleted existing
    rw [hdelete] at hes
    rw [if_pos hdecision, show d.awaited? = some existing by rw [awaited?, hstate]]
    exact ⟨_, hes, .inr ⟨existing, given, [], rfl, rfl, hnothing⟩⟩
  | replaces existing report freed result d' after hstate hdecision hdelete hcreate =>
    obtain ⟨given, hes⟩ := hdeleted existing
    obtain ⟨es, hcreated, hback⟩ := create_issued { d with state := .schemaParsed } freed
    rw [hdelete] at hes
    dsimp only at hes
    rw [hcreate, hes, List.append_assoc] at hcreated
    rw [if_pos hdecision, show d.awaited? = some existing by rw [awaited?, hstate]]
    exact ⟨_, hcreated, .inr ⟨existing, given, es, rfl, rfl, hback⟩⟩

/-- A deletion is a roll-back, or the first request of the call and of the struct that it may
replace. -/
theorem run_issued (c : Call) (d : Descriptor) (o : Observed σ) :
    ∃ es, (c.run d o).2.issued = o.issued ++ es ∧ Answers (c.replaced? o d) es := by
  cases c with
  | reconcile =>
    obtain ⟨es, hes, hback⟩ := reconcile_issued d o
    exact ⟨es, hes, .inl hback⟩
  | resolve decision => exact resolve_issued decision d o
  | materialize confirm =>
    rcases run_materialize_cases confirm d o with hsame | ⟨report, asked, hasks, hsame⟩
    · obtain ⟨es, hes, hback⟩ := reconcile_issued d o
      exact ⟨es, hsame ▸ hes, .inl hback⟩
    · rw [hsame, replaced?, show value d.reconcile o = _ from hasks]
      exact resolve_issued _ asked o

end Descriptor.Call

end StructSync
