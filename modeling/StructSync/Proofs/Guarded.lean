import Mathlib
import StructSync.Proofs.Morphism

/-!
# Guarded hosts

A guard stands before a host: every request is answered by the guard with an error of its own, or
passed on. Which requests that are is up to the guard, so it may turn down one member of a struct
and take another of the same type.
-/

namespace StructSync

open Work

/-- A host, and the errors that requests are answered with before they reach it. -/
structure Guarded (σ : Type) where
  host : σ
  fault? : Request → Option HostError

namespace Guarded

variable {α σ : Type} {host after : σ} {fault? : Request → Option HostError} {request : Request}

/-- A request answered by the guard, or passed on to the host. -/
def pass (request : Request) (change : σ → Except HostError α × σ) (g : Guarded σ) :
    Except HostError α × Guarded σ :=
  match g.fault? request with
  | some e => (.error e, g)
  | none => Host.carry (⟨·, g.fault?⟩) (change g.host)

instance [Host σ] : Host (Guarded σ) where
  findStruct? g := Host.findStruct? g.host
  structSize g := Host.structSize g.host
  members g := Host.members g.host
  parseType g := Host.parseType g.host
  createStruct name := pass (.createStruct name) (Host.createStruct name)
  deleteStruct id := pass (.deleteStruct id) (Host.deleteStruct id)
  createMember id name offset size flags :=
    pass (.createMember id name offset size flags) (Host.createMember id name offset size flags)
  setMemberType id member offset type :=
    pass (.setMemberType id member offset type) (Host.setMemberType id member offset type)

theorem pass_of_fault {change : σ → Except HostError α × σ} {e : HostError}
    (h : fault? request = some e) :
    pass request change ⟨host, fault?⟩ = (.error e, ⟨host, fault?⟩) := by
  unfold pass
  dsimp only
  rw [h]

theorem pass_of_none {change : σ → Except HostError α × σ} {answer : Except HostError α}
    (h : fault? request = none) (hchange : change host = (answer, after)) :
    pass request change ⟨host, fault?⟩ = (answer, ⟨after, fault?⟩) := by
  unfold pass
  dsimp only
  rw [h, hchange]
  rfl

theorem pass_eq_ok {change : σ → Except HostError α × σ} {answer : α} {g : Guarded σ}
    (h : pass request change ⟨host, fault?⟩ = (.ok answer, g)) :
    fault? request = none ∧ ∃ after, change host = (.ok answer, after) ∧ g = ⟨after, fault?⟩ := by
  cases hfault : fault? request with
  | some e =>
    rw [pass_of_fault hfault] at h
    cases h
  | none =>
    rcases hchange : change host with ⟨given, after⟩
    rw [pass_of_none hfault hchange] at h
    cases h
    exact ⟨rfl, after, rfl, rfl⟩

end Guarded

end StructSync
