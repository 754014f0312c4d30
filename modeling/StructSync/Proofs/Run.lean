import Mathlib
import StructSync.Proofs.Consent
import StructSync.Proofs.Parse

/-!
# What a run asks of its host

Every act of a `World` but a change from outside is a run of requests to the host
(`World.host_step`), and takes no more ids than the layouts that it works on have members, and one.
A host may stand in front of a database (`Host.Fronts`): whatever becomes of a request to the host,
the database behind it gets requests or nothing.
-/

namespace StructSync

open Work

variable {σ : Type} [Host σ]

theorem Descriptor.build_requests (confirm : Confirmer Id) (name : String) (fields : List Field)
    (host : σ) :
    ∃ requests, (Id.run (build confirm name fields host)).value.2 =
        Request.performAll requests host ∧
      Request.idsOfAll requests ≤ fields.length + 1 ∧
      ∀ r ∈ requests, ∀ made ∈ r.creates?, made = name := by
  rw [Call.value_build]
  rcases hparse : ((ofName name).parse host fields).value with ⟨e | _, parsed⟩
  · exact ⟨[], rfl, Nat.zero_le _, nofun⟩
  · obtain ⟨hname, -, hlength⟩ := parse_ok hparse
    obtain ⟨requests, hrun, hids, hnames⟩ := (Call.materialize confirm).run_requests parsed host
    exact ⟨requests, hrun, hlength ▸ hids, hname ▸ hnames⟩

namespace World

/-- The ids that the act takes at most. -/
def ids (w : World σ) : Act σ → Nat
  | .call i _ => (w.slots[i]?.map fun s => s.descriptor.layout.members.length + 1).getD 0
  | .build _ _ fields => fields.length + 1
  | .outside _ => 1
  | _ => 0

variable {w : World σ} {act : Act σ}

theorem host_call {i : Nat} {s : Slot} (hs : w.slots[i]? = some s) (c : Descriptor.Call) :
    (w.step (.call i c)).host = (c.run s.descriptor w.host).2 := by
  have hrun := Observed.morphism_host.run c s.descriptor (Observed.start w.host)
  show (w.perform (.call i c)).1 = _
  rw [perform_call hs]
  exact (congrArg Prod.snd hrun).symm

theorem host_build (confirm : Confirmer Id) (name : String) (fields : List Field) :
    (w.step (.build confirm name fields)).host =
      (Id.run (Descriptor.build confirm name fields w.host)).value.2 := by
  have hfirst : (w.step (.build confirm name fields)).host =
      (Id.run (Descriptor.build confirm name fields (Observed.start w.host))).value.2.host := by
    rw [step, perform]
    rcases (Id.run (Descriptor.build confirm name fields (Observed.start w.host))).value with
      ⟨e | ⟨d, outcome⟩, o⟩ <;> rfl
  rw [hfirst, Descriptor.value_build_observed, Descriptor.Call.value_build]
  rcases ((Descriptor.ofName name).parse w.host fields).value with ⟨e | _, d⟩
  · rfl
  · exact (congrArg Prod.snd
      (Observed.morphism_host.run (.materialize confirm) d (Observed.start w.host))).symm

theorem host_step (w : World σ) (act : Act σ) :
    (∃ change, act = .outside change ∧ (w.step act).host = change w.host) ∨
      ∃ requests, (w.step act).host = Request.performAll requests w.host ∧
        Request.idsOfAll requests ≤ w.ids act := by
  cases act with
  | call i c =>
    right
    cases hs : w.slots[i]? with
    | none =>
      have hsame : (w.step (.call i c)).host = w.host := by rw [step, perform, hs]
      exact ⟨[], hsame, Nat.zero_le _⟩
    | some s =>
      obtain ⟨requests, hrun, hids, -⟩ := c.run_requests s.descriptor w.host
      refine ⟨requests, (host_call hs c).trans hrun, ?_⟩
      rw [ids, hs]
      exact hids
  | build confirm name fields =>
    obtain ⟨requests, hrun, hids, -⟩ := Descriptor.build_requests confirm name fields w.host
    exact .inr ⟨requests, (host_build confirm name fields).trans hrun, hids⟩
  | outside change => exact .inl ⟨change, rfl, rfl⟩
  | _ => exact .inr ⟨[], rfl, Nat.zero_le _⟩

end World

/-! ### Databases behind a host -/

/-- A host with a database behind it: a request to the host becomes requests to the database, or
none. -/
def Host.Fronts (database : σ → Database) : Prop :=
  ∀ (r : Request) (host : σ), ∃ requests,
    database (r.perform host) = Request.performAll requests (database host)

namespace Host.Fronts

theorem performAll {database : σ → Database} (h : Fronts database) (requests : List Request)
    (host : σ) :
    ∃ passed, database (Request.performAll requests host) =
      Request.performAll passed (database host) := by
  induction requests generalizing host with
  | nil => exact ⟨[], rfl⟩
  | cons r rest ih =>
    obtain ⟨first, hfirst⟩ := h r host
    obtain ⟨others, hothers⟩ := ih (r.perform host)
    refine ⟨first ++ others, ?_⟩
    rw [Request.performAll_cons, hothers, hfirst, Request.performAll_append]

end Host.Fronts

theorem FaultyDatabase.perform_cases (r : Request) (f : FaultyDatabase) :
    r.perform f = f ∨ r.perform f = ⟨r.perform f.db, f.faults⟩ := by
  have hcases {α : Type} {fails : Bool} {failed passed : α × FaultyDatabase} :
      (if fails then failed else passed).2 = failed.2 ∨
        (if fails then failed else passed).2 = passed.2 :=
    (ite_eq_or_eq _ _ _).imp (congrArg Prod.snd) (congrArg Prod.snd)
  cases r with
  | createStruct name => exact .inr rfl
  | deleteStruct id => exact hcases
  | createMember id name offset size flags => exact hcases
  | setMemberType id member offset type => exact hcases

end StructSync
