import Mathlib
import StructSync.Proofs.Database.Obtained
import StructSync.Proofs.Run
import StructSync.Proofs.Sync

/-!
# A sync as its steps

`Stepwise`: the structs are built one after the other, each on what the build before it has left of
the host and the machine, and every build succeeds. Main statement (`syncAll_ok_iff`): a sync
succeeds exactly with what such steps come to. So what every build keeps, a sync keeps
(`Stepwise.preserves`).
-/

namespace StructSync

variable {σ τ : Type} [Host σ] {confirm : Confirmer (StateM τ)}
  {tell : StructSchema → Logged (Except SyncError (Descriptor × Outcome)) → StateM τ Unit}

/-- The structs are built one after the other, from the first host and machine to the last. -/
inductive Stepwise (confirm : Confirmer (StateM τ))
    (tell : StructSchema → Logged (Except SyncError (Descriptor × Outcome)) → StateM τ Unit) :
    List StructSchema → σ × τ → σ × τ → Prop
  | nil (first : σ × τ) : Stepwise confirm tell [] first first
  | cons {entry : StructSchema} {rest : List StructSchema} {host middle : σ} {t t₁ : τ}
    {built : Descriptor × Outcome} {log : List LogRecord} {last : σ × τ}
    (hbuild : (Descriptor.build confirm entry.name entry.fields host).run t =
      (⟨(.ok built, middle), log⟩, t₁))
    (hrest : Stepwise confirm tell rest
      (middle, ((tell entry ⟨.ok built, log⟩).run t₁).2) last) :
    Stepwise confirm tell (entry :: rest) (host, t) last

theorem syncAll_ok_iff {structs : List StructSchema} {host after : σ} {t t' : τ} :
    (syncAll confirm tell structs host).run t = ((.ok (), after), t') ↔
      Stepwise confirm tell structs (host, t) (after, t') := by
  induction structs generalizing host t with
  | nil =>
    refine ⟨fun h => ?_, fun h => ?_⟩
    · cases h
      exact .nil _
    · cases h
      rfl
  | cons entry rest ih =>
    rw [run_syncAll_cons]
    rcases hbuild : (Descriptor.build confirm entry.name entry.fields host).run t with
      ⟨⟨⟨e | built, middle⟩, log⟩, t₁⟩
    · refine ⟨nofun, fun h => ?_⟩
      cases h with
      | cons hbuild' => cases hbuild.symm.trans hbuild'
    · refine ⟨fun h => .cons hbuild (ih.1 h), fun h => ?_⟩
      cases h with
      | cons hbuild' hrest =>
        cases hbuild.symm.trans hbuild'
        exact ih.2 hrest

namespace Stepwise

variable {structs : List StructSchema} {entry : StructSchema} {first last : σ × τ}

/-- Whoever is asked in a step gives the answers of one moment. -/
theorem cons_inv (h : Stepwise confirm tell (entry :: structs) first last) :
    ∃ (answers : Confirmer Id) (built : Descriptor × Outcome) (next : σ × τ),
      (Id.run (Descriptor.build answers entry.name entry.fields first.1)).value =
        (.ok built, next.1) ∧ Stepwise confirm tell structs next last := by
  cases h with
  | @cons _ _ host _ t _ _ _ _ hbuild hrest =>
    have hvalue := Descriptor.Call.value_build_state confirm entry.name entry.fields host t
    rw [hbuild] at hvalue
    exact ⟨_, _, _, hvalue.symm, hrest⟩

/-- What every build that succeeds keeps of the host holds at the end. -/
theorem preserves {P : σ → Prop} (h : Stepwise confirm tell structs first last)
    (hbuilds : ∀ entry ∈ structs, ∀ (answers : Confirmer Id) (host : σ)
      (built : Descriptor × Outcome) (next : σ), P host →
        (Id.run (Descriptor.build answers entry.name entry.fields host)).value =
          (.ok built, next) → P next) (hfirst : P first.1) : P last.1 := by
  induction structs generalizing first with
  | nil =>
    cases h
    exact hfirst
  | cons entry rest ih =>
    obtain ⟨answers, built, next, hbuild, hrest⟩ := h.cons_inv
    obtain ⟨hentry, hothers⟩ := List.forall_mem_cons.1 hbuilds
    exact ih hrest hothers (hentry answers first.1 built next.1 hfirst hbuild)

/-- A database that is built on is still one that is empty or loaded at first. -/
theorem obtained {first last : Database × τ} (h : Stepwise confirm tell structs first last)
    (hfirst : Database.Obtained first.1) : Database.Obtained last.1 := by
  refine h.preserves (fun entry _ answers db built next hdb hbuild => ?_) hfirst
  obtain ⟨requests, hrequests, -, -⟩ := Descriptor.build_requests answers entry.name entry.fields db
  rw [hbuild] at hrequests
  rw [show next = _ from hrequests]
  exact hdb.performAll

end Stepwise

end StructSync
