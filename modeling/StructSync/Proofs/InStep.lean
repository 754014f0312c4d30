import Mathlib
import StructSync.Proofs.Sync

/-!
# Hosts in step with a schema

`StructSchema.InStep`: a host has a struct as its fields declare it against the host. Nothing is
left to do for such structs: a check finds no difference (`checkAll_inStep`), and to bring them in
step once more is only to tell that they are accepted (`AcceptsAll`), in any monad and whoever would
have answered.
-/

namespace StructSync

open Work

variable {σ : Type} [Host σ] {host : σ}

/-- The host has the struct as its fields declare it against the host. -/
def StructSchema.InStep (entry : StructSchema) (host : σ) : Prop :=
  ∃ d id, ((Descriptor.ofName entry.name).parse host entry.fields).value = (.ok (), d) ∧
    Descriptor.Shows host d id

/-- What a check finds of a struct that is as declared. -/
def Finding.agreeing (entry : StructSchema) : Finding := .compared ⟨entry.name, []⟩

/-- To bring the host in step is to tell of every struct that it is accepted. Nobody is asked, and
the host stays as it is. -/
def AcceptsAll (host : σ) (structs : List StructSchema) : Prop :=
  ∃ told : List (StructSchema × Logged (Except SyncError (Descriptor × Outcome))),
    told.map Prod.fst = structs ∧ (∀ x ∈ told, ∃ d id, x.2.value = .ok (d, .accepted id)) ∧
      ∀ {m : Type → Type} [Monad m] [LawfulMonad m] (confirm : Confirmer m)
        (tell : StructSchema → Logged (Except SyncError (Descriptor × Outcome)) → m Unit),
        syncAll confirm tell structs host =
          told.forM (fun x => tell x.1 x.2) >>= fun _ => pure (.ok (), host)

/-! ### Checking -/

theorem checkOne_inStep {entry : StructSchema} (h : entry.InStep host) :
    (checkOne host entry).value = .ok (.agreeing entry) := by
  obtain ⟨d, id, hparse, hfind, size, stored, hsize, hmembers, hnone⟩ := h
  obtain ⟨hname, -, -⟩ := Descriptor.parse_ok hparse
  unfold checkOne
  rw [Logged.value_bind, hparse]
  dsimp only
  rw [hfind]
  dsimp only
  rw [Logged.value_bind, Descriptor.value_validate, hsize, hmembers]
  dsimp only
  rw [hnone, hname]
  rfl

theorem checkAll_inStep {structs : List StructSchema} (h : ∀ entry ∈ structs, entry.InStep host) :
    (checkAll host structs).value = (structs.map Finding.agreeing, .ok ()) := by
  induction structs with
  | nil => rfl
  | cons entry rest ih =>
    obtain ⟨hentry, hrest⟩ := List.forall_mem_cons.1 h
    rw [checkAll, Logged.value_bind, checkOne_inStep hentry]
    simp only [Logged.value_bind, ih hrest]
    rfl

theorem inStep_of_checkOne {entry : StructSchema} {finding : Finding}
    (h : (checkOne host entry).value = .ok finding) (hfinding : finding.isDrift = false) :
    entry.InStep host := by
  unfold checkOne at h
  rw [Logged.value_bind] at h
  rcases hparse : ((Descriptor.ofName entry.name).parse host entry.fields).value with ⟨e | _, d⟩
  · simp [hparse] at h
  · rw [hparse] at h
    dsimp only at h
    cases hfind : Host.findStruct? host d.name with
    | none =>
      rw [hfind] at h
      cases h
      cases hfinding
    | some id =>
      rw [hfind] at h
      dsimp only at h
      rw [Logged.value_bind, Descriptor.value_validate] at h
      rcases hsize : Host.structSize host id with e | size
      · simp [hsize, Except.map] at h
      · rcases hmembers : Host.members host id with e | stored
        · simp [hsize, hmembers, Except.map] at h
        · rw [hsize, hmembers] at h
          cases h
          have hmatch : Report.isMatch ⟨d.name, d.differences size stored⟩ = true := by
            simpa [Finding.isDrift] using hfinding
          exact ⟨d, id, hparse, hfind, size, stored, hsize, hmembers, Report.isMatch_iff.1 hmatch⟩

theorem countP_isDrift_agreeing (structs : List StructSchema) :
    (structs.map Finding.agreeing).countP Finding.isDrift = 0 := by
  rw [List.countP_eq_zero]
  intro finding hfinding
  obtain ⟨entry, -, rfl⟩ := List.mem_map.1 hfinding
  simp [Finding.agreeing, Finding.isDrift, Report.isMatch]

theorem checkAll_clean_iff {structs : List StructSchema} :
    (checkAll host structs).value.2 = .ok () ∧
        (checkAll host structs).value.1.countP Finding.isDrift = 0 ↔
      ∀ entry ∈ structs, entry.InStep host := by
  constructor
  · rintro ⟨hok, hclean⟩
    induction structs with
    | nil => simp
    | cons entry rest ih =>
      rw [checkAll, Logged.value_bind] at hok hclean
      cases hone : (checkOne host entry).value with
      | error e =>
        rw [hone] at hok
        cases hok
      | ok finding =>
        rw [hone] at hok hclean
        simp only [Logged.value_bind, Logged.value_pure] at hok hclean
        rw [List.countP_cons, Nat.add_eq_zero_iff] at hclean
        obtain ⟨hrest, hfinding⟩ := hclean
        refine List.forall_mem_cons.2 ⟨inStep_of_checkOne hone ?_, ih hok hrest⟩
        simpa using hfinding
  · intro h
    rw [checkAll_inStep h]
    exact ⟨rfl, countP_isDrift_agreeing structs⟩

/-! ### Bringing in step once more -/

theorem Descriptor.build_inStep {entry : StructSchema} (h : entry.InStep host) :
    ∃ (built : Logged (Except SyncError (Descriptor × Outcome) × σ)) (d : Descriptor)
      (id : StructId),
      built.value = (.ok (d, .accepted id), host) ∧
        ∀ {m : Type → Type} [Monad m] [LawfulMonad m] (confirm : Confirmer m),
          build confirm entry.name entry.fields host = pure built := by
  obtain ⟨d, id, hparse, hshows⟩ := h
  obtain ⟨bindings, hreconcile⟩ := reconcile_accepts hshows (parse_ok hparse).2.1
  have hvalue : (d.reconcile.run host).value =
      ((.ok (.accepted id), { d with bindings, state := .materialized id }), host) := hreconcile
  refine ⟨do
    let _ ← (ofName entry.name).parse host entry.fields
    let reconciled ← d.reconcile.run host
    return (reconciled.1.1.map (reconciled.1.2, ·), reconciled.2), { d with bindings, state := .materialized id }, id, ?_, ?_⟩
  · simp only [Logged.value_bind, hvalue]
    rfl
  · intro m _ _ confirm
    have hmaterialize : d.materialize confirm host = pure (d.reconcile.run host) := by
      unfold materialize
      simp only [hvalue]
    unfold build
    simp only [hparse, hmaterialize, pure_bind]

theorem acceptsAll_inStep {structs : List StructSchema}
    (h : ∀ entry ∈ structs, entry.InStep host) : AcceptsAll host structs := by
  induction structs with
  | nil => exact ⟨[], rfl, List.forall_mem_nil _, fun _ _ => by simp [syncAll]⟩
  | cons entry rest ih =>
    obtain ⟨hentry, hrest⟩ := List.forall_mem_cons.1 h
    obtain ⟨built, d, id, hvalue, hbuild⟩ := Descriptor.build_inStep hentry
    obtain ⟨told, hstructs, haccepted, hsync⟩ := ih hrest
    refine ⟨(entry, ⟨.ok (d, .accepted id), built.log⟩) :: told, ?_, ?_, ?_⟩
    · rw [List.map_cons, hstructs]
    · exact List.forall_mem_cons.2 ⟨⟨d, id, rfl⟩, haccepted⟩
    · intro m _ _ confirm tell
      rw [syncAll, hbuild, pure_bind]
      simp only [hvalue, hsync]
      exact (bind_assoc _ _ _).symm

theorem StructSchema.InStep.observed {entry : StructSchema} (h : entry.InStep host) :
    entry.InStep (Observed.start host) := by
  obtain ⟨d, id, hparse, hfind, size, stored, hsize, hmembers, hnone⟩ := h
  refine ⟨d, id, ?_, hfind, size, stored, hsize, hmembers, hnone⟩
  rw [Observed.parse_observed]
  exact hparse

/-! ### Databases -/

namespace Database

variable {db : Database} {structs : List StructSchema} {entry : StructSchema}

theorem HoldsOne.inStep (h : db.HoldsOne entry) (hdb : db.Sound) : entry.InStep db := by
  obtain ⟨d, s, hparse, hs, hd⟩ := h
  exact ⟨d, s.id, hparse, Descriptor.shows_of_isDeclared hdb (hdb.findByName?_eq_some.1 hs).1 hd⟩

theorem HoldsOne.clearJournal (h : db.HoldsOne entry) : db.clearJournal.HoldsOne entry := by
  obtain ⟨d, s, hparse, hs, hd⟩ := h
  have hagrees : ∀ field ∈ entry.fields, field.Agrees db db.clearJournal := fun _ _ _ _ _ h => h
  exact ⟨d, s, Descriptor.parse_agrees hagrees hparse, hs, hd⟩

end Database

end StructSync
