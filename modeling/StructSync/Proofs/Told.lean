import Mathlib
import StructSync.Proofs.InStep

/-!
# What is told of each struct

`recordAll` brings a host in step and writes down what is told of each struct; but for the record it
does what `syncAll` does (`run_recordAll`), and `toldAll` is the record. Main statement
(`toldAll_accepted_iff`): all structs are told to be accepted exactly if all are in step with the
host as it is at the start, whoever answers. The induction goes through since a struct that is
accepted leaves the host as it is (`Descriptor.build_accepted`), so the next one is laid out and
compared against the same host.
-/

namespace StructSync

open Work

variable {α β ρ σ τ : Type} [Host σ] {host : σ}

/-- A struct with what is told of it. -/
abbrev Told := StructSchema × Except SyncError (Descriptor × Outcome)

/-- Each struct is told of, and accepted. -/
def AllAccepted (told : List Told) (structs : List StructSchema) : Prop :=
  told.map Prod.fst = structs ∧ ∀ x ∈ told, ∃ d id, x.2 = .ok (d, .accepted id)

/-! ### Keeping a record -/

/-- The step with a record beside the state, which it leaves as it is. -/
def beside (x : StateM τ α) : StateM (τ × ρ) α := fun s => ((x.run s.1).1, ((x.run s.1).2, s.2))

/-- Brings the host in step, and writes down what is told of each struct. -/
def recordAll (confirm : Confirmer (StateM τ))
    (tell : StructSchema → Logged (Except SyncError (Descriptor × Outcome)) → StateM τ Unit) :
    List StructSchema → σ → StateM (τ × List Told) (Except SyncError Unit × σ) :=
  syncAll (fun prompt => beside (confirm prompt)) fun entry built => do
    beside (tell entry built)
    modify fun s => (s.1, s.2 ++ [(entry, built.value)])

/-- What is told of the structs while the host is brought in step. -/
def toldAll (confirm : Confirmer (StateM τ))
    (tell : StructSchema → Logged (Except SyncError (Descriptor × Outcome)) → StateM τ Unit)
    (structs : List StructSchema) (host : σ) (t : τ) : List Told :=
  ((recordAll confirm tell structs host).run (t, [])).2.2

theorem build_beside (confirm : Confirmer (StateM τ)) (name : String) (fields : List Field)
    (host : σ) :
    Descriptor.build (m := StateM (τ × ρ)) (fun prompt => beside (confirm prompt)) name fields
      host = beside (Descriptor.build confirm name fields host) := by
  have hmaterialize (d : Descriptor) :
      d.materialize (m := StateM (τ × ρ)) (fun prompt => beside (confirm prompt)) host =
        beside (d.materialize confirm host) := by
    unfold Descriptor.materialize
    rcases hreconcile : (d.reconcile.run host).value with
      ⟨⟨e | (id | id | ⟨old, new⟩ | report), d'⟩, host'⟩ <;> simp only [hreconcile] <;> rfl
  unfold Descriptor.build
  rcases hparse : ((Descriptor.ofName name).parse host fields).value with ⟨e | _, d⟩
  · simp only [hparse]
    rfl
  · simp only [hparse, hmaterialize]
    rfl

variable {confirm : Confirmer (StateM τ)}
  {tell : StructSchema → Logged (Except SyncError (Descriptor × Outcome)) → StateM τ Unit}
  {entry : StructSchema} {rest structs : List StructSchema} {t : τ}

theorem run_recordAll_cons (told : List Told) :
    (recordAll confirm tell (entry :: rest) host).run (t, told) =
      let (built, t) := (Descriptor.build confirm entry.name entry.fields host).run t
      let (_, t) := (tell entry ⟨built.value.1, built.log⟩).run t
      let told := told ++ [(entry, built.value.1)]
      match built.value with
      | (.error e, host) => ((.error e, host), (t, told))
      | (.ok _, host) => (recordAll confirm tell rest host).run (t, told) := by
  unfold recordAll
  rw [run_syncAll_cons, build_beside]
  rfl

/-- But for the record it is the loop without it, and what is told is put behind what was told. -/
theorem run_recordAll (told : List Told) :
    (recordAll confirm tell structs host).run (t, told) =
      (((syncAll confirm tell structs host).run t).1,
        (((syncAll confirm tell structs host).run t).2,
          told ++ toldAll confirm tell structs host t)) := by
  induction structs generalizing host t told with
  | nil =>
    show _ = (_, (_, told ++ []))
    rw [List.append_nil]
    rfl
  | cons entry rest ih =>
    unfold toldAll
    rw [run_recordAll_cons, run_recordAll_cons, run_syncAll_cons]
    rcases (Descriptor.build confirm entry.name entry.fields host).run t with
      ⟨⟨⟨e | built, host'⟩, log⟩, t₁⟩
    · rfl
    · dsimp only
      rcases (tell entry ⟨.ok built, log⟩).run t₁ with ⟨_, t₂⟩
      dsimp only
      rw [ih, ih, List.nil_append, List.append_assoc]

theorem toldAll_cons :
    toldAll confirm tell (entry :: rest) host t =
      let (built, t) := (Descriptor.build confirm entry.name entry.fields host).run t
      let (_, t) := (tell entry ⟨built.value.1, built.log⟩).run t
      match built.value with
      | (.error e, _) => [(entry, .error e)]
      | (.ok found, host) => (entry, .ok found) :: toldAll confirm tell rest host t := by
  unfold toldAll
  rw [run_recordAll_cons]
  rcases (Descriptor.build confirm entry.name entry.fields host).run t with
    ⟨⟨⟨e | built, host'⟩, log⟩, t₁⟩
  · rfl
  · dsimp only
    rcases (tell entry ⟨.ok built, log⟩).run t₁ with ⟨_, t₂⟩
    dsimp only
    rw [run_recordAll]
    rfl

/-! ### Accepted structs -/

theorem Descriptor.resolve_ne_accepted (d : Descriptor) (decision : Decision) (host : σ)
    (id : StructId) : (value (d.resolve decision) host).1.1 ≠ .ok (.accepted id) := by
  have h := resolution decision d host
  generalize value (d.resolve decision) host = r at h
  cases h with
  | notAsked hstate => simp
  | stopped e existing report hstate hdecision => simp
  | kept e existing report after hstate hdecision hdelete => simp
  | replaces existing report freed result d' after hstate hdecision hdelete hcreate =>
    cases result <;> simp [Except.map]

theorem Descriptor.materialize_accepted {confirm : Confirmer Id} {d : Descriptor} {id : StructId}
    (h : (Call.run (.materialize confirm) d host).1.1 = .ok (.accepted id)) :
    Shows host d id ∧ (Call.run (.materialize confirm) d host).2 = host := by
  rw [Call.run_materialize] at h ⊢
  have hr := reconciliation d host
  generalize value d.reconcile host = r at hr h
  cases hr with
  | outOfTurn e hstate => cases h
  | creates result d' after hstate hfind hcreate =>
    cases result with
    | error e => cases h
    | ok created => cases h
  | unreadable e existing hstate hfind hread => cases h
  | accepts existing size stored hstate hfind hsize hmembers hmatch =>
    cases h
    exact ⟨⟨hfind, size, stored, hsize, hmembers, hmatch⟩, rfl⟩
  | asks existing size stored hstate hfind hsize hmembers hdiffer =>
    exact absurd h (resolve_ne_accepted _ _ _ id)

theorem Descriptor.build_accepted {d : Descriptor} {id : StructId}
    (h : ((build confirm entry.name entry.fields host).run t).1.value.1 = .ok (d, .accepted id)) :
    entry.InStep host ∧ ((build confirm entry.name entry.fields host).run t).1.value.2 = host := by
  rw [Call.value_build_state, Call.value_build] at h ⊢
  rcases hparse : ((ofName entry.name).parse host entry.fields).value with ⟨e | _, parsed⟩
  · rw [hparse] at h
    cases h
  · rw [hparse] at h
    dsimp only at h ⊢
    generalize hrun : Call.run (.materialize fun prompt => ((confirm prompt).run t).1) parsed host =
      ran at h
    obtain ⟨⟨result, d'⟩, after⟩ := ran
    cases result with
    | error e => cases h
    | ok outcome =>
      cases h
      have haccepted : (Call.run (.materialize fun prompt => ((confirm prompt).run t).1) parsed
          host).1.1 = .ok (.accepted id) := by rw [hrun]
      have hshows := materialize_accepted haccepted
      rw [hrun] at hshows
      exact ⟨⟨parsed, id, hparse, hshows.1⟩, hshows.2⟩

theorem toldAll_accepted_iff :
    AllAccepted (toldAll confirm tell structs host t) structs ↔
      ∀ entry ∈ structs, entry.InStep host := by
  induction structs generalizing t with
  | nil => exact ⟨fun _ => List.forall_mem_nil _, fun _ => ⟨rfl, List.forall_mem_nil _⟩⟩
  | cons entry rest ih =>
    constructor
    · rintro ⟨hnames, haccepted⟩
      -- the first struct is told to be accepted, so the others are told against the same host
      rw [toldAll_cons] at hnames haccepted
      rcases hbuild : (Descriptor.build confirm entry.name entry.fields host).run t with
        ⟨⟨⟨e | found, host'⟩, log⟩, t₁⟩
      · rw [hbuild] at haccepted
        obtain ⟨d, id, he⟩ := haccepted (entry, .error e) (List.mem_singleton.2 rfl)
        cases he
      · rw [hbuild] at hnames haccepted
        dsimp only at hnames haccepted
        obtain ⟨⟨d, id, hfound⟩, hrest⟩ := List.forall_mem_cons.1 haccepted
        have hbuilt : ((Descriptor.build confirm entry.name entry.fields host).run t).1.value.1 =
            .ok (d, .accepted id) := by
          rw [hbuild]
          exact hfound
        have hentry := Descriptor.build_accepted hbuilt
        obtain rfl : host' = host := by simpa [hbuild] using hentry.2
        refine List.forall_mem_cons.2 ⟨hentry.1, ih.1 ⟨?_, hrest⟩⟩
        exact List.tail_eq_of_cons_eq hnames
    · intro h
      obtain ⟨hentry, hrest⟩ := List.forall_mem_cons.1 h
      obtain ⟨built, d, id, hvalue, hbuild⟩ := Descriptor.build_inStep hentry
      have htold := (ih (t := ((tell entry ⟨built.value.1, built.log⟩).run t).2)).2 hrest
      obtain ⟨hnames, haccepted⟩ := htold
      rw [toldAll_cons, hbuild confirm]
      show AllAccepted (match built.value with
        | (.error e, _) => [(entry, .error e)]
        | (.ok found, host) => (entry, .ok found) :: toldAll confirm tell rest host _) _
      rw [hvalue] at hnames haccepted ⊢
      exact ⟨congrArg (entry :: ·) hnames, List.forall_mem_cons.2 ⟨⟨d, id, rfl⟩, haccepted⟩⟩

end StructSync
