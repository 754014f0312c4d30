import Mathlib
import StructSync.Sync

/-!
# What work gives and leaves behind

`Work.value` is a piece of work without its log: the answer and the host after it. The equations
here say what it is for each step of a descriptor, as plain case distinctions on what the host
answers, so that proofs about hosts never meet the log.
-/

namespace StructSync

variable {α β σ : Type}

namespace Logged

theorem value_foldlM (f : β → α → Logged β) (b : β) (l : List α) :
    (l.foldlM f b).value = l.foldl (fun b a => (f b a).value) b := by
  induction l generalizing b with
  | nil => rfl
  | cons a l ih => simp only [List.foldlM_cons, value_bind, List.foldl_cons, ih]

end Logged

namespace Work

/-- What the work gives and the host it leaves behind. -/
def value (x : Work σ α) (host : σ) : α × σ := (x.run host).value

@[simp] theorem value_pure (a : α) (host : σ) : value (pure a : Work σ α) host = (a, host) := rfl

@[simp] theorem value_bind (x : Work σ α) (f : α → Work σ β) (host : σ) :
    value (x >>= f) host = value (f (value x host).1) (value x host).2 := rfl

@[simp] theorem value_get (host : σ) : value (get : Work σ σ) host = (host, host) := rfl

@[simp] theorem value_modifyGet (f : σ → α × σ) (host : σ) :
    value (modifyGet f : Work σ α) host = f host := rfl

@[simp] theorem value_lift (x : Logged α) (host : σ) :
    value (liftM x : Work σ α) host = (x.value, host) := rfl

end Work

open Work

section
variable [Host σ]

theorem Member.value_materialize (id : StructId) (m : Member) (host : σ) :
    value (m.materialize id) host =
      match Host.createMember id m.name m.offset m.size m.type.flags host with
      | (.error e, host) => (.error (.refusedMember m.path e), host)
      | (.ok member, host) =>
        match Host.setMemberType id member m.offset m.type.type host with
        | (.error e, host) => (.error (.refusedMember m.path e), host)
        | (.ok (), host) => (.ok member, host) := by
  simp only [Member.materialize, value_bind, value_modifyGet]
  rcases Host.createMember id m.name m.offset m.size m.type.flags host with ⟨e | member, host⟩
  · rfl
  · simp only [value_bind, value_modifyGet]
    rcases Host.setMemberType id member m.offset m.type.type host with ⟨e | _, host⟩ <;> rfl

@[simp] theorem value_createMembers_nil (id : StructId) (host : σ) :
    value (createMembers id []) host = (.ok [], host) := rfl

theorem value_createMembers_cons (id : StructId) (m : Member) (rest : List Member) (host : σ) :
    value (createMembers id (m :: rest)) host =
      match value (m.materialize id) host with
      | (.error e, host) => (.error (m, e), host)
      | (.ok member, host) =>
        match value (createMembers id rest) host with
        | (.error failure, host) => (.error failure, host)
        | (.ok bindings, host) => (.ok ((m.name, member) :: bindings), host) := by
  simp only [createMembers, value_bind]
  rcases value (m.materialize id) host with ⟨e | member, host⟩
  · rfl
  · simp only [value_bind]
    rcases value (createMembers id rest) host with ⟨e | bindings, host⟩ <;> rfl

namespace Descriptor

theorem value_create (d : Descriptor) (host : σ) :
    value d.create host =
      match Host.createStruct d.name host with
      | (.error e, host) => ((.error (.host e), d), host)
      | (.ok id, host) =>
        match value (createMembers id d.layout.members) host with
        | (.ok bindings, host) => ((.ok id, { d with bindings, state := .materialized id }), host)
        | (.error (_, e), host) =>
          ((.error e, { d with bindings := [] }), (Host.deleteStruct id host).2) := by
  simp only [create, value_bind, value_modifyGet]
  rcases Host.createStruct d.name host with ⟨e | id, host⟩
  · rfl
  · simp only [value_bind]
    rcases value (createMembers id d.layout.members) host with ⟨⟨m, e⟩ | bindings, host⟩
    · simp only [value_bind, value_modifyGet, value_lift]
      rcases Host.deleteStruct id host with ⟨e | _, host⟩ <;> rfl
    · rfl

theorem value_reconcile_schemaParsed {d : Descriptor} (hd : d.state = .schemaParsed) (host : σ) :
    value d.reconcile host =
      match Host.findStruct? host d.name with
      | none => let ((result, d), host) := value d.create host; ((result.map .created, d), host)
      | some existing =>
        match (d.validate host existing).value with
        | (.error e, d) => ((.error e, d), host)
        | (.ok report, d) =>
          if report.isMatch then
            ((.ok (.accepted existing), { d with state := .materialized existing }), host)
          else
            ((.ok (.needsConfirmation report),
              { d with state := .awaitingConfirmation existing report }), host) := by
  unfold reconcile
  rw [hd]
  simp only [value_bind, value_get]
  cases Host.findStruct? host d.name with
  | none => rfl
  | some existing =>
    dsimp only
    rw [value_bind, value_get, value_bind, value_lift]
    rcases (d.validate host existing).value with ⟨e | report, d⟩
    · rfl
    · dsimp only
      split <;> rfl

theorem value_reconcile_of_ne {d : Descriptor} (hd : d.state ≠ .schemaParsed) (host : σ) :
    ∃ e, value d.reconcile host = ((.error e, d), host) := by
  unfold reconcile
  cases h : d.state with
  | schemaParsed => exact absurd h hd
  | uninitialized => exact ⟨_, rfl⟩
  | awaitingConfirmation => exact ⟨_, rfl⟩
  | materialized => exact ⟨_, rfl⟩

theorem value_resolve_yes {d : Descriptor} {existing : StructId} {report : Report}
    (hd : d.state = .awaitingConfirmation existing report) (host : σ) :
    value (d.resolve .yes) host =
      match Host.deleteStruct existing host with
      | (.error e, host) => ((.error (.host e), { d with state := .schemaParsed }), host)
      | (.ok (), host) =>
        let ((result, d), host) := value { d with state := .schemaParsed }.create host
        ((result.map (.recreated existing), d), host) := by
  unfold resolve
  rw [hd]
  simp only [value_bind, value_modifyGet]
  rcases Host.deleteStruct existing host with ⟨e | _, host⟩ <;> rfl

theorem value_resolve_of_ne_yes {d : Descriptor} {existing : StructId} {report : Report}
    (hd : d.state = .awaitingConfirmation existing report) {decision : Decision}
    (hdecision : decision ≠ .yes) (host : σ) :
    ∃ e, value (d.resolve decision) host =
      ((.error e, { d with state := .schemaParsed }), host) := by
  unfold resolve
  rw [hd]
  cases decision with
  | yes => exact absurd rfl hdecision
  | no => exact ⟨_, rfl⟩
  | cancel => exact ⟨_, rfl⟩

theorem value_resolve_of_ne {d : Descriptor}
    (hd : ∀ existing report, d.state ≠ .awaitingConfirmation existing report)
    (decision : Decision) (host : σ) :
    value (d.resolve decision) host = ((.error (.noPendingQuestion d.name), d), host) := by
  unfold resolve
  cases h : d.state with
  | awaitingConfirmation existing report => exact absurd h (hd existing report)
  | schemaParsed => rfl
  | uninitialized => rfl
  | materialized => rfl

end Descriptor

end

end StructSync
