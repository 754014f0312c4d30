import Mathlib
import StructSync.Proofs.Database.Reachable
import StructSync.Proofs.Validation

/-!
# Calls on a descriptor

`Descriptor.Call` lists the calls through which a descriptor changes its host. A call leaves the
name and the layout as they are, and all it does to the host is a run of requests that take at most
one id for the struct and one for each member.
-/

namespace StructSync

open Work

variable {σ τ : Type} [Host σ]

namespace Descriptor

/-! ### The ways a step can go -/

/-- The ways a creation can go: the struct is refused, or it stands with all its members, or it is
deleted again because a member is refused. -/
inductive Creation (d : Descriptor) (host : σ) :
    (Except SyncError StructId × Descriptor) × σ → Prop
  | refused (e : HostError) (after : σ)
      (hcreate : Host.createStruct d.name host = (.error e, after)) :
    Creation d host ((.error (.host e), d), after)
  | complete (id : StructId) (bindings : Bindings) (begun after : σ)
    (hcreate : Host.createStruct d.name host = (.ok id, begun))
    (hmembers : value (createMembers id d.layout.members) begun = (.ok bindings, after)) :
    Creation d host ((.ok id, { d with bindings, state := .materialized id }), after)
  | undone (id : StructId) (m : Member) (e : SyncError) (begun after : σ)
    (hcreate : Host.createStruct d.name host = (.ok id, begun))
    (hmembers : value (createMembers id d.layout.members) begun = (.error (m, e), after)) :
    Creation d host ((.error e, { d with bindings := [] }), (Host.deleteStruct id after).2)

theorem creation (d : Descriptor) (host : σ) : Creation d host (value d.create host) := by
  rw [value_create]
  rcases hcreate : Host.createStruct d.name host with ⟨e | id, begun⟩
  · exact .refused e begun hcreate
  · dsimp only
    rcases hmembers : value (createMembers id d.layout.members) begun with
      ⟨⟨m, e⟩ | bindings, after⟩
    · exact .undone id m e begun after hcreate hmembers
    · exact .complete id bindings begun after hcreate hmembers

/-- The ways a reconciliation can go: it is out of turn, or there is no struct of that name and one
is created, or the struct found cannot be read, is accepted, or is asked about. -/
inductive Reconciliation (d : Descriptor) (host : σ) :
    (Except SyncError Outcome × Descriptor) × σ → Prop
  | outOfTurn (e : SyncError) (hstate : d.state ≠ .schemaParsed) :
    Reconciliation d host ((.error e, d), host)
  | creates (result : Except SyncError StructId) (d' : Descriptor) (after : σ)
    (hstate : d.state = .schemaParsed) (hfind : Host.findStruct? host d.name = none)
    (hcreate : value d.create host = ((result, d'), after)) :
    Reconciliation d host ((result.map .created, d'), after)
  | unreadable (e : HostError) (existing : StructId)
    (hstate : d.state = .schemaParsed) (hfind : Host.findStruct? host d.name = some existing)
    (hread : Host.structSize host existing = .error e ∨ Host.members host existing = .error e) :
    Reconciliation d host ((.error (.host e), d), host)
  | accepts (existing : StructId) (size : UInt64) (stored : List HostMember)
    (hstate : d.state = .schemaParsed) (hfind : Host.findStruct? host d.name = some existing)
    (hsize : Host.structSize host existing = .ok size)
    (hmembers : Host.members host existing = .ok stored)
    (hmatch : d.differences size stored = []) :
    Reconciliation d host ((.ok (.accepted existing),
      { d with bindings := d.bound size stored, state := .materialized existing }), host)
  | asks (existing : StructId) (size : UInt64) (stored : List HostMember)
    (hstate : d.state = .schemaParsed) (hfind : Host.findStruct? host d.name = some existing)
    (hsize : Host.structSize host existing = .ok size)
    (hmembers : Host.members host existing = .ok stored)
    (hdiffer : d.differences size stored ≠ []) :
    Reconciliation d host ((.ok (.needsConfirmation ⟨d.name, d.differences size stored⟩),
      { d with
        bindings := []
        state := .awaitingConfirmation existing ⟨d.name, d.differences size stored⟩ }), host)

theorem reconciliation (d : Descriptor) (host : σ) :
    Reconciliation d host (value d.reconcile host) := by
  by_cases hstate : d.state = .schemaParsed
  · rw [value_reconcile_schemaParsed hstate]
    cases hfind : Host.findStruct? host d.name with
    | none =>
      dsimp only
      exact .creates _ _ _ hstate hfind rfl
    | some existing =>
      dsimp only
      rw [value_validate]
      rcases hsize : Host.structSize host existing with e | size
      · exact .unreadable e existing hstate hfind (.inl hsize)
      · rcases hmembers : Host.members host existing with e | stored
        · exact .unreadable e existing hstate hfind (.inr hmembers)
        · dsimp only
          by_cases hdiffer : d.differences size stored = []
          · rw [if_pos (Report.isMatch_iff.2 hdiffer)]
            exact .accepts existing size stored hstate hfind hsize hmembers hdiffer
          · have hbound : d.bound size stored = [] :=
              if_neg fun h => hdiffer (List.isEmpty_iff.1 h)
            rw [if_neg fun h => hdiffer (Report.isMatch_iff.1 h), hbound]
            exact .asks existing size stored hstate hfind hsize hmembers hdiffer
  · obtain ⟨e, he⟩ := value_reconcile_of_ne hstate host
    rw [he]
    exact .outOfTurn e hstate

/-- The ways an answer can be taken: nothing was asked, or the answer is not yes, or the struct
found before is not deleted, or it is deleted and created again. -/
inductive Resolution (decision : Decision) (d : Descriptor) (host : σ) :
    (Except SyncError Outcome × Descriptor) × σ → Prop
  | notAsked (hstate : ∀ existing report, d.state ≠ .awaitingConfirmation existing report) :
    Resolution decision d host ((.error (.noPendingQuestion d.name), d), host)
  | stopped (e : SyncError) (existing : StructId) (report : Report)
    (hstate : d.state = .awaitingConfirmation existing report) (hdecision : decision ≠ .yes) :
    Resolution decision d host ((.error e, { d with state := .schemaParsed }), host)
  | kept (e : HostError) (existing : StructId) (report : Report) (after : σ)
    (hstate : d.state = .awaitingConfirmation existing report) (hdecision : decision = .yes)
    (hdelete : Host.deleteStruct existing host = (.error e, after)) :
    Resolution decision d host ((.error (.host e), { d with state := .schemaParsed }), after)
  | replaces (existing : StructId) (report : Report) (freed : σ)
    (result : Except SyncError StructId) (d' : Descriptor) (after : σ)
    (hstate : d.state = .awaitingConfirmation existing report) (hdecision : decision = .yes)
    (hdelete : Host.deleteStruct existing host = (.ok (), freed))
    (hcreate : value { d with state := .schemaParsed }.create freed = ((result, d'), after)) :
    Resolution decision d host ((result.map (.recreated existing), d'), after)

theorem resolution (decision : Decision) (d : Descriptor) (host : σ) :
    Resolution decision d host (value (d.resolve decision) host) := by
  cases hstate : d.state with
  | awaitingConfirmation existing report =>
    by_cases hdecision : decision = .yes
    · subst hdecision
      rw [value_resolve_yes hstate]
      rcases hdelete : Host.deleteStruct existing host with ⟨e | _, after⟩
      · exact .kept e existing report after hstate rfl hdelete
      · exact .replaces existing report after _ _ _ hstate rfl hdelete rfl
    · obtain ⟨e, he⟩ := value_resolve_of_ne_yes hstate hdecision host
      rw [he]
      exact .stopped e existing report hstate hdecision
  | _ =>
    have hne : ∀ existing report, d.state ≠ .awaitingConfirmation existing report := by
      simp [hstate]
    rw [value_resolve_of_ne hne decision host]
    exact .notAsked hne

end Descriptor

/-- The struct that is waiting to be replaced. -/
def Descriptor.awaited? (d : Descriptor) : Option StructId :=
  match d.state with
  | .awaitingConfirmation existing _ => some existing
  | _ => none

/-- A call on a descriptor that may change its host. -/
inductive Descriptor.Call where
  | reconcile
  | resolve (decision : Decision)
  | materialize (confirm : Confirmer Id)

namespace Descriptor.Call

/-- What the call gives, the descriptor after it and the host after it. -/
def run : Call → Descriptor → σ → (Except SyncError Outcome × Descriptor) × σ
  | reconcile, d, host => value d.reconcile host
  | resolve decision, d, host => value (d.resolve decision) host
  | materialize confirm, d, host => (Id.run (d.materialize confirm host)).value

/-- The struct that the call may replace: the one its descriptor is waiting for if the answer is
yes, and the one found by a reconciliation that asks and is answered yes. -/
def replaced? (host : σ) : Call → Descriptor → Option StructId
  | .reconcile, _ => none
  | .resolve decision, d => if decision = .yes then d.awaited? else none
  | .materialize confirm, d =>
    match value d.reconcile host with
    | ((.ok (.needsConfirmation report), d), _) =>
      if (Id.run (confirm report.overwritePrompt)).value = .yes then d.awaited? else none
    | _ => none

/-- Is the answer yes, whatever is asked? -/
def Agrees (confirm : Confirmer Id) : Prop := ∀ prompt, (Id.run (confirm prompt)).value = .yes

theorem run_materialize (confirm : Confirmer Id) (d : Descriptor) (host : σ) :
    run (materialize confirm) d host =
      match value d.reconcile host with
      | ((.ok (.needsConfirmation report), d), host) =>
        value (d.resolve (Id.run (confirm report.overwritePrompt)).value) host
      | reconciled => reconciled := by
  show (Id.run (d.materialize confirm host)).value = _
  unfold Descriptor.materialize Work.value
  rcases h : (d.reconcile.run host).value with
    ⟨⟨e | (id | id | ⟨old, new⟩ | report), d'⟩, host'⟩ <;> simp only [h] <;> first | exact h | rfl

/-- Somebody who answers and may change on the way gives the answers of one moment, as there is at
most one question. -/
theorem value_materialize_state (confirm : Confirmer (StateM τ)) (d : Descriptor) (host : σ)
    (t : τ) :
    ((d.materialize confirm host).run t).1.value =
      run (materialize fun prompt => ((confirm prompt).run t).1) d host := by
  rw [run_materialize]
  unfold Descriptor.materialize Work.value
  rcases h : (d.reconcile.run host).value with
    ⟨⟨e | (id | id | ⟨old, new⟩ | report), d'⟩, host'⟩ <;> simp only [h] <;> first | exact h | rfl

theorem value_build (confirm : Confirmer Id) (name : String) (fields : List Field) (host : σ) :
    (Id.run (build confirm name fields host)).value =
      match ((ofName name).parse host fields).value with
      | (.error e, _) => (.error e, host)
      | (.ok (), d) =>
        let ((result, d), host) := run (materialize confirm) d host
        (result.map (d, ·), host) := by
  unfold build
  rcases h : ((ofName name).parse host fields).value with ⟨e | _, d⟩ <;> simp only [h] <;> rfl

theorem value_build_state (confirm : Confirmer (StateM τ)) (name : String) (fields : List Field)
    (host : σ) (t : τ) :
    ((build confirm name fields host).run t).1.value =
      (Id.run (build (fun prompt => ((confirm prompt).run t).1) name fields host)).value := by
  rw [value_build]
  unfold build
  rcases h : ((ofName name).parse host fields).value with ⟨e | _, d⟩
  · simp only [h]
    rfl
  · simp only [h, ← value_materialize_state]
    rfl

/-- A call that asks is a reconciliation that leaves a question, then its answer; any other call is
one of the two steps alone. -/
theorem run_materialize_cases (confirm : Confirmer Id) (d : Descriptor) (host : σ) :
    run (materialize confirm) d host = run reconcile d host ∨
      ∃ report d', run reconcile d host = ((.ok (.needsConfirmation report), d'), host) ∧
        run (materialize confirm) d host =
          run (resolve (Id.run (confirm report.overwritePrompt)).value) d' host := by
  rw [run_materialize]
  have h := reconciliation d host
  show _ ∨ ∃ report d', value d.reconcile host = _ ∧ _
  generalize hr : value d.reconcile host = r at h
  cases h with
  | outOfTurn e hstate => exact .inl hr.symm
  | creates result d' after hstate hfind hcreate =>
    rcases result with e | id
    · exact .inl hr.symm
    · exact .inl hr.symm
  | unreadable e existing hstate hfind => exact .inl hr.symm
  | accepts existing size stored hstate hfind hsize hmembers hmatch => exact .inl hr.symm
  | asks existing size stored hstate hfind hsize hmembers hdiffer => exact .inr ⟨_, _, rfl, rfl⟩

/-! ### Questions -/

theorem create_state (d : Descriptor) (host : σ) :
    (value d.create host).1.2.state = d.state ∨
      ∃ id, (value d.create host).1.2.state = .materialized id := by
  have h := creation d host
  generalize value d.create host = r at h
  cases h with
  | refused => exact .inl rfl
  | complete id => exact .inr ⟨id, rfl⟩
  | undone => exact .inl rfl

theorem resolve_settles (decision : Decision) (d : Descriptor) (host : σ) :
    (∀ report, (value (d.resolve decision) host).1.1 ≠ .ok (.needsConfirmation report)) ∧
      ∀ existing report,
        (value (d.resolve decision) host).1.2.state ≠ .awaitingConfirmation existing report := by
  have h := resolution decision d host
  generalize value (d.resolve decision) host = r at h
  cases h with
  | notAsked hstate => exact ⟨by simp, hstate⟩
  | stopped => simp
  | kept => simp
  | replaces existing report freed result d' after hstate hdecision hdelete hcreate =>
    have hd' := create_state { d with state := .schemaParsed } freed
    rw [hcreate] at hd'
    refine ⟨fun report => by cases result <;> simp [Except.map], fun existing report he => ?_⟩
    dsimp only at he hd'
    rcases hd' with h | ⟨id, h⟩
    · exact absurd (h.symm.trans he) (by simp)
    · exact absurd (h.symm.trans he) (by simp)

theorem run_needsConfirmation {c : Call} {d : Descriptor} {host : σ} {report : Report}
    (h : (c.run d host).1.1 = .ok (.needsConfirmation report)) :
    c = reconcile ∧ report.mismatches ≠ [] ∧ ∃ existing, d.state = .schemaParsed ∧
      Host.findStruct? host d.name = some existing ∧
      (c.run d host).1.2.state = .awaitingConfirmation existing report ∧
      (c.run d host).2 = host := by
  cases c with
  | reconcile =>
    have hr := reconciliation d host
    simp only [run] at h ⊢
    generalize value d.reconcile host = r at hr h
    cases hr with
    | creates result => cases result <;> simp [Except.map] at h
    | asks existing size stored hstate hfind hsize hmembers hdiffer =>
      obtain rfl : _ = report := by simpa using h
      exact ⟨trivial, hdiffer, existing, hstate, hfind, rfl, rfl⟩
    | _ => simp at h
  | resolve decision => exact absurd h ((resolve_settles decision d host).1 report)
  | materialize confirm =>
    rw [run_materialize] at h
    have hr := reconciliation d host
    generalize value d.reconcile host = r at hr h
    cases hr with
    | creates result => cases result <;> simp [Except.map] at h
    | asks => exact absurd h ((resolve_settles _ _ host).1 report)
    | _ => simp at h

theorem run_awaiting {c : Call} {d : Descriptor} {host : σ} {existing : StructId} {report : Report}
    (h : (c.run d host).1.2.state = .awaitingConfirmation existing report) :
    (c.run d host).1.1 = .ok (.needsConfirmation report) ∨
      d.state = .awaitingConfirmation existing report ∧ ∀ decision, c ≠ resolve decision := by
  have hreconcile (hr : (value d.reconcile host).1.2.state =
      .awaitingConfirmation existing report) :
      (value d.reconcile host).1.1 = .ok (.needsConfirmation report) ∨
        d.state = .awaitingConfirmation existing report := by
    have hcases := reconciliation d host
    generalize value d.reconcile host = r at hcases hr
    cases hcases with
    | outOfTurn => exact .inr hr
    | creates result d' after hstate hfind hcreate =>
      have hd' := create_state d host
      rw [hcreate] at hd'
      dsimp only at hr hd'
      rcases hd' with h | ⟨id, h⟩
      · exact .inr (h.symm.trans hr)
      · exact absurd (h.symm.trans hr) (by simp)
    | unreadable => exact .inr hr
    | accepts => simp at hr
    | asks existing' size stored hstate =>
      obtain ⟨-, rfl⟩ : _ ∧ _ = report := by simpa using hr
      exact .inl rfl
  cases c with
  | reconcile => exact (hreconcile h).imp_right fun h => ⟨h, nofun⟩
  | resolve decision => exact absurd h ((resolve_settles decision d host).2 existing report)
  | materialize confirm =>
    rcases run_materialize_cases confirm d host with hsame | ⟨report', asked, hasks, hsame⟩
    · rw [hsame] at h ⊢
      exact (hreconcile h).imp_right fun h => ⟨h, nofun⟩
    · rw [hsame] at h
      exact absurd h ((resolve_settles _ asked host).2 existing report)

/-! ### What stays -/

/-- The descriptors that differ in bindings and state only. -/
def Alike (a b : Descriptor) : Prop := a.name = b.name ∧ a.layout = b.layout

theorem create_alike (d : Descriptor) (host : σ) : Alike (value d.create host).1.2 d := by
  have h := creation d host
  generalize value d.create host = r at h
  cases h <;> exact ⟨rfl, rfl⟩

theorem reconcile_alike (d : Descriptor) (host : σ) : Alike (value d.reconcile host).1.2 d := by
  have h := reconciliation d host
  generalize value d.reconcile host = r at h
  cases h with
  | creates result d' after hstate hfind hcreate =>
    have := create_alike d host
    rw [hcreate] at this
    exact this
  | _ => exact ⟨rfl, rfl⟩

theorem resolve_alike (decision : Decision) (d : Descriptor) (host : σ) :
    Alike (value (d.resolve decision) host).1.2 d := by
  have h := resolution decision d host
  generalize value (d.resolve decision) host = r at h
  cases h with
  | replaces existing report freed result d' after hstate hdecision hdelete hcreate =>
    have := create_alike { d with state := .schemaParsed } freed
    rw [hcreate] at this
    exact this
  | _ => exact ⟨rfl, rfl⟩

theorem run_alike (c : Call) (d : Descriptor) (host : σ) : Alike (c.run d host).1.2 d := by
  cases c with
  | reconcile => exact reconcile_alike d host
  | resolve decision => exact resolve_alike decision d host
  | materialize confirm =>
    rcases run_materialize_cases confirm d host with h | ⟨report, d', hasks, h⟩
    · rw [h]
      exact reconcile_alike d host
    · rw [h]
      have hd' : Alike d' d := by
        have := reconcile_alike d host
        rw [show value d.reconcile host = _ from hasks] at this
        exact this
      have := resolve_alike (Id.run (confirm report.overwritePrompt)).value d' host
      exact ⟨this.1.trans hd'.1, this.2.trans hd'.2⟩

/-! ### What is asked of the host -/

theorem member_requests (id : StructId) (m : Member) (host : σ) :
    ∃ requests, (value (m.materialize id) host).2 = Request.performAll requests host ∧
      Request.idsOfAll requests ≤ 1 ∧ ∀ r ∈ requests, r.creates? = none := by
  rw [Member.value_materialize]
  let create : Request := .createMember id m.name m.offset m.size m.type.flags
  rcases hc : Host.createMember id m.name m.offset m.size m.type.flags host with ⟨e | member, host'⟩
  · refine ⟨[create], ?_, by simp [create, Request.ids], by simp [create, Request.creates?]⟩
    simp [create, Request.perform, hc]
  · refine ⟨[create, .setMemberType id member m.offset m.type.type], ?_,
      by simp [create, Request.ids], by simp [create, Request.creates?]⟩
    dsimp only
    rcases ht : Host.setMemberType id member m.offset m.type.type host' with ⟨e | _, host''⟩ <;>
      simp [create, Request.perform, hc, ht]

theorem members_requests (id : StructId) (members : List Member) (host : σ) :
    ∃ requests, (value (createMembers id members) host).2 = Request.performAll requests host ∧
      Request.idsOfAll requests ≤ members.length ∧ ∀ r ∈ requests, r.creates? = none := by
  induction members generalizing host with
  | nil => exact ⟨[], rfl, Nat.le_refl _, nofun⟩
  | cons m rest ih =>
    rw [value_createMembers_cons]
    obtain ⟨first, hfirst, hids, hnone⟩ := member_requests id m host
    rcases hm : value (m.materialize id) host with ⟨e | member, host'⟩
    · refine ⟨first, ?_, by simp only [List.length_cons]; omega, hnone⟩
      rw [← hfirst, hm]
    · obtain ⟨others, hothers, hidsOthers, hnoneOthers⟩ := ih host'
      refine ⟨first ++ others, ?_, by simp only [Request.idsOfAll_append, List.length_cons]; omega,
        List.forall_mem_append.2 ⟨hnone, hnoneOthers⟩⟩
      rw [Request.performAll_append, ← hfirst, hm, ← hothers]
      dsimp only
      rcases value (createMembers id rest) host' with ⟨e | bindings, host''⟩ <;> rfl

/-- Only the first request of a creation makes a struct. -/
theorem create_requests (d : Descriptor) (host : σ) :
    ∃ requests, (value d.create host).2 = Request.performAll requests host ∧
      Request.idsOfAll requests ≤ d.layout.members.length + 1 ∧
      ∀ r ∈ requests, ∀ name ∈ r.creates?, name = d.name := by
  have h := creation d host
  generalize value d.create host = r at h
  cases h with
  | refused e after hcreate =>
    exact ⟨[.createStruct d.name], by simp [Request.perform, hcreate], by simp [Request.ids],
      by simp [Request.creates?]⟩
  | complete id bindings begun after hcreate hmembers =>
    obtain ⟨members, hr, hids, hnone⟩ := members_requests id d.layout.members begun
    rw [hmembers] at hr
    refine ⟨.createStruct d.name :: members, ?_, ?_, ?_⟩
    · simp [Request.perform, hcreate, ← hr]
    · simp only [Request.idsOfAll_cons, Request.ids]
      omega
    · exact List.forall_mem_cons.2 ⟨by simp [Request.creates?], Request.creates?_of_none hnone⟩
  | undone id m e begun after hcreate hmembers =>
    obtain ⟨members, hr, hids, hnone⟩ := members_requests id d.layout.members begun
    rw [hmembers] at hr
    refine ⟨.createStruct d.name :: (members ++ [.deleteStruct id]), ?_, ?_, ?_⟩
    · simp [Request.perform, hcreate, Request.performAll_append, ← hr]
    · simp only [Request.idsOfAll_cons, Request.idsOfAll_append, Request.idsOfAll_nil, Request.ids]
      omega
    · have hdelete : ∀ r ∈ [Request.deleteStruct id], r.creates? = none := by
        simp [Request.creates?]
      exact List.forall_mem_cons.2 ⟨by simp [Request.creates?],
        Request.creates?_of_none (List.forall_mem_append.2 ⟨hnone, hdelete⟩)⟩

theorem reconcile_requests (d : Descriptor) (host : σ) :
    ∃ requests, (value d.reconcile host).2 = Request.performAll requests host ∧
      Request.idsOfAll requests ≤ d.layout.members.length + 1 ∧
      ∀ r ∈ requests, ∀ name ∈ r.creates?, name = d.name := by
  have h := reconciliation d host
  generalize value d.reconcile host = r at h
  cases h with
  | creates result d' after hstate hfind hcreate =>
    have := create_requests d host
    rwa [hcreate] at this
  | _ => exact ⟨[], rfl, Nat.zero_le _, nofun⟩

theorem resolve_requests (decision : Decision) (d : Descriptor) (host : σ) :
    ∃ requests, (value (d.resolve decision) host).2 = Request.performAll requests host ∧
      Request.idsOfAll requests ≤ d.layout.members.length + 1 ∧
      ∀ r ∈ requests, ∀ name ∈ r.creates?, name = d.name := by
  have h := resolution decision d host
  generalize value (d.resolve decision) host = r at h
  cases h with
  | kept e existing report after hstate hdecision hdelete =>
    exact ⟨[.deleteStruct existing], by simp [Request.perform, hdelete], Nat.zero_le _,
      by simp [Request.creates?]⟩
  | replaces existing report freed result d' after hstate hdecision hdelete hcreate =>
    obtain ⟨requests, hr, hids, hnames⟩ := create_requests { d with state := .schemaParsed } freed
    rw [hcreate] at hr
    refine ⟨.deleteStruct existing :: requests, ?_, ?_, ?_⟩
    · simp [Request.perform, hdelete, ← hr]
    · simpa [Request.ids] using hids
    · exact List.forall_mem_cons.2 ⟨nofun, hnames⟩
  | _ => exact ⟨[], rfl, Nat.zero_le _, nofun⟩

/-- All that a call does to its host is a run of requests, and the only structs that these make have
the name of the descriptor. -/
theorem run_requests (c : Call) (d : Descriptor) (host : σ) :
    ∃ requests, (c.run d host).2 = Request.performAll requests host ∧
      Request.idsOfAll requests ≤ d.layout.members.length + 1 ∧
      ∀ r ∈ requests, ∀ name ∈ r.creates?, name = d.name := by
  cases c with
  | reconcile => exact reconcile_requests d host
  | resolve decision => exact resolve_requests decision d host
  | materialize confirm =>
    rcases run_materialize_cases confirm d host with h | ⟨report, d', hasks, h⟩
    · rw [h]
      exact reconcile_requests d host
    · rw [h]
      have hd' := run_alike reconcile d host
      rw [hasks] at hd'
      rw [← hd'.1, ← hd'.2]
      exact resolve_requests (Id.run (confirm report.overwritePrompt)).value d' host

end Descriptor.Call

end StructSync
