import Mathlib
import StructSync.Proofs.Consent
import StructSync.Proofs.Parse

/-!
# The life of a descriptor

A descriptor begins with a name and no schema and takes turns: it is parsed, validated or called, on
a host that may be another one at every turn, whatever the hosts and the owner answer. A turn leaves
the state as it is or is one of the moves of `State.Moves`. Main statement (`life_cycle`): what a
descriptor waits for is a question about its own name; once parsed it keeps its layout; once
materialized it keeps its struct, and refuses everything but a validation without a question and
without a request.
-/

namespace StructSync.Descriptor

open Work

/-- A call on a descriptor and the host that it is made on, which may be of any kind. -/
inductive Turn : Type 1 where
  | parse {σ : Type} [Host σ] (host : σ) (fields : List Field)
  | validate {σ : Type} [Host σ] (host : σ) (id : StructId)
  | call {σ : Type} [Host σ] (host : σ) (c : Call)

/-- The descriptor after the turn, whatever the turn has come to. -/
def take (d : Descriptor) : Turn → Descriptor
  | @Turn.parse _ _ host fields => (d.parse host fields).value.2
  | @Turn.validate _ _ host id => (d.validate host id).value.2
  | @Turn.call _ _ host c => (c.run d host).1.2

def takeAll (d : Descriptor) (turns : List Turn) : Descriptor := turns.foldl take d

@[simp] theorem takeAll_nil (d : Descriptor) : d.takeAll [] = d := rfl

@[simp] theorem takeAll_cons (d : Descriptor) (turn : Turn) (turns : List Turn) :
    d.takeAll (turn :: turns) = (d.take turn).takeAll turns := rfl

@[simp] theorem takeAll_append (d : Descriptor) (turns later : List Turn) :
    d.takeAll (turns ++ later) = (d.takeAll turns).takeAll later := List.foldl_append

theorem takeAll_induction {P : Descriptor → Prop} (hstep : ∀ d turn, P d → P (d.take turn))
    {d : Descriptor} (h : P d) (turns : List Turn) : P (d.takeAll turns) := by
  induction turns generalizing d with
  | nil => exact h
  | cons turn turns ih => exact ih (hstep d turn h)

/-- The moves from one state to another. -/
inductive State.Moves : State → State → Prop
  | parses : Moves .uninitialized .schemaParsed
  | asks (existing : StructId) (report : Report) :
    Moves .schemaParsed (.awaitingConfirmation existing report)
  | settles (id : StructId) : Moves .schemaParsed (.materialized id)
  | drops (existing : StructId) (report : Report) :
    Moves (.awaitingConfirmation existing report) .schemaParsed
  | replaces (existing : StructId) (report : Report) (id : StructId) :
    Moves (.awaitingConfirmation existing report) (.materialized id)

namespace State.Moves

variable {s t : State}

theorem ne_uninitialized (h : Moves s t) : t ≠ .uninitialized := by
  cases h <;> simp

theorem ne_materialized (h : Moves s t) (id : StructId) : s ≠ .materialized id := by
  cases h <;> simp

end State.Moves

variable {σ : Type} [Host σ] {d : Descriptor} {existing id : StructId} {report : Report}

/-! ### Parsing -/

theorem parse_of_ne (hd : d.state ≠ .uninitialized) (host : σ) (fields : List Field) :
    d.parse host fields = pure (.error (.outOfTurn d.name .parse), d) := by
  unfold parse
  rw [if_pos hd]

theorem parse_moves (d : Descriptor) (host : σ) (fields : List Field) :
    (d.parse host fields).value.2.state = d.state ∨
      State.Moves d.state (d.parse host fields).value.2.state := by
  by_cases hd : d.state = .uninitialized
  · rw [value_parse hd, hd]
    rcases (d.layout.addFields host d.name 0 fields).value with ⟨e | _, layout⟩
    · exact .inl rfl
    · exact .inr .parses
  · rw [parse_of_ne hd]
    exact .inl rfl

theorem parse_ok_state {host : σ} {fields : List Field}
    (h : (d.parse host fields).value.1 = .ok ()) :
    (d.parse host fields).value.2.state = .schemaParsed := by
  by_cases hd : d.state = .uninitialized
  · rw [value_parse hd] at h ⊢
    rcases hl : (d.layout.addFields host d.name 0 fields).value with ⟨e | _, layout⟩
    · rw [hl] at h
      cases h
    · rfl
  · rw [parse_of_ne hd] at h
    cases h

/-! ### Calling -/

theorem create_ok_state {host : σ} {id : StructId} (h : (value d.create host).1.1 = .ok id) :
    (value d.create host).1.2.state = .materialized id := by
  have hcases := creation d host
  generalize value d.create host = r at hcases h
  cases hcases with
  | refused => cases h
  | complete created =>
    obtain rfl := Except.ok.inj h
    rfl
  | undone => cases h

theorem reconcile_moves (d : Descriptor) (host : σ) :
    (value d.reconcile host).1.2.state = d.state ∨
      State.Moves d.state (value d.reconcile host).1.2.state := by
  have h := reconciliation d host
  generalize value d.reconcile host = r at h
  cases h with
  | outOfTurn e hstate => exact .inl rfl
  | creates result d' after hstate hfind hcreate =>
    have hd' := Call.create_state d host
    rw [hcreate] at hd'
    rcases hd' with hsame | ⟨id, hid⟩
    · exact .inl hsame
    · rw [hid, hstate]
      exact .inr (.settles id)
  | unreadable e existing hstate => exact .inl rfl
  | accepts existing size stored hstate =>
    rw [hstate]
    exact .inr (.settles existing)
  | asks existing size stored hstate =>
    rw [hstate]
    exact .inr (.asks existing _)

theorem resolve_ends (hd : d.state = .awaitingConfirmation existing report) (decision : Decision)
    (host : σ) :
    (value (d.resolve decision) host).1.2.state = .schemaParsed ∨
      ∃ id, (value (d.resolve decision) host).1.2.state = .materialized id := by
  have h := resolution decision d host
  generalize value (d.resolve decision) host = r at h
  cases h with
  | notAsked hstate => exact absurd hd (hstate existing report)
  | stopped => exact .inl rfl
  | kept => exact .inl rfl
  | replaces existing' report' freed result d' after hstate hdecision hdelete hcreate =>
    have hd' := Call.create_state { d with state := .schemaParsed } freed
    rw [hcreate] at hd'
    exact hd'

theorem resolve_moves (decision : Decision) (d : Descriptor) (host : σ) :
    (value (d.resolve decision) host).1.2.state = d.state ∨
      State.Moves d.state (value (d.resolve decision) host).1.2.state := by
  cases hd : d.state with
  | awaitingConfirmation existing report =>
    rcases resolve_ends hd decision host with hends | ⟨id, hends⟩
    · rw [hends]
      exact .inr (.drops existing report)
    · rw [hends]
      exact .inr (.replaces existing report id)
  | _ =>
    rw [value_resolve_of_ne (by simp [hd])]
    exact .inl hd

theorem call_moves (c : Call) (d : Descriptor) (host : σ) :
    (c.run d host).1.2.state = d.state ∨ State.Moves d.state (c.run d host).1.2.state := by
  cases c with
  | reconcile => exact reconcile_moves d host
  | resolve decision => exact resolve_moves decision d host
  | materialize confirm =>
    rcases Call.run_materialize_cases confirm d host with hsame | ⟨report, asking, hasks, hsame⟩
    · rw [hsame]
      exact reconcile_moves d host
    · -- asked and answered in one turn, the descriptor has been waiting in between
      obtain ⟨-, -, existing, hstate, -, hwaits, -⟩ :=
        Call.run_needsConfirmation (congrArg (·.1.1) hasks)
      rw [hasks] at hwaits
      rw [hsame, hstate]
      rcases resolve_ends hwaits (Id.run (confirm report.overwritePrompt)).value host with
        hends | ⟨id, hends⟩
      · exact .inl hends
      · rw [show ((Call.resolve _).run asking host).1.2.state = _ from hends]
        exact .inr (.settles id)

/-! ### Questions -/

/-- What the descriptor waits for is a question about the struct of its name, and there is something
to ask. -/
def AsksOfItself (d : Descriptor) : Prop :=
  ∀ existing report, d.state = .awaitingConfirmation existing report →
    report.struct = d.name ∧ report.mismatches ≠ []

theorem reconcile_asksOfItself (h : d.AsksOfItself) (host : σ) :
    (value d.reconcile host).1.2.AsksOfItself := by
  have hr := reconciliation d host
  generalize value d.reconcile host = r at hr
  cases hr with
  | outOfTurn => exact h
  | creates result d' after hstate hfind hcreate =>
    intro existing report hwaits
    have hd' := Call.create_state d host
    rw [hcreate] at hd'
    rcases hd' with hsame | ⟨id, hid⟩
    · exact absurd (hstate.symm.trans (hsame.symm.trans hwaits)) (by simp)
    · exact absurd (hid.symm.trans hwaits) (by simp)
  | unreadable => exact h
  | accepts existing size stored hstate => exact fun _ _ hwaits => nomatch hwaits
  | asks existing size stored hstate hfind hsize hmembers hdiffer =>
    intro existing' report hwaits
    obtain ⟨-, rfl⟩ := State.awaitingConfirmation.inj hwaits
    exact ⟨rfl, hdiffer⟩

theorem call_asksOfItself (h : d.AsksOfItself) (c : Call) (host : σ) :
    (c.run d host).1.2.AsksOfItself := by
  have hresolve (decision : Decision) (asking : Descriptor) :
      (value (asking.resolve decision) host).1.2.AsksOfItself := fun existing report hwaits =>
    absurd hwaits ((Call.resolve_settles decision asking host).2 existing report)
  cases c with
  | reconcile => exact reconcile_asksOfItself h host
  | resolve decision => exact hresolve decision d
  | materialize confirm =>
    rcases Call.run_materialize_cases confirm d host with hsame | ⟨report, asking, hasks, hsame⟩
    · rw [hsame]
      exact reconcile_asksOfItself h host
    · rw [hsame]
      exact hresolve _ asking

/-! ### Turns -/

theorem take_name (d : Descriptor) (turn : Turn) : (d.take turn).name = d.name := by
  cases turn with
  | parse host fields => exact (parse_keeps host fields d).1
  | validate host id => exact (validate_keeps host id d).1
  | call host c => exact (c.run_alike d host).1

theorem take_moves (d : Descriptor) (turn : Turn) :
    (d.take turn).state = d.state ∨ State.Moves d.state (d.take turn).state := by
  cases turn with
  | parse host fields => exact parse_moves d host fields
  | validate host id => exact .inl (validate_keeps host id d).2
  | call host c => exact call_moves c d host

theorem take_asksOfItself (h : d.AsksOfItself) (turn : Turn) : (d.take turn).AsksOfItself := by
  cases turn with
  | parse host fields =>
    obtain ⟨-, hwaits⟩ := parse_keeps host fields d
    intro existing report hstate
    rw [take_name]
    exact h existing report (hwaits existing report hstate)
  | validate host id =>
    obtain ⟨-, hsame⟩ := validate_keeps host id d
    intro existing report hstate
    rw [take_name]
    exact h existing report (hsame.symm.trans hstate)
  | call host c => exact call_asksOfItself h c host

/-- No move leads back to the beginning, so the fields are laid out once. -/
theorem take_of_parsed (hd : d.state ≠ .uninitialized) (turn : Turn) :
    (d.take turn).state ≠ .uninitialized ∧ (d.take turn).layout = d.layout := by
  constructor
  · rcases take_moves d turn with hsame | hmoves
    · rwa [hsame]
    · exact hmoves.ne_uninitialized
  · cases turn with
    | parse host fields => rw [take, parse_of_ne hd, Logged.value_pure]
    | validate host id =>
      obtain ⟨bindings, h⟩ := validate_name host id d
      rw [take, h]
    | call host c => exact (c.run_alike d host).2

theorem takeAll_of_parsed (hd : d.state ≠ .uninitialized) (turns : List Turn) :
    (d.takeAll turns).layout = d.layout :=
  (takeAll_induction (P := fun x => x.state ≠ .uninitialized ∧ x.layout = d.layout)
    (fun x turn hx => by
      have := take_of_parsed hx.1 turn
      exact ⟨this.1, this.2.trans hx.2⟩) ⟨hd, rfl⟩ turns).2

theorem take_of_materialized (hd : d.state = .materialized id) (turn : Turn) :
    (d.take turn).state = .materialized id := by
  rcases take_moves d turn with hsame | hmoves
  · exact hsame.trans hd
  · exact absurd hd (hmoves.ne_materialized id)

theorem reconcile_of_materialized (hd : d.state = .materialized id) (host : σ) :
    (d.reconcile : Work σ _) host = pure ((.error (.outOfTurn d.name .reconcile), d), host) := by
  unfold reconcile
  rw [hd]
  rfl

theorem materialize_of_materialized {m : Type → Type} [Monad m] (hd : d.state = .materialized id)
    (confirm : Confirmer m) (host : σ) :
    d.materialize confirm host =
      pure (pure ((.error (.outOfTurn d.name .reconcile), d), host)) := by
  unfold materialize
  rw [show (d.reconcile : Work σ _).run host = _ from reconcile_of_materialized hd host]
  rfl

theorem resolve_of_materialized (hd : d.state = .materialized id) (decision : Decision)
    (host : σ) :
    value (d.resolve decision) host = ((.error (.noPendingQuestion d.name), d), host) :=
  value_resolve_of_ne (by simp [hd]) decision host

/-- For every sequence of turns: the next turn leaves the state or is a move. What the descriptor
waits for is a question about its own name. From a parse that succeeds on its layout is the same.
Once it is materialized it stays so, and to everything but a validation it gives an error, whatever
the host and whoever might be asked: nobody is, and the host is as it was. -/
theorem life_cycle (name : String) (turns : List Turn) :
    let d := (ofName name).takeAll turns
    (∀ turn, (d.take turn).state = d.state ∨ State.Moves d.state (d.take turn).state) ∧
    (∀ existing report, d.state = .awaitingConfirmation existing report →
      report.struct = name ∧ report.mismatches ≠ []) ∧
    (∀ (σ : Type) [Host σ] (host : σ) (fields : List Field),
      (d.parse host fields).value.1 = .ok () → ∀ later : List Turn,
        (d.takeAll (.parse host fields :: later)).layout =
          (d.take (.parse host fields)).layout) ∧
    ∀ id, d.state = .materialized id →
      (∀ later : List Turn, (d.takeAll later).state = .materialized id) ∧
      ∀ (σ : Type) [Host σ] (host : σ),
        (∀ fields, (d.parse host fields).value = (.error (.outOfTurn name .parse), d)) ∧
        value d.reconcile host = ((.error (.outOfTurn name .reconcile), d), host) ∧
        (∀ decision,
          value (d.resolve decision) host = ((.error (.noPendingQuestion name), d), host)) ∧
        ∀ (m : Type → Type) [Monad m] (confirm : Confirmer m), d.materialize confirm host =
          pure (pure ((.error (.outOfTurn name .reconcile), d), host)) := by
  intro d
  have hname : d.name = name :=
    takeAll_induction (P := fun x => x.name = name)
      (fun x turn hx => (take_name x turn).trans hx) rfl turns
  have hasks : d.AsksOfItself :=
    takeAll_induction (P := AsksOfItself) (fun x turn hx => take_asksOfItself hx turn)
      (fun existing report hwaits => by cases hwaits) turns
  refine ⟨take_moves d, fun existing report hwaits => hname ▸ hasks existing report hwaits, ?_, ?_⟩
  · intro σ _ host fields hok later
    have hparsed : (d.take (.parse host fields)).state = .schemaParsed := parse_ok_state hok
    exact takeAll_of_parsed (by simp [hparsed]) later
  · intro id hd
    refine ⟨takeAll_induction (P := fun x => x.state = .materialized id)
      (fun x turn hx => take_of_materialized hx turn) hd, ?_⟩
    intro σ _ host
    rw [← hname]
    refine ⟨fun fields => ?_, ?_, fun decision => ?_, fun m _ confirm => ?_⟩
    · rw [parse_of_ne (by simp [hd])]
      rfl
    · exact congrArg Logged.value (reconcile_of_materialized hd host)
    · exact resolve_of_materialized hd decision host
    · exact materialize_of_materialized hd confirm host

/-- A descriptor asks, is told no, asks again and is told yes; then it refuses to be parsed and to
ask once more. -/
theorem life_cycle_replaced :
    let db := Request.perform (.createStruct "pair") (Database.empty 8)
    let parse : Turn := .parse db [⟨some "a", none, some "char"⟩]
    let asked := (ofName "pair").takeAll [parse, .call db .reconcile]
    let replaced := asked.takeAll [.call db (.resolve .no), .call db (.materialize (.fixed .yes))]
    (∃ report, asked.state = .awaitingConfirmation ⟨Database.firstId⟩ report ∧
      report.struct = "pair" ∧ report.mismatches ≠ []) ∧
    replaced.layout.members.length = 1 ∧
    (replaced.takeAll [parse, .call db .reconcile]).state =
      .materialized ⟨Database.firstId + 1⟩ ∧
    replaced.materialize Script.confirmer db =
      pure (pure ((.error (.outOfTurn "pair" .reconcile), replaced), db)) := by
  intro db parse asked replaced
  have hasked : asked.awaited? = some ⟨Database.firstId⟩ := by decide +kernel
  obtain ⟨report, hwaits⟩ := World.awaited?_eq_some.1 hasked
  have hreplaced : replaced.state = .materialized ⟨Database.firstId + 1⟩ := by decide +kernel
  have hquestion := (life_cycle "pair" [parse, .call db .reconcile]).2.1 _ report hwaits
  obtain ⟨-, -, hlayout, -⟩ := life_cycle "pair" []
  have hsame := hlayout Database db [⟨some "a", none, some "char"⟩] (by decide +kernel)
    [.call db .reconcile, .call db (.resolve .no), .call db (.materialize (.fixed .yes))]
  obtain ⟨-, -, -, hend⟩ := life_cycle "pair"
    [parse, .call db .reconcile, .call db (.resolve .no), .call db (.materialize (.fixed .yes))]
  obtain ⟨hstays, hrefuses⟩ := hend _ hreplaced
  obtain ⟨-, -, -, hmaterialize⟩ := hrefuses Database db
  refine ⟨⟨report, hwaits, hquestion⟩, ?_, hstays [parse, .call db .reconcile],
    hmaterialize _ Script.confirmer⟩
  rw [show replaced.layout = _ from hsame]
  decide +kernel

end StructSync.Descriptor
