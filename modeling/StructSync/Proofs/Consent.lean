import Mathlib
import StructSync.Proofs.Observed

/-!
# Nothing is deleted without consent

A `World` is a host and the descriptors that work on it. Any acts may follow one another:
descriptors are started, cloned, parsed, validated and called, one is built in a single act, and the
host changes on its own. Main statement (`World.deleted_with_consent`): a struct is deleted only as
the roll-back of a creation in the same act, or as the first request of an act whose descriptor has
asked about that very struct and was answered yes. A question that was answered is never answered
again.
-/

namespace StructSync

open Work Descriptor

variable {σ : Type} [Host σ]

/-- A descriptor among others, and the number of the act in which it, or the one that it was cloned
from, asked what it is waiting for. -/
structure Slot where
  descriptor : Descriptor
  asked : Option Nat

/-- The descriptor waits for an answer whether the struct of that id may be replaced. -/
def Slot.Waits (s : Slot) (id : StructId) (report : Report) : Prop :=
  s.descriptor.state = .awaitingConfirmation id report

/-- A host, the descriptors that work on it, and the number of acts so far. -/
structure World (σ : Type) where
  host : σ
  slots : List Slot
  time : Nat

/-- An act on a host or on one of the descriptors. -/
inductive Act (σ : Type) where
  | start (name : String)
  | clone (i : Nat)
  | parse (i : Nat) (fields : List Field)
  | validate (i : Nat) (id : StructId)
  | call (i : Nat) (c : Call)
  | build (confirm : Confirmer Id) (name : String) (fields : List Field)
  /-- The host changes on its own. -/
  | outside (change : σ → σ)

namespace World

/-- The slot after a call at that time. -/
def called (time : Nat) (s : Slot) (result : Except SyncError Outcome × Descriptor) : Slot where
  descriptor := result.2
  asked :=
    match result.1 with
    | .ok (.needsConfirmation _) => some time
    | _ => s.asked

/-- The host and the slots after the act, and what was issued to the host. -/
def perform (w : World σ) : Act σ → σ × List Slot × List Issued
  | .start name => (w.host, w.slots ++ [⟨.ofName name, none⟩], [])
  | .clone i => (w.host, w.slots ++ w.slots[i]?.toList, [])
  | .parse i fields =>
    (w.host, w.slots.modify i fun s =>
      { s with descriptor := (s.descriptor.parse w.host fields).value.2 }, [])
  | .validate i id =>
    (w.host, w.slots.modify i fun s =>
      { s with descriptor := (s.descriptor.validate w.host id).value.2 }, [])
  | .call i c =>
    match w.slots[i]? with
    | none => (w.host, w.slots, [])
    | some s =>
      let (result, o) := c.run s.descriptor (Observed.start w.host)
      (o.host, w.slots.set i (called w.time s result), o.issued)
  | .build confirm name fields =>
    let (result, o) := (Id.run (Descriptor.build confirm name fields (Observed.start w.host))).value
    match result with
    | .error _ => (o.host, w.slots, o.issued)
    | .ok (d, _) => (o.host, w.slots ++ [⟨d, none⟩], o.issued)
  | .outside change => (change w.host, w.slots, [])

/-- What the act issues to the host. -/
def issued (w : World σ) (act : Act σ) : List Issued := (w.perform act).2.2

def step (w : World σ) (act : Act σ) : World σ :=
  ⟨(w.perform act).1, (w.perform act).2.1, w.time + 1⟩

/-- The world after the first `n` acts, from a host without descriptors. -/
def after (host : σ) (acts : List (Act σ)) (n : Nat) : World σ :=
  (acts.take n).foldl step ⟨host, [], 0⟩

variable {host : σ} {acts : List (Act σ)} {act : Act σ} {n : Nat} {w : World σ}

theorem after_zero : after host acts 0 = ⟨host, [], 0⟩ := rfl

theorem after_succ (h : acts[n]? = some act) :
    after host acts (n + 1) = (after host acts n).step act := by
  rw [after, List.take_add_one, h, Option.toList_some, List.foldl_append]
  rfl

theorem time_after (h : n ≤ acts.length) : (after host acts n).time = n := by
  induction n with
  | zero => rfl
  | succ n ih =>
    rw [after_succ (List.getElem?_eq_getElem h)]
    exact congrArg (· + 1) (ih (Nat.le_of_succ_le h))

end World

/-! ### What an act makes of the descriptors -/

namespace Descriptor

theorem parse_keeps (host : σ) (fields : List Field) (d : Descriptor) :
    (d.parse host fields).value.2.name = d.name ∧
      ∀ id report, (d.parse host fields).value.2.state = .awaitingConfirmation id report →
        d.state = .awaitingConfirmation id report := by
  unfold parse
  split
  · exact ⟨rfl, fun _ _ h => h⟩
  · have hstate : d.state = .uninitialized := by simpa using ‹¬d.state ≠ .uninitialized›
    simp only [Logged.value_bind]
    rcases (d.layout.addFields host d.name 0 fields).value with ⟨e | _, layout⟩
    · exact ⟨rfl, fun _ _ h => h⟩
    · exact ⟨rfl, by simp⟩

theorem validate_keeps (host : σ) (id : StructId) (d : Descriptor) :
    (d.validate host id).value.2.name = d.name ∧ (d.validate host id).value.2.state = d.state := by
  obtain ⟨bindings, h⟩ := validate_name host id d
  rw [h]
  exact ⟨rfl, rfl⟩

theorem materialize_settles (confirm : Confirmer Id) {d : Descriptor} (host : σ)
    (hd : ∀ id report, d.state ≠ .awaitingConfirmation id report) (id : StructId)
    (report : Report) :
    ((Call.materialize confirm).run d host).1.2.state ≠ .awaitingConfirmation id report := by
  intro hstate
  rcases Call.run_awaiting hstate with h | ⟨h, -⟩
  · exact nomatch (Call.run_needsConfirmation h).1
  · exact hd id report h

theorem build_settles {confirm : Confirmer Id} {name : String} {fields : List Field} {host : σ}
    {d : Descriptor} {outcome : Outcome}
    (h : (Id.run (build confirm name fields host)).value.1 = .ok (d, outcome)) (id : StructId)
    (report : Report) : d.state ≠ .awaitingConfirmation id report := by
  rw [Call.value_build] at h
  have hparsed := (parse_keeps host fields (ofName name)).2
  generalize ((ofName name).parse host fields).value = p at h hparsed
  rcases p with ⟨e | _, parsed⟩
  · cases h
  · have hnew : ∀ id report, parsed.state ≠ .awaitingConfirmation id report :=
      fun id report hstate => nomatch hparsed id report hstate
    have hsettled := materialize_settles confirm host hnew id report
    dsimp only at h
    generalize (Call.materialize confirm).run parsed host = r at h hsettled
    rcases r with ⟨⟨e | outcome', d'⟩, host'⟩
    · cases h
    · cases h
      exact hsettled

theorem value_build_observed (confirm : Confirmer Id) (name : String) (fields : List Field)
    (host : σ) :
    (Id.run (build confirm name fields (Observed.start host))).value =
      match ((ofName name).parse host fields).value with
      | (.error e, _) => (.error e, Observed.start host)
      | (.ok (), d) =>
        let ((result, d), o) := (Call.materialize confirm).run d (Observed.start host)
        (result.map (d, ·), o) := by
  rw [Call.value_build, Observed.parse_observed]
  rfl

end Descriptor

namespace World

/-- Where a descriptor comes from that is in its slot after an act: it was there and has not begun
to wait, or it has just asked, or it is a clone, or it is new. -/
inductive Origin (w : World σ) (act : Act σ) (i : Nat) (s' : Slot) : Prop
  | kept (s : Slot) (hs : w.slots[i]? = some s) (hname : s'.descriptor.name = s.descriptor.name)
    (hwaits : ∀ id report, s'.Waits id report →
      s.Waits id report ∧ s'.asked = s.asked ∧ ∀ decision, act ≠ .call i (.resolve decision))
  | asked (s : Slot) (id : StructId) (report : Report) (hs : w.slots[i]? = some s)
    (hname : s'.descriptor.name = s.descriptor.name) (hact : act = .call i .reconcile)
    (hasks : (Call.reconcile.run s.descriptor w.host).1.1 = .ok (.needsConfirmation report))
    (hfind : Host.findStruct? w.host s.descriptor.name = some id)
    (hdiffers : report.mismatches ≠ []) (hwaits : s'.Waits id report)
    (htime : s'.asked = some w.time)
  | copied (j : Nat) (hj : w.slots[j]? = some s') (hi : w.slots.length ≤ i)
  | fresh (hwaits : ∀ id report, ¬s'.Waits id report) (hi : w.slots.length ≤ i)

variable {w : World σ} {act : Act σ} {i : Nat} {s s' : Slot}

theorem Origin.same (hs : w.slots[i]? = some s)
    (h : ∀ decision, act ≠ .call i (.resolve decision)) :
    Origin w act i s :=
  .kept s hs rfl fun _ _ hwaits => ⟨hwaits, rfl, h⟩

theorem getElem?_append_or {l new : List Slot} (h : (l ++ new)[i]? = some s) :
    l[i]? = some s ∨ l.length ≤ i ∧ s ∈ new := by
  rw [List.getElem?_append] at h
  split at h
  · exact .inl h
  · exact .inr ⟨Nat.le_of_not_lt ‹_›, List.mem_of_getElem? h⟩

theorem origin_call {c : Call} (hs : w.slots[i]? = some s)
    (hs' : s' = called w.time s (c.run s.descriptor w.host).1) : Origin w (.call i c) i s' := by
  have hname : s'.descriptor.name = s.descriptor.name := by
    rw [hs']
    exact (Call.run_alike c s.descriptor w.host).1
  by_cases hasks : ∃ report, (c.run s.descriptor w.host).1.1 = .ok (.needsConfirmation report)
  · obtain ⟨report, hasks⟩ := hasks
    obtain ⟨rfl, hdiffers, id, -, hfind, hstate, -⟩ := Call.run_needsConfirmation hasks
    refine .asked s id report hs hname rfl hasks hfind hdiffers ?_ ?_
    · rw [hs']
      exact hstate
    · rw [hs', called, hasks]
  · refine .kept s hs hname fun id report hwaits => ?_
    rw [hs'] at hwaits
    rcases Call.run_awaiting hwaits with h | ⟨h, hresolve⟩
    · exact absurd ⟨report, h⟩ hasks
    · refine ⟨h, ?_, fun decision he => hresolve decision (Act.call.inj he).2⟩
      rw [hs', called]
      split
      · exact absurd ⟨_, ‹_›⟩ hasks
      · rfl

/-- An act that changes one descriptor only, keeps its name and leaves it with no new question. -/
theorem origin_modify {j : Nat} (change : Descriptor → Descriptor)
    (hkeeps : ∀ s : Slot, (change s.descriptor).name = s.descriptor.name ∧
      ∀ id report, (change s.descriptor).state = .awaitingConfirmation id report →
        s.descriptor.state = .awaitingConfirmation id report)
    (hact : ∀ decision, act ≠ .call i (.resolve decision))
    (h : (w.slots.modify j fun s => { s with descriptor := change s.descriptor })[i]? = some s') :
    Origin w act i s' := by
  rw [List.getElem?_modify] at h
  obtain ⟨s, hs, rfl⟩ := Option.map_eq_some_iff.1 h
  split
  · obtain ⟨hname, hwaits⟩ := hkeeps s
    exact .kept s hs hname fun id report h => ⟨hwaits id report h, rfl, hact⟩
  · exact .same hs hact

theorem perform_call {c : Call} (hs : w.slots[i]? = some s) :
    w.perform (.call i c) = ((c.run s.descriptor (Observed.start w.host)).2.host,
      w.slots.set i (called w.time s (c.run s.descriptor w.host).1),
      (c.run s.descriptor (Observed.start w.host)).2.issued) := by
  rw [perform, hs, show w.host = (Observed.start w.host).host from rfl,
    Observed.morphism_host.run c s.descriptor (Observed.start w.host)]
  rfl

theorem origin (h : (w.step act).slots[i]? = some s') : Origin w act i s' := by
  cases act with
  | start name =>
    rcases getElem?_append_or h with hs | ⟨hi, hnew⟩
    · exact .same hs nofun
    · obtain rfl := List.mem_singleton.1 hnew
      exact .fresh (by simp [Slot.Waits, ofName]) hi
  | clone j =>
    rcases getElem?_append_or h with hs | ⟨hi, hnew⟩
    · exact .same hs nofun
    · exact .copied j (Option.mem_toList.1 hnew) hi
  | parse j fields =>
    exact origin_modify (fun d => (d.parse w.host fields).value.2)
      (fun s => parse_keeps w.host fields s.descriptor) nofun h
  | validate j id =>
    refine origin_modify (fun d => (d.validate w.host id).value.2) (fun s => ?_) nofun h
    obtain ⟨hname, hstate⟩ := validate_keeps w.host id s.descriptor
    exact ⟨hname, fun _ _ hwaits => hstate.symm.trans hwaits⟩
  | call j c =>
    cases hj : w.slots[j]? with
    | none =>
      have hsame : (w.step (.call j c)).slots = w.slots := by rw [step, perform, hj]
      rw [hsame] at h
      exact .same h fun decision he => by cases he; rw [hj] at h; cases h
    | some s =>
      have hset : (w.step (.call j c)).slots =
          w.slots.set j (called w.time s (c.run s.descriptor w.host).1) := by
        rw [step, perform_call hj]
      rw [hset, List.getElem?_set] at h
      split at h
      · obtain rfl := ‹j = i›
        split at h
        · exact origin_call hj (Option.some.inj h).symm
        · cases h
      · exact .same h fun decision he => by cases he; exact absurd rfl ‹¬_›
  | build confirm name fields =>
    have hbuilt := @build_settles _ _ confirm name fields (Observed.start w.host)
    rw [step, perform] at h
    generalize (Id.run (Descriptor.build confirm name fields (Observed.start w.host))).value = r
      at h hbuilt
    rcases r with ⟨e | ⟨d, outcome⟩, o⟩
    · exact .same h nofun
    · rcases getElem?_append_or h with hs | ⟨hi, hnew⟩
      · exact .same hs nofun
      · obtain rfl := List.mem_singleton.1 hnew
        exact .fresh (hbuilt rfl) hi
  | outside change => exact .same h nofun

/-! ### Questions over time -/

/-- Act `k` reconciled a descriptor of that name, found the struct under the name and asked about
it. -/
structure AskedAt (host : σ) (acts : List (Act σ)) (k : Nat) (name : String) (id : StructId)
    (report : Report) : Prop where
  reconciled : ∃ j s, acts[k]? = some (.call j .reconcile) ∧
    (after host acts k).slots[j]? = some s ∧ s.descriptor.name = name ∧
    (Call.reconcile.run s.descriptor (after host acts k).host).1.1 =
      .ok (.needsConfirmation report)
  found : Host.findStruct? (after host acts k).host name = some id
  differs : report.mismatches ≠ []

variable {host : σ} {acts : List (Act σ)} {m n : Nat} {id : StructId} {report : Report}

/-- What a descriptor waits for was asked in an act of the past. -/
theorem asked_before (hn : n ≤ acts.length) (hs : (after host acts n).slots[i]? = some s)
    (hwaits : s.Waits id report) :
    ∃ k < n, s.asked = some k ∧ AskedAt host acts k s.descriptor.name id report := by
  induction n generalizing i s with
  | zero => simp [after_zero] at hs
  | succ n ih =>
    have hact : acts[n]? = some acts[n] := List.getElem?_eq_getElem hn
    rw [after_succ hact] at hs
    have hn' := Nat.le_of_succ_le hn
    cases origin hs with
    | kept s₀ hs₀ hname hkept =>
      obtain ⟨hwaits₀, hasked, -⟩ := hkept id report hwaits
      obtain ⟨k, hk, hk', h⟩ := ih hn' hs₀ hwaits₀
      exact ⟨k, Nat.lt_succ_of_lt hk, hasked.trans hk', hname ▸ h⟩
    | asked s₀ id' report' hs₀ hname hreconcile hasks hfind hdiffers hwaits' htime =>
      obtain ⟨rfl, rfl⟩ := State.awaitingConfirmation.inj (hwaits.symm.trans hwaits')
      refine ⟨n, Nat.lt_succ_self n, htime.trans (congrArg some (time_after hn')), ?_, ?_, hdiffers⟩
      · exact ⟨i, s₀, hact.trans (congrArg some hreconcile), hs₀, hname.symm, hasks⟩
      · rw [hname]
        exact hfind
    | copied j hj hi =>
      obtain ⟨k, hk, h⟩ := ih hn' hj hwaits
      exact ⟨k, Nat.lt_succ_of_lt hk, h⟩
    | fresh hnot hi => exact absurd hwaits (hnot id report)

theorem length_step (w : World σ) (act : Act σ) : w.slots.length ≤ (w.step act).slots.length := by
  cases act with
  | start name => simp [step, perform]
  | clone j => simp [step, perform]
  | parse j fields => simp [step, perform]
  | validate j id => simp [step, perform]
  | call j c =>
    rw [step]
    cases hj : w.slots[j]? with
    | none => rw [perform, hj]
    | some s => simp [perform_call hj]
  | build confirm name fields =>
    rw [step, perform]
    rcases (Id.run (Descriptor.build confirm name fields (Observed.start w.host))).value with
      ⟨e | ⟨d, outcome⟩, o⟩ <;> simp
  | outside change => exact Nat.le_refl _

theorem length_after (hmn : m ≤ n) (hn : n ≤ acts.length) :
    (after host acts m).slots.length ≤ (after host acts n).slots.length := by
  induction n, hmn using Nat.le_induction with
  | base => exact Nat.le_refl _
  | succ n _ ih =>
    rw [after_succ (List.getElem?_eq_getElem hn)]
    exact (ih (Nat.le_of_succ_le hn)).trans (length_step _ _)

/-- What a descriptor waits for after an answer was asked after that answer. -/
theorem asked_after {decision : Decision} (hm : acts[m]? = some (.call i (.resolve decision)))
    (hi : i < (after host acts m).slots.length) (hmn : m + 1 ≤ n) (hn : n ≤ acts.length)
    (hs : (after host acts n).slots[i]? = some s) (hwaits : s.Waits id report) :
    ∃ k, s.asked = some k ∧ m < k := by
  -- a slot that is there at the answer does not become a new one or a clone
  have hthere {l : Nat} (hml : m ≤ l) (hl : l ≤ acts.length) :
      ¬(after host acts l).slots.length ≤ i :=
    Nat.not_le_of_lt (Nat.lt_of_lt_of_le hi (length_after hml hl))
  induction n, hmn using Nat.le_induction generalizing s with
  | base =>
    have hn' := Nat.le_of_succ_le hn
    rw [after_succ hm] at hs
    cases origin hs with
    | kept s₀ hs₀ hname hkept => exact absurd rfl ((hkept id report hwaits).2.2 decision)
    | asked s₀ id' report' hs₀ hname hreconcile => cases hreconcile
    | copied j hj hle => exact absurd hle (hthere (Nat.le_refl m) hn')
    | fresh hnot hle => exact absurd hle (hthere (Nat.le_refl m) hn')
  | succ n hmn ih =>
    have hn' := Nat.le_of_succ_le hn
    rw [after_succ (List.getElem?_eq_getElem hn)] at hs
    cases origin hs with
    | kept s₀ hs₀ hname hkept =>
      obtain ⟨hwaits₀, hasked, -⟩ := hkept id report hwaits
      obtain ⟨k, hk, hlt⟩ := ih hn' hs₀ hwaits₀
      exact ⟨k, hasked.trans hk, hlt⟩
    | asked s₀ id' report' hs₀ hname hreconcile hasks hfind hdiffers hwaits' htime =>
      exact ⟨n, htime.trans (congrArg some (time_after hn')), hmn⟩
    | copied j hj hle => exact absurd hle (hthere (Nat.le_of_succ_le hmn) hn')
    | fresh hnot hle => exact absurd hle (hthere (Nat.le_of_succ_le hmn) hn')

/-! ### Consent -/

/-- The reconciliation of the descriptor finds that struct under its name, asks, and is answered
yes. -/
structure Agreed (d : Descriptor) (confirm : Confirmer Id) (host : σ) (id : StructId)
    (report : Report) : Prop where
  found : Host.findStruct? host d.name = some id
  asks : (Call.reconcile.run d host).1.1 = .ok (.needsConfirmation report)
  differs : report.mismatches ≠ []
  yes : (Id.run (confirm report.overwritePrompt)).value = .yes

/-- The act has the consent to delete the struct: it brings the answer yes to a descriptor that
waits for it since it was asked in an earlier act, or it asks and is answered yes in itself. -/
inductive Consent (host : σ) (acts : List (Act σ)) (n : Nat) (id : StructId) : Act σ → Prop
  | resolved (i : Nat) (s : Slot) (k : Nat) (report : Report)
    (hs : (after host acts n).slots[i]? = some s) (hwaits : s.Waits id report) (hk : k < n)
    (hasked : s.asked = some k) (hbefore : AskedAt host acts k s.descriptor.name id report) :
    Consent host acts n id (.call i (.resolve .yes))
  | materialized (i : Nat) (s : Slot) (confirm : Confirmer Id) (report : Report)
    (hs : (after host acts n).slots[i]? = some s)
    (hagreed : Agreed s.descriptor confirm (after host acts n).host id report) :
    Consent host acts n id (.call i (.materialize confirm))
  | built (confirm : Confirmer Id) (name : String) (fields : List Field) (d : Descriptor)
    (report : Report)
    (hparse : ((ofName name).parse (after host acts n).host fields).value = (.ok (), d))
    (hagreed : Agreed d confirm (after host acts n).host id report) :
    Consent host acts n id (.build confirm name fields)

theorem agreed_of_replaced? {confirm : Confirmer Id} {d : Descriptor}
    (h : (Call.materialize confirm).replaced? host d = some id) :
    ∃ report, Agreed d confirm host id report := by
  rw [Call.replaced?] at h
  generalize hr : value d.reconcile host = r at h
  rcases r with ⟨⟨e | (old | old | ⟨old, new⟩ | report), d'⟩, host'⟩
  case ok.needsConfirmation =>
    have hasks : (Call.reconcile.run d host).1.1 = .ok (.needsConfirmation report) :=
      congrArg (·.1.1) hr
    obtain ⟨-, hdiffers, existing, -, hfind, hstate, -⟩ := Call.run_needsConfirmation hasks
    have hd' : d'.state = .awaitingConfirmation existing report :=
      (congrArg (·.1.2.state) hr).symm.trans hstate
    dsimp only at h
    split at h
    · rw [awaited?, hd'] at h
      obtain rfl := Option.some.inj h
      exact ⟨report, hfind, hasks, hdiffers, ‹_›⟩
    · cases h
  all_goals cases h

theorem awaited?_eq_some {d : Descriptor} :
    d.awaited? = some id ↔ ∃ report, d.state = .awaitingConfirmation id report := by
  unfold awaited?
  split
  · next existing report hstate =>
    rw [hstate]
    simp
  · next hne =>
    simp only [reduceCtorEq, false_iff, not_exists]
    exact fun report => hne id report

theorem rollBack_nil : Issued.RollBack [] := Issued.Keep.rollBack fun _ he => nomatch he

theorem call_issued (c : Call) (d : Descriptor) (host : σ) :
    Call.Answers (c.replaced? host d) (c.run d (Observed.start host)).2.issued := by
  obtain ⟨es, hes, h⟩ := c.run_issued d (Observed.start host)
  rw [← Observed.morphism_host.replaced? c d (Observed.start host)] at h
  rw [hes]
  exact h

section
variable {w : World σ} {confirm : Confirmer Id} {name : String} {fields : List Field}
  {d : Descriptor}

theorem issued_build_error {e : SyncError}
    (h : ((ofName name).parse w.host fields).value = (.error e, d)) :
    w.issued (.build confirm name fields) = [] := by
  rw [issued, perform, value_build_observed, h]
  rfl

theorem issued_build (h : ((ofName name).parse w.host fields).value = (.ok (), d)) :
    w.issued (.build confirm name fields) =
      ((Call.materialize confirm).run d (Observed.start w.host)).2.issued := by
  rw [issued, perform, value_build_observed, h]
  dsimp only
  generalize (Call.materialize confirm).run d (Observed.start w.host) = r
  rcases r with ⟨⟨e | outcome, d'⟩, o⟩ <;> rfl

end

/-- All deletions of an act are roll-backs but perhaps the first request, and that one has the
consent. -/
theorem issued_cases (hn : n ≤ acts.length) (act : Act σ) :
    Issued.RollBack ((after host acts n).issued act) ∨
      ∃ id given es, (after host acts n).issued act = ⟨.deleteStruct id, given⟩ :: es ∧
        Issued.RollBack es ∧ Consent host acts n id act := by
  cases act with
  | call i c =>
    cases hs : (after host acts n).slots[i]? with
    | none =>
      rw [issued, perform, hs]
      exact .inl rollBack_nil
    | some s =>
      rw [issued, perform_call hs]
      rcases call_issued c s.descriptor (after host acts n).host with
        hback | ⟨id, given, es, hreplaced, hes, hback⟩
      · exact .inl hback
      · refine .inr ⟨id, given, es, hes, hback, ?_⟩
        cases c with
        | reconcile => cases hreplaced
        | resolve decision =>
          rw [Call.replaced?] at hreplaced
          split at hreplaced
          · obtain rfl := ‹decision = .yes›
            obtain ⟨report, hwaits⟩ := awaited?_eq_some.1 hreplaced
            obtain ⟨k, hk, hasked, hbefore⟩ := asked_before hn hs hwaits
            exact .resolved i s k report hs hwaits hk hasked hbefore
          · cases hreplaced
        | materialize confirm =>
          obtain ⟨report, hagreed⟩ := agreed_of_replaced? hreplaced
          exact .materialized i s confirm report hs hagreed
  | build confirm name fields =>
    cases hparse : ((ofName name).parse (after host acts n).host fields).value with
    | mk result d =>
      rcases result with e | _
      · rw [issued_build_error hparse]
        exact .inl rollBack_nil
      · rw [issued_build hparse]
        rcases call_issued (.materialize confirm) d (after host acts n).host with
          hback | ⟨id, given, es, hreplaced, hes, hback⟩
        · exact .inl hback
        · obtain ⟨report, hagreed⟩ := agreed_of_replaced? hreplaced
          exact .inr ⟨id, given, es, hes, hback, .built confirm name fields d report hparse hagreed⟩
  | _ => exact .inl rollBack_nil

/-- For every host and all acts in any order: a deletion is the roll-back of a struct created
before in the same act, or it is the first request of an act that has the consent to it; and
two answers to one descriptor are never answers to the same question. -/
theorem deleted_with_consent (host : σ) (acts : List (Act σ)) :
    (∀ (n : Nat) (act : Act σ), acts[n]? = some act → ∀ before id given rest,
      (after host acts n).issued act = before ++ ⟨.deleteStruct id, given⟩ :: rest →
        (∃ name, ⟨.createStruct name, some id⟩ ∈ before) ∨
          before = [] ∧ Consent host acts n id act) ∧
    ∀ (m n i : Nat) (first second : Decision) (s t : Slot), m < n →
      acts[m]? = some (.call i (.resolve first)) → acts[n]? = some (.call i (.resolve second)) →
      (after host acts m).slots[i]? = some s → (after host acts n).slots[i]? = some t →
      (∃ id report, s.Waits id report) → (∃ id report, t.Waits id report) → s.asked ≠ t.asked := by
  constructor
  · intro n act hact before id given rest hes
    have hn : n ≤ acts.length := (List.getElem?_eq_some_iff.1 hact).1.le
    rcases (issued_cases hn act : Issued.RollBack ((after host acts n).issued act) ∨ _) with
      hback | ⟨id', given', es, hes', hback, hconsent⟩
    · exact .inl (hback before id given rest hes)
    · rw [hes'] at hes
      cases before with
      | nil =>
        obtain ⟨hhead, -⟩ := List.cons.inj hes
        obtain ⟨hdelete, -⟩ := Issued.mk.inj hhead
        obtain rfl := Request.deleteStruct.inj hdelete
        exact .inr ⟨rfl, hconsent⟩
      | cons head tail =>
        obtain ⟨rfl, htail⟩ := List.cons.inj hes
        obtain ⟨name, hname⟩ := hback tail id given rest htail
        exact .inl ⟨name, List.mem_cons_of_mem _ hname⟩
  · rintro m n i first second s t hmn hm hn hs ht ⟨id, report, hwaits⟩ ⟨id', report', hwaits'⟩ heq
    have hm' : m ≤ acts.length := (List.getElem?_eq_some_iff.1 hm).1.le
    have hn' : n ≤ acts.length := (List.getElem?_eq_some_iff.1 hn).1.le
    obtain ⟨k, hk, hasked, -⟩ := asked_before hm' hs hwaits
    obtain ⟨k', hasked', hk'⟩ :=
      asked_after hm (List.getElem?_eq_some_iff.1 hs).1 hmn hn' ht hwaits'
    have hsame : k = k' := Option.some.inj (hasked.symm.trans (heq.trans hasked'))
    exact Nat.lt_asymm hk (hsame ▸ hk')

/-- A struct of one member is replaced by one without members, after a first answer that it should
not be: the deletion has the consent, and the two answers were to two questions. -/
theorem emptied_with_consent :
    let acts : List (Act Database) := [
      .outside (Request.performAll
        [.createStruct "pair", .createMember ⟨Database.firstId⟩ "first" 0 4 .data]),
      .start "pair", .parse 0 [], .call 0 .reconcile, .call 0 (.resolve .no), .call 0 .reconcile,
      .call 0 (.resolve .yes)]
    let world := after (Database.empty 8) acts
    (world 6).issued (.call 0 (.resolve .yes)) = [⟨.deleteStruct ⟨Database.firstId⟩, none⟩,
      ⟨.createStruct "pair", some ⟨Database.firstId + 2⟩⟩] ∧
    Consent (Database.empty 8) acts 6 ⟨Database.firstId⟩ (.call 0 (.resolve .yes)) ∧
    ∃ s t, (world 4).slots[0]? = some s ∧ (world 6).slots[0]? = some t ∧ s.asked ≠ t.asked := by
  intro acts world
  have hwaits {n : Nat} (h : ((world n).slots[0]?.bind (·.descriptor.awaited?)).isSome = true) :
      ∃ s, (world n).slots[0]? = some s ∧ ∃ id report, s.Waits id report := by
    obtain ⟨id, hid⟩ := Option.isSome_iff_exists.1 h
    obtain ⟨s, hs, hawaited⟩ := Option.bind_eq_some_iff.1 hid
    exact ⟨s, hs, id, awaited?_eq_some.1 hawaited⟩
  have h := deleted_with_consent (Database.empty 8) acts
  obtain ⟨s, hs, hs'⟩ := hwaits (n := 4) (by decide +kernel)
  obtain ⟨t, ht, ht'⟩ := hwaits (n := 6) (by decide +kernel)
  have hissued : (world 6).issued (.call 0 (.resolve .yes)) =
      [⟨.deleteStruct ⟨Database.firstId⟩, none⟩,
        ⟨.createStruct "pair", some ⟨Database.firstId + 2⟩⟩] := by decide +kernel
  refine ⟨hissued, ?_, s, t, hs, ht, h.2 4 6 0 .no .yes s t (by decide) rfl rfl hs ht hs' ht'⟩
  rcases h.1 6 _ rfl [] _ _ _ hissued with ⟨name, hname⟩ | ⟨-, hconsent⟩
  · exact absurd hname List.not_mem_nil
  · exact hconsent

end World

end StructSync
