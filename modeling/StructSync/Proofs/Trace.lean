import Mathlib
import StructSync.Proofs.Declared

/-!
# What a materialization asks for

A descriptor that has been parsed is materialized in a database made by requests, with a guard
before it. `CreationTrace` and `Trace` list the ways this can end, each with the calls that the
journal keeps and the questions that are put. Main statement (`exact_trace`): it ends in one of
these ways, whatever the guard turns down and whatever the answer is.
-/

namespace StructSync

open Work

theorem Script.next_eq (script : Script) (prompt : String) :
    script.next prompt = (script.answers.headD .cancel,
      ⟨script.answers.tail, script.prompts ++ [prompt]⟩) := by
  obtain ⟨answers, prompts⟩ := script
  cases answers with
  | nil => rfl
  | cons answer rest => rfl

namespace Descriptor

/-- The ways a creation can end in a guarded database, with the calls that stand in the journal: the
struct is not begun, or all its requests are passed on, or one for a member is refused, and then the
struct is deleted if the guard passes that on. -/
inductive CreationTrace (d : Descriptor) (next : UInt64) (fault? : Request → Option HostError) :
    Except SyncError StructId → List HostCall → Prop
  | unbegun (e : HostError) (hbegin : fault? (.createStruct d.name) = some e) :
    CreationTrace d next fault? (.error (.host e)) []
  | complete (hpassed : ∀ r ∈ d.creationRequests next, fault? r = none) :
    CreationTrace d next fault? (.ok ⟨next⟩) ((d.creationRequests next).map Request.call)
  | cut (before later : List Request) (r : Request) (e : HostError) (m : Member)
    (member : MemberId) (hcut : d.creationRequests next = before ++ r :: later)
    (hpassed : ∀ q ∈ before, fault? q = none) (hrefused : fault? r = some e)
    (hm : (m, member) ∈ numbered (next + 1) d.layout.members)
    (hr : r ∈ m.requests ⟨next⟩ member) :
    CreationTrace d next fault? (.error (.refusedMember m.path e))
      (before.map Request.call ++ rollBack fault? ⟨next⟩)

/-- The question whether that stored struct may be replaced. -/
def question (d : Descriptor) (s : StoredStruct) : String :=
  Report.overwritePrompt ⟨d.name, d.differences s.size (Database.reported s)⟩

/-- The ways a materialization can end in a guarded database, with the questions that are put and
the calls that stand in the journal. -/
inductive Trace (d : Descriptor) (db : Database) (fault? : Request → Option HostError)
    (answer : Decision) : Except SyncError Outcome → List String → List HostCall → Prop
  | accepted (s : StoredStruct) (hs : db.findByName? d.name = some s) (hsame : s.IsDeclared d) :
    Trace d db fault? answer (.ok (.accepted s.id)) [] []
  | creates (result : Except SyncError StructId) (calls : List HostCall)
    (hfree : db.findByName? d.name = none)
    (hcreate : CreationTrace d db.nextId fault? result calls) :
    Trace d db fault? answer (result.map .created) [] calls
  | declined (s : StoredStruct) (hs : db.findByName? d.name = some s) (hdiffer : ¬s.IsDeclared d)
    (hanswer : answer = .no) :
    Trace d db fault? answer (.error (.declined d.name)) [d.question s] []
  | cancelled (s : StoredStruct) (hs : db.findByName? d.name = some s) (hdiffer : ¬s.IsDeclared d)
    (hanswer : answer = .cancel) :
    Trace d db fault? answer (.error (.cancelled d.name)) [d.question s] []
  | kept (s : StoredStruct) (e : HostError) (hs : db.findByName? d.name = some s)
    (hdiffer : ¬s.IsDeclared d) (hanswer : answer = .yes)
    (hdelete : fault? (.deleteStruct s.id) = some e) :
    Trace d db fault? answer (.error (.host e)) [d.question s] []
  | replaces (s : StoredStruct) (result : Except SyncError StructId) (calls : List HostCall)
    (hs : db.findByName? d.name = some s) (hdiffer : ¬s.IsDeclared d) (hanswer : answer = .yes)
    (hdelete : fault? (.deleteStruct s.id) = none)
    (hcreate : CreationTrace d db.nextId fault? result calls) :
    Trace d db fault? answer (result.map (.recreated s.id)) [d.question s]
      (.deleteStruct s.id :: calls)

variable {db : Database} {fault? : Request → Option HostError} {d : Descriptor}

theorem CreationTrace.alike {a b : Descriptor} {next : UInt64} {result : Except SyncError StructId}
    {calls : List HostCall} (h : CreationTrace a next fault? result calls)
    (hab : Call.Alike a b) : CreationTrace b next fault? result calls := by
  obtain ⟨hname, hlayout⟩ := hab
  have hrequests : a.creationRequests next = b.creationRequests next := by
    rw [creationRequests, creationRequests, hname, hlayout]
  cases h with
  | unbegun e hbegin => exact .unbegun e (hname ▸ hbegin)
  | complete hpassed =>
    rw [hrequests] at hpassed ⊢
    exact .complete hpassed
  | cut before later r e m member hcut hpassed hrefused hm hr =>
    exact .cut before later r e m member (hrequests ▸ hcut) hpassed hrefused (hlayout ▸ hm) hr

theorem create_traced (h : db.Sound) (hspare : db.Spare (d.layout.members.length + 1))
    (hfree : db.findByName? d.name = none) (fault? : Request → Option HostError) :
    ∃ result d' after calls, value d.create (⟨db, fault?⟩ : Guarded Database) =
        ((result, d'), ⟨after, fault?⟩) ∧
      after.journal = db.journal ++ calls ∧ CreationTrace d db.nextId fault? result calls := by
  cases hbegin : fault? (.createStruct d.name) with
  | some e =>
    have hunbegun : Host.createStruct d.name (⟨db, fault?⟩ : Guarded Database) =
        (.error e, ⟨db, fault?⟩) := Guarded.pass_of_fault hbegin
    refine ⟨.error (.host e), d, db, [], ?_, (List.append_nil _).symm, .unbegun e hbegin⟩
    rw [value_create, hunbegun]
  | none =>
    -- the first member with a refused request is where the calls are cut
    cases hfind : (numbered (db.nextId + 1) d.layout.members).find?
      (fun x => x.1.refused fault? ⟨db.nextId⟩ x.2) with
    | none =>
      have hpassed : ∀ r ∈ d.creationRequests db.nextId, fault? r = none := by
        refine List.forall_mem_cons.2 ⟨hbegin, forall_memberRequests.2 fun x hx => ?_⟩
        simpa using List.find?_eq_none.1 hfind x hx
      obtain ⟨after, t, hvalue, -, -, hjournal⟩ := create_passed h hspare hfree hpassed
      exact ⟨_, _, after, _, hvalue, hjournal, .complete hpassed⟩
    | some x =>
      obtain ⟨m, member⟩ := x
      obtain ⟨before, r, later, e, after, t, hcut, hpassed, hrefused, hr, hvalue, hjournal, -⟩ :=
        create_refused h hspare hfree hbegin hfind
      rw [List.append_assoc] at hjournal
      exact ⟨_, _, after, _, hvalue, hjournal, .cut before later r e m member hcut hpassed hrefused
        (List.mem_of_find?_eq_some hfind) hr⟩

theorem findStruct_stored (h : db.Sound) {name : String} {existing : StructId}
    (hfind : Host.findStruct? db name = some existing) :
    ∃ s, db.findByName? name = some s ∧ s.id = existing ∧ s.name = name ∧
      Host.structSize db existing = .ok s.size ∧
      Host.members db existing = .ok (Database.reported s) ∧ db.get? existing = some s := by
  obtain ⟨s, hs, rfl⟩ := Option.map_eq_some_iff.1 hfind
  obtain ⟨hget, hname⟩ := h.findByName?_eq_some.1 hs
  exact ⟨s, hs, rfl, hname, Database.structSize_eq_ok.2 ⟨s, hget, rfl⟩,
    Database.members_eq_ok.2 ⟨s, hget, rfl⟩, hget⟩

theorem found_stored (h : db.Sound) {name : String} {existing : StructId} {size : UInt64}
    {stored : List HostMember} (hfind : Host.findStruct? db name = some existing)
    (hsize : Host.structSize db existing = .ok size)
    (hmembers : Host.members db existing = .ok stored) :
    ∃ s, db.findByName? name = some s ∧ s.id = existing ∧ s.name = name ∧ s.size = size ∧
      Database.reported s = stored ∧ db.get? existing = some s := by
  obtain ⟨s, hs, hid, hname, hsize', hmembers', hget⟩ := findStruct_stored h hfind
  exact ⟨s, hs, hid, hname, Except.ok.inj (hsize'.symm.trans hsize),
    Except.ok.inj (hmembers'.symm.trans hmembers), hget⟩

theorem materialize_script {σ : Type} [Host σ] (d : Descriptor) (host : σ) (script : Script) :
    let ran := (d.materialize Script.confirmer host).run script
    match value d.reconcile host with
    | ((.ok (.needsConfirmation report), asking), after) =>
      ran.1.value = value (asking.resolve (script.answers.headD .cancel)) after ∧
        ran.2.prompts = script.prompts ++ [report.overwritePrompt]
    | reconciled => ran.1.value = reconciled ∧ ran.2.prompts = script.prompts := by
  unfold Descriptor.materialize Work.value
  rcases h : (d.reconcile.run host).value with
    ⟨⟨e | (id | id | ⟨old, new⟩ | report), asking⟩, after⟩
  case ok.needsConfirmation =>
    simp only [h]
    refine ⟨?_, ?_⟩
    · show value (asking.resolve (script.next report.overwritePrompt).1) after = _
      rw [Script.next_eq]
      rfl
    · show (script.next report.overwritePrompt).2.prompts = _
      rw [Script.next_eq]
  all_goals
    simp only [h]
    exact ⟨h, rfl⟩

variable {db : Database} {fault? : Request → Option HostError} {d : Descriptor}

/-- What an answer to the question about a found struct leads to. -/
theorem resolve_traced (h : db.Sound) (hspare : db.Spare (d.layout.members.length + 1))
    {s : StoredStruct} (hs : db.findByName? d.name = some s) (hdiffer : ¬s.IsDeclared d)
    (fault? : Request → Option HostError) (answer : Decision) {asking : Descriptor}
    (hasking : Call.Alike asking d) {report : Report}
    (hstate : asking.state = .awaitingConfirmation s.id report) :
    ∃ result d' after calls, value (asking.resolve answer) (⟨db, fault?⟩ : Guarded Database) =
        ((result, d'), ⟨after, fault?⟩) ∧
      after.journal = db.journal ++ calls ∧
      Trace d db fault? answer result [d.question s] calls := by
  cases answer with
  | no =>
    refine ⟨.error (.declined d.name), { asking with state := .schemaParsed }, db, [], ?_,
      (List.append_nil _).symm, .declined s hs hdiffer rfl⟩
    unfold resolve
    rw [hstate, hasking.1]
    rfl
  | cancel =>
    refine ⟨.error (.cancelled d.name), { asking with state := .schemaParsed }, db, [], ?_,
      (List.append_nil _).symm, .cancelled s hs hdiffer rfl⟩
    unfold resolve
    rw [hstate, hasking.1]
    rfl
  | yes =>
    rw [value_resolve_yes hstate]
    cases hdelete : fault? (.deleteStruct s.id) with
    | some e =>
      have hkept : Host.deleteStruct s.id (⟨db, fault?⟩ : Guarded Database) =
          (.error e, ⟨db, fault?⟩) := Guarded.pass_of_fault hdelete
      rw [hkept]
      exact ⟨_, _, db, [], rfl, (List.append_nil _).symm, .kept s e hs hdiffer rfl hdelete⟩
    | none =>
      obtain ⟨hget, hname⟩ := h.findByName?_eq_some.1 hs
      obtain ⟨freed, hfreed, hfree⟩ := host_deleteStruct_stored h hget
      obtain ⟨hsound, hnext⟩ := host_deleteStruct_ok h hfreed
      have hjournal : freed.journal = db.journal ++ [.deleteStruct s.id] := by
        rw [(Database.deleteStruct_eq_ok.1 (Database.host_deleteStruct_eq_ok.1 hfreed)).2]
      have hdeleted : Host.deleteStruct s.id (⟨db, fault?⟩ : Guarded Database) =
          (.ok (), ⟨freed, fault?⟩) := Guarded.pass_of_none hdelete hfreed
      rw [hname, ← hasking.1] at hfree
      rw [← hasking.2] at hspare
      obtain ⟨result, d', after, calls, hcreate, hcalls, hcreation⟩ :=
        create_traced (d := { asking with state := .schemaParsed }) hsound
          (hspare.of_next_eq hnext) hfree fault?
      rw [hdeleted]
      dsimp only
      rw [hcreate]
      refine ⟨_, d', after, _, rfl, ?_, .replaces s result calls hs hdiffer rfl hdelete ?_⟩
      · rw [hcalls, hjournal, List.append_assoc]
        rfl
      · -- a deletion takes no id, so the new struct is numbered as in the database before
        rw [← hnext]
        exact hcreation.alike hasking

theorem materialize_traced (h : db.Sound) (hspare : db.Spare (d.layout.members.length + 1))
    (hd : d.state = .schemaParsed) (fault? : Request → Option HostError) (script : Script) :
    let ran := (d.materialize Script.confirmer (⟨db, fault?⟩ : Guarded Database)).run script
    ∃ prompts calls, ran.2.prompts = script.prompts ++ prompts ∧
      ran.1.value.2.host.journal = db.journal ++ calls ∧
      Trace d db fault? (script.answers.headD .cancel) ran.1.value.1.1 prompts calls := by
  intro ran
  have hran := materialize_script d (⟨db, fault?⟩ : Guarded Database) script
  have hcases := reconciliation d (⟨db, fault?⟩ : Guarded Database)
  generalize value d.reconcile (⟨db, fault?⟩ : Guarded Database) = r at hran hcases
  cases hcases with
  | outOfTurn e hstate => exact absurd hd hstate
  | creates result d' after hstate hfind hcreate =>
    have hfree : db.findByName? d.name = none := Option.map_eq_none_iff.1 hfind
    obtain ⟨created, d'', after', calls, hvalue, hjournal, hcreation⟩ :=
      create_traced h hspare hfree fault?
    obtain ⟨⟨rfl, rfl⟩, rfl⟩ : (result = created ∧ d' = d'') ∧ after = ⟨after', fault?⟩ := by
      simpa using hcreate.symm.trans hvalue
    have hplain : ran.1.value = ((result.map .created, d'), ⟨after', fault?⟩) ∧
        ran.2.prompts = script.prompts := by
      cases result with
      | error e => exact hran
      | ok id => exact hran
    obtain ⟨hresult, hprompts⟩ := hplain
    refine ⟨[], calls, by rw [hprompts, List.append_nil], by rw [hresult]; exact hjournal, ?_⟩
    rw [hresult]
    exact .creates result calls hfree hcreation
  | unreadable e existing hstate hfind hread =>
    obtain ⟨s, -, -, -, hsize, hmembers, -⟩ := findStruct_stored h hfind
    rcases hread with hread | hread
    · exact absurd (hread.symm.trans hsize) nofun
    · exact absurd (hread.symm.trans hmembers) nofun
  | accepts existing size stored hstate hfind hsize hmembers hmatch =>
    obtain ⟨s, hs, rfl, hname, rfl, rfl, hget⟩ := found_stored h hfind hsize hmembers
    obtain ⟨hresult, hprompts⟩ := hran
    refine ⟨[], [], by rw [hprompts, List.append_nil], ?_, ?_⟩
    · rw [hresult, List.append_nil]
    · rw [hresult]
      exact .accepted s hs (((h.members hget).isDeclared_iff hname).2 hmatch)
  | asks existing size stored hstate hfind hsize hmembers hdiffer =>
    obtain ⟨s, hs, rfl, hname, rfl, rfl, hget⟩ := found_stored h hfind hsize hmembers
    obtain ⟨hresult, hprompts⟩ := hran
    have hnot : ¬s.IsDeclared d := fun hsame =>
      hdiffer (((h.members hget).isDeclared_iff hname).1 hsame)
    let report : Report := ⟨d.name, d.differences s.size (Database.reported s)⟩
    have hasking : Call.Alike
        { d with bindings := [], state := .awaitingConfirmation s.id report } d := ⟨rfl, rfl⟩
    obtain ⟨result, d', after, calls, hvalue, hjournal, htrace⟩ :=
      resolve_traced h hspare hs hnot fault? (script.answers.headD .cancel) hasking rfl
    have hran' : ran.1.value = ((result, d'), ⟨after, fault?⟩) := hresult.trans hvalue
    refine ⟨[d.question s], calls, hprompts, ?_, ?_⟩
    · rw [hran']
      exact hjournal
    · rw [hran']
      exact htrace

/-- A parsed descriptor is materialized in a database made by requests, whatever the guard turns
down and whatever is answered: the journal gets the calls, and the owner the questions, of one of
the ways that `Trace` lists. -/
theorem exact_trace (hdb : db.Reachable) (hspare : db.Spare (d.layout.members.length + 1))
    (hd : d.state = .schemaParsed) (fault? : Request → Option HostError) (script : Script) :
    let ran := (d.materialize Script.confirmer (⟨db, fault?⟩ : Guarded Database)).run script
    ∃ prompts calls, ran.2.prompts = script.prompts ++ prompts ∧
      ran.1.value.2.host.journal = db.journal ++ calls ∧
      Trace d db fault? (script.answers.headD .cancel) ran.1.value.1.1 prompts calls :=
  materialize_traced hdb.sound hspare hd fault? script

/-- A pair replaces a struct without members, and the type of its second member is refused. -/
theorem exact_trace_untyped :
    let db := Request.perform (.createStruct "pair") (Database.empty 8)
    let id : StructId := ⟨Database.firstId + 1⟩
    let refusal : HostError := .typeRejected ⟨Database.firstId + 3⟩ "int" .refused
    let fault? : Request → Option HostError := fun
      | .setMemberType _ member _ _ =>
        if member = ⟨Database.firstId + 3⟩ then some refusal else none
      | _ => none
    Trace pair db fault? .yes (.error (.refusedMember "pair.first" refusal))
      [pair.question ⟨⟨Database.firstId⟩, "pair", []⟩]
      [.deleteStruct ⟨Database.firstId⟩, .createStruct "pair", .createMember id "second" 4 4,
        .setMemberType id ⟨Database.firstId + 2⟩ "int", .createMember id "first" 0 4,
        .deleteStruct id] := by
  intro db id refusal fault?
  have hdb : db.Reachable :=
    .perform (.createStruct "pair") (.empty 8) (by unfold Database.Spare; decide)
  obtain ⟨prompts, calls, hprompts, hjournal, htrace⟩ :=
    exact_trace (d := pair) hdb (by unfold Database.Spare; decide) rfl fault? ⟨[.yes], []⟩
  have hcalls : calls = [.deleteStruct ⟨Database.firstId⟩, .createStruct "pair",
      .createMember id "second" 4 4, .setMemberType id ⟨Database.firstId + 2⟩ "int",
      .createMember id "first" 0 4, .deleteStruct id] :=
    List.append_cancel_left (hjournal.symm.trans (by decide +kernel))
  have hquestion : prompts = [pair.question ⟨⟨Database.firstId⟩, "pair", []⟩] :=
    hprompts.symm.trans (by decide +kernel)
  have hresult : ((pair.materialize Script.confirmer (⟨db, fault?⟩ : Guarded Database)).run
      ⟨[.yes], []⟩).1.value.1.1 = .error (.refusedMember "pair.first" refusal) := by
    decide +kernel
  rw [hcalls, hquestion, hresult] at htrace
  exact htrace

end Descriptor

end StructSync
