import Mathlib
import StructSync.Proofs.Database.Lineage
import StructSync.Proofs.Rollback
import StructSync.Proofs.Run

/-!
# Structs of other names

A descriptor addresses structs by id, and its host may fail at any request. Main statement
(`World.others_untouched`): whatever a call or a build comes to, the stored structs of other names
are the same ones after it, and no two structs have the name of the descriptor. All that this takes
of a descriptor with a question is that the struct it asks about was once found under its name
(`Descriptor.AskedOf`), and that holds throughout every run.
-/

namespace StructSync

open Work

/-! ### What databases have in common -/

namespace Database

variable {db after : Database} {name : String} {id : StructId} {s t : StoredStruct} {n : Nat}

theorem Sound.findByName?_of_get? (h : db.Sound) (hs : db.get? id = some s)
    (hname : s.name = name) : db.findByName? name = some s :=
  h.findByName?_eq_some.2 ⟨(h.get?_id hs).symm ▸ hs, hname⟩

/-- The structs of other names are the same, and one struct at most has the name. -/
structure SameButFor (name : String) (db after : Database) : Prop where
  others : ∀ id s, s.name ≠ name → (after.get? id = some s ↔ db.get? id = some s)
  one : ∀ id id' s s', after.get? id = some s → after.get? id' = some s' → s.name = name →
    s'.name = name → id = id'

/-- What differs under one name when looked up differs in the struct of that name. -/
theorem Touched.sameButFor (h : db.Sound) (htouched : db.Touched name n after) :
    db.SameButFor name after where
  others id s hne := by
    have hlookup {d : Database} (hd : d.Sound) :
        d.get? id = some s ↔ d.findByName? s.name = some s ∧ s.id = id := by
      rw [hd.findByName?_eq_some]
      refine ⟨fun hs => ?_, fun ⟨⟨hs, _⟩, hid⟩ => hid ▸ hs⟩
      have hid := hd.get?_id hs
      exact ⟨⟨hid ▸ hs, rfl⟩, hid⟩
    rw [hlookup htouched.sound, hlookup h, htouched.others hne]
  one id id' s s' hs hs' hname hname' :=
    congrArg StructId.mk (htouched.sound.names hs hs' (hname.trans hname'.symm))

end Database

/-! ### Creating and replacing -/

namespace Descriptor

variable {db : Database} {F : Faults} {d : Descriptor}

/-- A creation touches the name of its struct only, however far it comes, and under that name there
is what has become of the struct that it began. -/
theorem create_leaves (h : db.Sound) (hspare : db.Spare (d.layout.members.length + 1)) :
    ∃ after, (value d.create (⟨db, F⟩ : FaultyDatabase)).2 = ⟨after, F⟩ ∧
      db.Touched d.name (d.layout.members.length + 1) after ∧
      (db.findByName? d.name = none → after.findByName? d.name = after.get? ⟨db.nextId⟩) := by
  cases hname : db.findByName? d.name with
  | some taken => exact ⟨db, by rw [create_taken hname], .refl h _ _, nofun⟩
  | none =>
    have hunused : db.get? ⟨db.nextId⟩ = none := h.get?_next
    cases hF : d.layout.members.find? F.fails with
    | none =>
      have hnone : ∀ m ∈ d.layout.members, F.fails m = false := by simpa using hF
      obtain ⟨bindings, after, t, hvalue, hgrown, -⟩ := create_complete h hspare hname hnone
      refine ⟨after, by rw [hvalue], .of_grown h hunused hgrown, fun _ => ?_⟩
      rw [hgrown.get?]
      exact hgrown.sound.findByName?_of_get? hgrown.get? hgrown.name
    | some failing =>
      rw [Nat.add_comm] at hspare
      obtain ⟨begun, hcreate, hbegun⟩ :=
        createStruct_blank h (hspare.mono (Nat.le_add_right _ _)) hname
      obtain ⟨source, partly, t, hmembers, hgrown⟩ :=
        createMembers_failed hbegun.sound (hbegun.spare hspare) hbegun.get?
          (fun m _ => StoredStruct.hasRoom_nil _ _ m) d.layout.apart hF
      have hall := hbegun.trans hgrown
      have htouched := Database.Touched.of_grown h hunused hall
      rw [value_create, FaultyDatabase.createStruct_eq_ok hcreate]
      dsimp only
      rw [hmembers, Nat.add_comm]
      dsimp only
      by_cases hdelete : F.delete = true
      · rw [FaultyDatabase.deleteStruct_of_fault hdelete]
        refine ⟨partly, rfl, htouched, fun _ => ?_⟩
        rw [hall.get?]
        exact hall.sound.findByName?_of_get? hall.get? hall.name
      · obtain ⟨freed, hfreed, hfree⟩ := host_deleteStruct_stored hall.sound hall.get?
        have hok := Database.host_deleteStruct_eq_ok.1 hfreed
        rw [FaultyDatabase.deleteStruct_eq_ok (by simpa using hdelete) hok]
        have hdeleted := Database.Touched.deleteStruct htouched.sound hall.get? hok
        rw [hall.name] at hdeleted hfree
        refine ⟨freed, rfl, htouched.trans hdeleted, fun _ => hfree.trans ?_⟩
        rw [(Database.deleteStruct_eq_ok.1 hok).2]
        exact WordMap.get?_erase_self.symm

theorem create_touches (h : db.Sound) (hspare : db.Spare (d.layout.members.length + 1)) :
    ∃ after, (value d.create (⟨db, F⟩ : FaultyDatabase)).2 = ⟨after, F⟩ ∧
      db.Touched d.name (d.layout.members.length + 1) after := by
  obtain ⟨after, hafter, htouched, -⟩ := create_leaves (F := F) h hspare
  exact ⟨after, hafter, htouched⟩

/-- The struct that the descriptor asks about was found under its name, in this database or in an
earlier one. -/
def AskedOf (d : Descriptor) (db : Database) : Prop :=
  ∀ id report, d.state = .awaitingConfirmation id report →
    ∃ past : Database, past.Reachable ∧ past.Later db ∧ Host.findStruct? past d.name = some id

theorem AskedOf.name_eq (hasked : d.AskedOf db) {id : StructId} {report : Report}
    (hstate : d.state = .awaitingConfirmation id report) {s : StoredStruct}
    (hs : db.get? id = some s) : s.name = d.name := by
  obtain ⟨past, hreachable, hlater, hfind⟩ := hasked id report hstate
  obtain ⟨found, hfound, hname⟩ := (findStruct_eq_some hreachable.sound).1 hfind
  obtain ⟨t, ht, htname⟩ := hlater.stored_before (hreachable.sound.lt_next hfound) hs
  obtain rfl : found = t := Option.some.inj (hfound.symm.trans ht)
  exact htname.symm.trans hname

theorem reconcile_touches (h : db.Sound) (hspare : db.Spare (d.layout.members.length + 1)) :
    ∃ after, (value d.reconcile (⟨db, F⟩ : FaultyDatabase)).2 = ⟨after, F⟩ ∧
      db.Touched d.name (d.layout.members.length + 1) after := by
  have hcases := reconciliation d (⟨db, F⟩ : FaultyDatabase)
  generalize value d.reconcile (⟨db, F⟩ : FaultyDatabase) = r at hcases
  cases hcases with
  | creates result d' after hstate hfind hcreate =>
    have htouched := create_touches (F := F) h hspare
    rwa [hcreate] at htouched
  | _ => exact ⟨db, rfl, .refl h _ _⟩

theorem resolve_touches (h : db.Sound) (hspare : db.Spare (d.layout.members.length + 1))
    (hasked : d.AskedOf db) (decision : Decision) :
    ∃ after, (value (d.resolve decision) (⟨db, F⟩ : FaultyDatabase)).2 = ⟨after, F⟩ ∧
      db.Touched d.name (d.layout.members.length + 1) after := by
  have hcases := resolution decision d (⟨db, F⟩ : FaultyDatabase)
  generalize value (d.resolve decision) (⟨db, F⟩ : FaultyDatabase) = r at hcases
  cases hcases with
  | kept e existing report after hstate hdecision hdelete =>
    exact ⟨db, (deleteStruct_error hdelete).1, .refl h _ _⟩
  | replaces existing report freed result d' after hstate hdecision hdelete hcreate =>
    obtain ⟨-, freed, hdb, rfl⟩ := deleteStruct_ok hdelete
    obtain ⟨s, hs⟩ := Option.isSome_iff_exists.1 (Database.deleteStruct_eq_ok.1 hdb).1
    have hdeleted := Database.Touched.deleteStruct h hs hdb
    rw [hasked.name_eq hstate hs] at hdeleted
    have hspare' : freed.Spare (d.layout.members.length + 1) :=
      hdeleted.spare (by rwa [Nat.zero_add])
    obtain ⟨after, hafter, htouched⟩ :=
      create_touches (d := { d with state := .schemaParsed }) (F := F) hdeleted.sound hspare'
    rw [hcreate] at hafter
    have hall := hdeleted.trans htouched
    rw [Nat.zero_add] at hall
    exact ⟨after, hafter, hall⟩
  | _ => exact ⟨db, rfl, .refl h _ _⟩

theorem AskedOf.later {after : Database} (hasked : d.AskedOf db) (hlater : db.Later after) :
    d.AskedOf after := by
  intro id report hstate
  obtain ⟨past, hpast, hle, hfind⟩ := hasked id report hstate
  exact ⟨past, hpast, hle.trans hlater, hfind⟩

theorem AskedOf.run (hdb : db.Reachable) (hasked : d.AskedOf db) (c : Call) :
    (c.run d (⟨db, F⟩ : FaultyDatabase)).1.2.AskedOf db := by
  intro id report hstate
  have hname := (c.run_alike d (⟨db, F⟩ : FaultyDatabase)).1
  rcases Call.run_awaiting hstate with hasks | ⟨hbefore, -⟩
  · obtain ⟨rfl, -, existing, -, hfind, hstate', -⟩ := Call.run_needsConfirmation hasks
    obtain ⟨rfl, -⟩ := State.awaitingConfirmation.inj (hstate'.symm.trans hstate)
    exact ⟨db, hdb, .refl, hname ▸ hfind⟩
  · rw [hname]
    exact hasked id report hbefore

theorem AskedOf.of_asks (hdb : db.Reachable) {report : Report} {asking : Descriptor}
    {host : FaultyDatabase} (hasks : Call.reconcile.run d (⟨db, F⟩ : FaultyDatabase) =
      ((.ok (.needsConfirmation report), asking), host)) : asking.AskedOf db := by
  obtain ⟨-, -, -, hstate, -⟩ := Call.run_needsConfirmation (congrArg (·.1.1) hasks)
  have hrun := AskedOf.run (F := F) hdb
    (fun _ _ he => nomatch hstate.symm.trans he : d.AskedOf db) .reconcile
  rwa [hasks] at hrun

theorem Call.run_touches (hdb : db.Reachable) (hspare : db.Spare (d.layout.members.length + 1))
    (hasked : d.AskedOf db) (c : Call) :
    ∃ after, (c.run d (⟨db, F⟩ : FaultyDatabase)).2 = ⟨after, F⟩ ∧
      db.Touched d.name (d.layout.members.length + 1) after := by
  cases c with
  | reconcile => exact reconcile_touches hdb.sound hspare
  | resolve decision => exact resolve_touches hdb.sound hspare hasked decision
  | materialize confirm =>
    rcases run_materialize_cases confirm d (⟨db, F⟩ : FaultyDatabase) with
      hsame | ⟨report, asking, hasks, hsame⟩
    · rw [hsame]
      exact reconcile_touches hdb.sound hspare
    · rw [hsame]
      have halike := reconcile_alike d (⟨db, F⟩ : FaultyDatabase)
      rw [show value d.reconcile (⟨db, F⟩ : FaultyDatabase) = _ from hasks] at halike
      rw [← halike.1, ← halike.2] at *
      exact resolve_touches hdb.sound hspare (AskedOf.of_asks hdb hasks) _

theorem build_touches (hdb : db.Reachable) {fields : List Field}
    (hspare : db.Spare (fields.length + 1)) (confirm : Confirmer Id) (name : String) :
    ∃ after, (Id.run (build confirm name fields (⟨db, F⟩ : FaultyDatabase))).value.2 =
        ⟨after, F⟩ ∧ db.Touched name (fields.length + 1) after := by
  rw [Call.value_build]
  rcases hparse : ((ofName name).parse (⟨db, F⟩ : FaultyDatabase) fields).value with
    ⟨e | _, parsed⟩
  · exact ⟨db, rfl, .refl hdb.sound _ _⟩
  · obtain ⟨hname, hstate, hlength⟩ := parse_ok hparse
    rw [← hlength] at hspare ⊢
    obtain ⟨after, hafter, htouched⟩ := Call.run_touches (F := F) hdb hspare
      (fun id report he => nomatch hstate.symm.trans he) (.materialize confirm)
    rw [hname] at htouched
    exact ⟨after, hafter, htouched⟩

end Descriptor

/-! ### Requests to a faulty database -/

namespace FaultyDatabase

variable {f : FaultyDatabase}

theorem later_perform (r : Request) (hspare : f.db.Spare r.ids) : f.db.Later (r.perform f).db := by
  rcases f.perform_cases r with h | h
  · rw [h]
    exact .refl
  · rw [h]
    exact .perform r .refl hspare

theorem spare_perform {r : Request} {n : Nat} (hspare : f.db.Spare (r.ids + n)) :
    (r.perform f).db.Spare n := by
  rcases f.perform_cases r with h | h
  · rw [h]
    exact hspare.mono (Nat.le_add_left _ _)
  · rw [h]
    exact hspare.perform

theorem later_performAll {requests : List Request}
    (hspare : f.db.Spare (Request.idsOfAll requests)) :
    f.db.Later (Request.performAll requests f).db := by
  induction requests generalizing f with
  | nil => exact .refl
  | cons r rest ih =>
    rw [Request.idsOfAll_cons] at hspare
    exact (later_perform r (hspare.mono (Nat.le_add_right _ _))).trans (ih (spare_perform hspare))

theorem next_le_performAll {requests : List Request}
    (hspare : f.db.Spare (Request.idsOfAll requests)) :
    f.db.nextId ≤ (Request.performAll requests f).db.nextId :=
  UInt64.le_iff_toNat_le.2 (later_performAll hspare).next_le

theorem spare_performAll {requests : List Request} {n : Nat}
    (hspare : f.db.Spare (Request.idsOfAll requests + n)) :
    (Request.performAll requests f).db.Spare n := by
  induction requests generalizing f with
  | nil => simpa using hspare
  | cons r rest ih =>
    rw [Request.idsOfAll_cons, Nat.add_assoc] at hspare
    exact ih (spare_perform hspare)

end FaultyDatabase

/-! ### Runs -/

namespace World

open Descriptor

variable {db : Database} {f : FaultyDatabase} {acts : List (Act FaultyDatabase)} {m n : Nat}

/-- From outside the database gets a request or another set of faults, and whatever an act may take
of the counter is left. -/
structure Served (f : FaultyDatabase) (acts : List (Act FaultyDatabase)) : Prop where
  outside : ∀ change, .outside change ∈ acts → ∀ g : FaultyDatabase,
    (change g).db = g.db ∨ ∃ r : Request, (change g).db = r.perform g.db
  spare : ∀ n act, acts[n]? = some act →
    (after f acts n).host.db.Spare ((after f acts n).ids act)

theorem Served.later_step (h : Served f acts) {act : Act FaultyDatabase}
    (hact : acts[n]? = some act) : (after f acts n).host.db.Later (after f acts (n + 1)).host.db := by
  have hspare := h.spare n act hact
  rw [after_succ hact]
  rcases host_step (after f acts n) act with ⟨change, rfl, hhost⟩ | ⟨requests, hhost, hids⟩
  · rw [hhost]
    rcases h.outside change (List.mem_of_getElem? hact) (after f acts n).host with hsame | ⟨r, hr⟩
    · rw [hsame]
      exact .refl
    · rw [hr]
      refine .perform r .refl (hspare.mono ?_)
      cases r <;> simp [Request.ids, ids]
  · rw [hhost]
    exact FaultyDatabase.later_performAll (hspare.mono hids)

theorem Served.later (h : Served f acts) (hmn : m ≤ n) (hn : n ≤ acts.length) :
    (after f acts m).host.db.Later (after f acts n).host.db := by
  induction n, hmn using Nat.le_induction with
  | base => exact .refl
  | succ n _ ih =>
    exact (ih (Nat.le_of_succ_le hn)).trans (h.later_step (List.getElem?_eq_getElem hn))

theorem Served.reachable (h : Served f acts) (hdb : f.db.Reachable) (hn : n ≤ acts.length) :
    (after f acts n).host.db.Reachable :=
  (h.later (Nat.zero_le n) hn).reachable hdb

theorem Served.askedOf (h : Served f acts) (hdb : f.db.Reachable) (hn : n ≤ acts.length) {i : Nat}
    {s : Slot} (hs : (after f acts n).slots[i]? = some s) :
    s.descriptor.AskedOf (after f acts n).host.db := by
  intro id report hwaits
  obtain ⟨k, hk, -, hasked⟩ := asked_before hn hs hwaits
  exact ⟨_, h.reachable hdb (hk.le.trans hn), h.later hk.le hn, hasked.found⟩

/-- Whatever has happened to a database that requests have made, and whatever fails: a call on a
descriptor in any state, and a build, leave all structs of other names as they are, and no two of
the name, whether they succeed or not. The question of a descriptor must be about a struct of this
database, as is every question in a run. -/
theorem others_untouched (hf : f.db.Reachable) (hacts : Served f acts) (hn : n ≤ acts.length) :
    (∀ (i : Nat) (s : Slot), (after f acts n).slots[i]? = some s →
      s.descriptor.AskedOf (after f acts n).host.db) ∧
    (∀ d : Descriptor, d.AskedOf (after f acts n).host.db →
      (after f acts n).host.db.Spare (d.layout.members.length + 1) → ∀ c : Call,
        (after f acts n).host.db.SameButFor d.name (c.run d (after f acts n).host).2.db) ∧
    ∀ confirm name fields, (after f acts n).host.db.Spare (fields.length + 1) →
      (after f acts n).host.db.SameButFor name
        (Id.run (build confirm name fields (after f acts n).host)).value.2.db := by
  have hreachable := hacts.reachable hf hn
  refine ⟨fun i s hs => hacts.askedOf hf hn hs, fun d hasked hspare c => ?_,
    fun confirm name fields hspare => ?_⟩
  · obtain ⟨final, hfinal, htouched⟩ :=
      Call.run_touches (F := (after f acts n).host.faults) hreachable hspare hasked c
    rw [show (c.run d (after f acts n).host).2 = _ from hfinal]
    exact htouched.sameButFor hreachable.sound
  · obtain ⟨final, hfinal, htouched⟩ :=
      build_touches (F := (after f acts n).host.faults) hreachable hspare confirm name
    rw [show (Id.run (build confirm name fields (after f acts n).host)).value.2 = _ from hfinal]
    exact htouched.sameButFor hreachable.sound

/-- A descriptor asks about a struct and is answered yes, and then the member of the new struct is
refused: the struct is gone, and the one beside it is what it was. -/
theorem others_untouched_rollBack :
    let db := Request.performAll [.createStruct "pair",
      .createMember ⟨Database.firstId⟩ "first" 0 4 .data, .createStruct "other",
      .createMember ⟨Database.firstId + 2⟩ "a" 0 1 .data] (Database.empty 8)
    let f : FaultyDatabase := ⟨db, { Faults.none with member := (· == "b") }⟩
    let acts : List (Act FaultyDatabase) :=
      [.start "pair", .parse 0 [⟨some "b", none, some "char"⟩], .call 0 .reconcile]
    ∃ s, (after f acts 3).slots[0]? = some s ∧ s.descriptor.name = "pair" ∧
      s.descriptor.awaited? = some ⟨Database.firstId⟩ ∧
      (after f acts 3).host.db.SameButFor "pair"
        ((Call.resolve .yes).run s.descriptor (after f acts 3).host).2.db := by
  intro db f acts
  have hdb : db.Reachable := .performAll (.empty 8) (by unfold Database.Spare; decide)
  have hserved : Served f acts := by
    refine ⟨fun change hmem => ?_, fun n act hact => ?_⟩
    · simp [acts] at hmem
    · have hall : ∀ n < 3, ∀ act ∈ acts[n]?,
          (after f acts n).host.db.Spare ((after f acts n).ids act) := by
        unfold Database.Spare
        decide +kernel
      exact hall n (List.getElem?_eq_some_iff.1 hact).1 act hact
  have hslot : ((after f acts 3).slots[0]?.map fun s =>
      (s.descriptor.name, s.descriptor.awaited?, s.descriptor.layout.members.length)) =
        some ("pair", some ⟨Database.firstId⟩, 1) := by decide +kernel
  obtain ⟨s, hs, heq⟩ := Option.map_eq_some_iff.1 hslot
  obtain ⟨hname, hawaited⟩ := Prod.mk.inj heq
  obtain ⟨hawaited, hlength⟩ := Prod.mk.inj hawaited
  have h := others_untouched hdb hserved (n := 3) (Nat.le_refl 3)
  have hspare : (after f acts 3).host.db.Spare (s.descriptor.layout.members.length + 1) := by
    rw [hlength]
    unfold Database.Spare
    decide +kernel
  have hsame := h.2.1 s.descriptor (h.1 0 s hs) hspare (.resolve .yes)
  rw [hname] at hsame
  exact ⟨s, hs, hname, hawaited, hsame⟩

end World

end StructSync
