import Mathlib
import StructSync.Proofs.Database.Touched
import StructSync.Proofs.Failing

/-!
# What a materialized descriptor stands for

`StoredStruct.IsDeclared`: a stored struct has the name and the size of a descriptor and, in order
of their offsets, its members. Main statement (`Descriptor.Call.materialized_as_declared`): in a
database made by requests a call with the answer yes always comes through, and whenever a call
leaves its descriptor materialized, such a struct is stored under the id, so that the next
descriptor of the same schema is accepted without a request.
-/

namespace StructSync

open Work

/-- Name, first byte and end of a stored member. -/
def StoredMember.range (m : StoredMember) : String × UInt64 × UInt64 := (m.name, m.offset, m.stop)

/-- The struct is what the descriptor declares. -/
structure StoredStruct.IsDeclared (s : StoredStruct) (d : Descriptor) : Prop where
  name : s.name = d.name
  size : s.size = d.size
  ranges : s.members.map StoredMember.range = d.layout.byOffset.map Member.range

/-- Each member has the name of the declared type, and the flags of that type. -/
def StoredStruct.IsTyped (s : StoredStruct) (d : Descriptor) : Prop :=
  s.members.map (fun m => (m.name, m.typeName, m.flags)) =
    d.layout.byOffset.map fun m => (m.name, some m.type.type.name, DataFlags.ofType m.type.type)

/-- A struct of two integers, the second declared first. -/
def Descriptor.pair : Descriptor where
  name := "pair"
  layout := {
    members := [
      ⟨"pair", "second", 4, ⟨"int", ⟨4, "int", .integer⟩, by decide⟩, by decide⟩,
      ⟨"pair", "first", 0, ⟨"int", ⟨4, "int", .integer⟩, by decide⟩, by decide⟩]
    apart := by simp [Member.Apart]; decide }
  bindings := []
  state := .schemaParsed

namespace StoredStruct

variable {s : StoredStruct} {a b d : Descriptor}

theorem IsDeclared.alike (h : s.IsDeclared a) (hab : Descriptor.Call.Alike a b) :
    s.IsDeclared b := by
  obtain ⟨hname, hlayout⟩ := hab
  refine ⟨h.name.trans hname, h.size.trans ?_, hlayout ▸ h.ranges⟩
  rw [Descriptor.size, hlayout, Descriptor.size]

theorem IsTyped.alike (h : s.IsTyped a) (hab : Descriptor.Call.Alike a b) : s.IsTyped b :=
  (show s.IsTyped a ↔ s.IsTyped b by unfold IsTyped; rw [hab.2]).1 h

theorem map_range_reported (s : StoredStruct) :
    (Database.reported s).map HostMember.range = s.members.map StoredMember.range := by
  rw [Database.reported, List.map_map]
  rfl

theorem size_eq_of_ranges
    (h : s.members.map StoredMember.range = d.layout.byOffset.map Member.range) :
    s.size = d.size := by
  have hstops := congrArg (List.map fun r => r.2.2) h
  rw [List.map_map, List.map_map] at hstops
  have hperm : (s.members.map (·.stop)).Perm (d.layout.byOffset.map (·.stop)) :=
    hstops ▸ List.Perm.refl _
  exact size_eq_of_perm (hperm.trans (d.layout.byOffset_perm.map _))

theorem Sound.differences_eq_nil_iff (h : s.Sound) :
    d.differences s.size (Database.reported s) = [] ↔
      s.members.map StoredMember.range = d.layout.byOffset.map Member.range := by
  rw [Descriptor.differences_eq_nil_iff, map_range_reported]
  constructor
  · rintro ⟨-, hperm⟩
    exact h.eq_map_byOffset (fun r => r.2.1.toNat) (fun _ => rfl) (fun _ => rfl) hperm
  · intro hranges
    refine ⟨size_eq_of_ranges hranges, ?_⟩
    rw [hranges]
    exact d.layout.byOffset_perm.map _

theorem Sound.isDeclared_iff (h : s.Sound) (hname : s.name = d.name) :
    s.IsDeclared d ↔ d.differences s.size (Database.reported s) = [] := by
  rw [h.differences_eq_nil_iff]
  exact ⟨fun hd => hd.ranges, fun hranges => ⟨hname, size_eq_of_ranges hranges, hranges⟩⟩

/-- What a stored struct has in common with the declaration once its members are. -/
theorem isDeclared_of_content (hname : s.name = d.name)
    (h : s.members.map StoredMember.content = d.layout.byOffset.map Member.content) :
    s.IsDeclared d ∧ s.IsTyped d := by
  -- every list in question is read off the contents
  have hmap {γ : Type} (f : String × UInt64 × UInt64 × DataFlags × Option String → γ) :
      s.members.map (fun m => f m.content) = d.layout.byOffset.map fun m => f m.content := by
    have := congrArg (List.map f) h
    rwa [List.map_map, List.map_map] at this
  have hranges : s.members.map StoredMember.range = d.layout.byOffset.map Member.range := by
    refine (hmap fun c => (c.1, c.2.1, addClamped c.2.1 c.2.2.1)).trans ?_
    exact List.map_congr_left fun m _ =>
      congrArg (fun e => (m.name, m.offset, e)) m.addClamped_eq_stop
  exact ⟨⟨hname, size_eq_of_ranges hranges, hranges⟩, hmap fun c => (c.1, c.2.2.2.2, c.2.2.2.1)⟩

end StoredStruct

namespace Descriptor

variable {db after : Database} {d d' : Descriptor} {id : StructId} {s : StoredStruct}

theorem findStruct_eq_some (h : db.Sound) {name : String} :
    Host.findStruct? db name = some id ↔ ∃ s, db.get? id = some s ∧ s.name = name := by
  show (db.findByName? name).map (·.id) = some id ↔ _
  constructor
  · intro hfind
    obtain ⟨s, hs, rfl⟩ := Option.map_eq_some_iff.1 hfind
    exact ⟨s, h.findByName?_eq_some.1 hs⟩
  · rintro ⟨s, hs, hname⟩
    have hid : s.id = id := h.get?_id hs
    rw [h.findByName?_eq_some.2 ⟨hid.symm ▸ hs, hname⟩, Option.map_some, hid]

/-- The host answers for the struct under the id as declared. -/
structure Shows {σ : Type} [Host σ] (host : σ) (d : Descriptor) (id : StructId) : Prop where
  findStruct : Host.findStruct? host d.name = some id
  differences : ∃ size stored, Host.structSize host id = .ok size ∧
    Host.members host id = .ok stored ∧ d.differences size stored = []

theorem shows_of_isDeclared (h : db.Sound) (hs : db.get? id = some s) (hd : s.IsDeclared d) :
    Shows db d id :=
  ⟨(findStruct_eq_some h).2 ⟨s, hs, hd.name⟩, s.size, Database.reported s,
    Database.structSize_eq_ok.2 ⟨s, hs, rfl⟩, Database.members_eq_ok.2 ⟨s, hs, rfl⟩,
    ((h.members hs).isDeclared_iff hd.name).1 hd⟩

/-- A struct that is as declared is accepted, and nothing is asked of the host. -/
theorem reconcile_accepts {σ : Type} [Host σ] {host : σ} (h : Shows host d id)
    (hstate : d.state = .schemaParsed) :
    ∃ bindings, value d.reconcile host =
      ((.ok (.accepted id), { d with bindings, state := .materialized id }), host) := by
  obtain ⟨hfind, size, stored, hsize, hmembers, hnone⟩ := h
  rw [value_reconcile_schemaParsed hstate, hfind]
  dsimp only
  rw [value_validate, hsize, hmembers]
  dsimp only
  rw [if_pos (Report.isMatch_iff.2 hnone)]
  exact ⟨_, rfl⟩

/-- The call ended well: the struct under the id is as declared, and typed if it was created. -/
structure Settled (d : Descriptor) (after : Database) (outcome : Outcome) (id : StructId) :
    Prop where
  sound : after.Sound
  structId : outcome.structId? = some id
  stored : ∃ s, after.get? id = some s ∧ s.IsDeclared d ∧ (outcome.isMutation = true → s.IsTyped d)

/-- A creation that succeeds stores the struct as declared, and it does succeed if the name is
free. -/
theorem create_settled (h : db.Sound) (hspare : db.Spare (d.layout.members.length + 1))
    (hcreate : value d.create db = ((.ok id, d'), after)) :
    d'.state = .materialized id ∧ db.Touched d.name (d.layout.members.length + 1) after ∧
      ∃ s, after.get? id = some s ∧ s.IsDeclared d ∧ s.IsTyped d := by
  cases hname : db.findByName? d.name with
  | some taken =>
    have htaken := create_taken (F := .none) hname
    rw [show (⟨db, .none⟩ : FaultyDatabase) = .ofDatabase db from rfl,
      FaultyDatabase.morphism_ofDatabase.create, hcreate] at htaken
    cases htaken
  | none =>
    obtain ⟨bindings, after', t, hvalue, hgrown, hcontent⟩ := create_stored h hspare hname
    rw [hvalue] at hcreate
    cases hcreate
    have hunused : db.get? ⟨db.nextId⟩ = none := h.get?_next
    exact ⟨rfl, .of_grown h hunused hgrown, t, hgrown.get?,
      StoredStruct.isDeclared_of_content hgrown.name hcontent⟩

theorem create_error_state {σ : Type} [Host σ] {host host' : σ} {e : SyncError}
    (hcreate : value d.create host = ((.error e, d'), host')) : d'.state = d.state := by
  have h := creation d host
  rw [hcreate] at h
  cases h <;> rfl

theorem reconcile_settled (h : db.Sound) (hspare : db.Spare (d.layout.members.length + 1))
    (hd : ∀ id, d.state ≠ .materialized id)
    (hid : (value d.reconcile db).1.2.state = .materialized id) :
    ∃ outcome, (value d.reconcile db).1.1 = .ok outcome ∧
      Settled d (value d.reconcile db).2 outcome id := by
  have hr := reconciliation d db
  generalize value d.reconcile db = r at hr hid
  cases hr with
  | outOfTurn e hstate => exact absurd hid (hd id)
  | creates result d' after hstate hfind hcreate =>
    cases result with
    | error e => exact absurd ((create_error_state hcreate).symm.trans hid) (hd id)
    | ok created =>
      obtain ⟨hd', htouched, s, hs, hdeclared, htyped⟩ := create_settled h hspare hcreate
      obtain rfl : created = id := by simpa [hd'] using hid
      exact ⟨.created created, rfl, htouched.sound, rfl, s, hs, hdeclared, fun _ => htyped⟩
  | unreadable e existing hstate hfind => exact absurd hid (hd id)
  | accepts existing size stored hstate hfind hsize hmembers hmatch =>
    obtain rfl : existing = id := by simpa using hid
    obtain ⟨s, hs, rfl⟩ := Database.structSize_eq_ok.1 hsize
    obtain ⟨t, ht, rfl⟩ := Database.members_eq_ok.1 hmembers
    obtain rfl : s = t := Option.some.inj (hs.symm.trans ht)
    obtain ⟨u, hu, hname⟩ := (findStruct_eq_some h).1 hfind
    obtain rfl : s = u := Option.some.inj (hs.symm.trans hu)
    have hdeclared := ((h.members hs).isDeclared_iff hname).2 hmatch
    exact ⟨.accepted existing, rfl, h, rfl, s, hs, hdeclared, nofun⟩
  | asks existing size stored hstate hfind hsize hmembers hdiffer => simp at hid

theorem host_deleteStruct_ok (h : db.Sound) (hdelete : Host.deleteStruct id db = (.ok (), after)) :
    after.Sound ∧ after.nextId = db.nextId := by
  have hdb := Database.host_deleteStruct_eq_ok.1 hdelete
  have hsound := h.deleteStruct hdb
  obtain ⟨-, rfl⟩ := Database.deleteStruct_eq_ok.1 hdb
  exact ⟨hsound, rfl⟩

theorem host_deleteStruct_stored (h : db.Sound) (hs : db.get? id = some s) :
    ∃ freed, Host.deleteStruct id db = (.ok (), freed) ∧ freed.findByName? s.name = none := by
  have hdb := Database.deleteStruct_eq_ok.2 ⟨(by rw [hs]; rfl), rfl⟩
  exact ⟨_, Database.host_deleteStruct_eq_ok.2 hdb, h.name_free_of_deleteStruct hs hdb⟩

theorem resolve_settled (h : db.Sound) (hspare : db.Spare (d.layout.members.length + 1))
    (hd : ∀ id, d.state ≠ .materialized id) {decision : Decision}
    (hid : (value (d.resolve decision) db).1.2.state = .materialized id) :
    ∃ outcome, (value (d.resolve decision) db).1.1 = .ok outcome ∧
      Settled d (value (d.resolve decision) db).2 outcome id := by
  have hr := resolution decision d db
  generalize value (d.resolve decision) db = r at hr hid
  cases hr with
  | notAsked hstate => exact absurd hid (hd id)
  | stopped e existing report hstate hdecision => simp at hid
  | kept e existing report after hstate hdecision hdelete => simp at hid
  | replaces existing report freed result d' after hstate hdecision hdelete hcreate =>
    obtain ⟨hfreed, hnext⟩ := host_deleteStruct_ok h hdelete
    have hspare' : freed.Spare (d.layout.members.length + 1) :=
      hspare.of_next_eq hnext
    cases result with
    | error e => simp [create_error_state hcreate] at hid
    | ok created =>
      obtain ⟨hd', htouched, s, hs, hdeclared, htyped⟩ :=
        create_settled (d := { d with state := .schemaParsed }) hfreed hspare' hcreate
      obtain rfl : created = id := by simpa [hd'] using hid
      exact ⟨.recreated existing created, rfl, htouched.sound, rfl, s, hs,
        ⟨hdeclared.name, hdeclared.size, hdeclared.ranges⟩, fun _ => htyped⟩

end Descriptor

namespace Descriptor.Call

variable {db : Database} {d : Descriptor} {id : StructId}

theorem run_settled (h : db.Sound) (hspare : db.Spare (d.layout.members.length + 1)) (c : Call)
    (hd : ∀ id, d.state ≠ .materialized id) (hid : (c.run d db).1.2.state = .materialized id) :
    ∃ outcome, (c.run d db).1.1 = .ok outcome ∧ Settled d (c.run d db).2 outcome id := by
  cases c with
  | reconcile => exact reconcile_settled h hspare hd hid
  | resolve decision => exact resolve_settled h hspare hd hid
  | materialize confirm =>
    rcases run_materialize_cases confirm d db with hrun | ⟨report, d', hasks, hrun⟩
    · rw [hrun] at hid ⊢
      exact reconcile_settled h hspare hd hid
    · rw [hrun] at hid ⊢
      have halike := run_alike reconcile d db
      rw [hasks] at halike
      have hd' : ∀ id, d'.state ≠ .materialized id := fun id he => by
        have hmaterialized : (value d.reconcile db).1.2.state = .materialized id := by
          rw [show value d.reconcile db = _ from hasks]
          exact he
        obtain ⟨outcome, hok, hsettled⟩ := reconcile_settled h hspare hd hmaterialized
        rw [show value d.reconcile db = _ from hasks] at hok
        cases hok
        exact nomatch hsettled.structId
      obtain ⟨outcome, hok, hsettled⟩ :=
        resolve_settled (d := d') h (by rw [halike.2]; exact hspare) hd' hid
      obtain ⟨s, hs, hdeclared, htyped⟩ := hsettled.stored
      exact ⟨outcome, hok, hsettled.sound, hsettled.structId, s, hs,
        hdeclared.alike halike, fun hm => (htyped hm).alike halike⟩

theorem run_agreed (h : db.Sound) (hspare : db.Spare (d.layout.members.length + 1))
    (hstate : d.state = .schemaParsed) {confirm : Confirmer Id} (hagrees : Agrees confirm) :
    ∃ outcome id, (run (materialize confirm) d db).1.1 = .ok outcome ∧
      (run (materialize confirm) d db).1.2.state = .materialized id := by
  rw [run_materialize]
  have hr := reconciliation d db
  generalize value d.reconcile db = r at hr
  cases hr with
  | outOfTurn e hne => exact absurd hstate hne
  | creates result d' after _ hfind hcreate =>
    have hfree : db.findByName? d.name = none := Option.map_eq_none_iff.1 hfind
    obtain ⟨bindings, after', t, hvalue, -, -⟩ := create_stored h hspare hfree
    rw [hvalue] at hcreate
    cases hcreate
    exact ⟨_, _, rfl, rfl⟩
  | unreadable e existing _ hfind hread =>
    obtain ⟨s, hs, -⟩ := (findStruct_eq_some h).1 hfind
    have hsize : Host.structSize db existing = .ok s.size :=
      Database.structSize_eq_ok.2 ⟨s, hs, rfl⟩
    have hmembers : Host.members db existing = .ok (Database.reported s) :=
      Database.members_eq_ok.2 ⟨s, hs, rfl⟩
    rw [hsize, hmembers] at hread
    simp at hread
  | accepts existing size stored _ hfind hsize hmembers hmatch => exact ⟨_, _, rfl, rfl⟩
  | asks existing size stored _ hfind hsize hmembers hdiffer =>
    obtain ⟨s, hs, hname⟩ := (findStruct_eq_some h).1 hfind
    obtain ⟨freed, hdelete, hfree⟩ := host_deleteStruct_stored h hs
    obtain ⟨hfreed, hnext⟩ := host_deleteStruct_ok h hdelete
    have hspare' : freed.Spare (d.layout.members.length + 1) :=
      hspare.of_next_eq hnext
    dsimp only
    rw [hagrees, value_resolve_yes rfl, hdelete]
    dsimp only
    obtain ⟨bindings, after, t, hvalue, -, -⟩ :=
      create_stored (d := { d with bindings := [], state := .schemaParsed }) hfreed hspare'
        (hname ▸ hfree)
    rw [hvalue]
    exact ⟨_, _, rfl, rfl⟩

/-- A call with the answer yes comes through. Whenever a call leaves its descriptor materialized,
the struct of that id has the name and the size that are declared, and its members are the declared
ones in order of their offsets; if the call created it, they have the declared types and their
flags. The next descriptor of that schema is accepted, and the database stays as it is. -/
theorem materialized_as_declared (hdb : db.Reachable)
    (hspare : db.Spare (d.layout.members.length + 1)) (hd : ∀ id, d.state ≠ .materialized id) :
    (d.state = .schemaParsed → ∀ confirm, Agrees confirm →
      ∃ outcome id, (run (materialize confirm) d db).1.1 = .ok outcome ∧
        (run (materialize confirm) d db).1.2.state = .materialized id) ∧
    ∀ (c : Call) (id : StructId), (c.run d db).1.2.state = .materialized id →
      ∃ outcome s, (c.run d db).1.1 = .ok outcome ∧ outcome.structId? = some id ∧
        (c.run d db).2.get? id = some s ∧ s.name = d.name ∧
        Host.structSize (c.run d db).2 id = .ok d.size ∧
        (Host.members (c.run d db).2 id).map (·.map HostMember.range) =
          .ok (d.layout.byOffset.map Member.range) ∧
        (outcome.isMutation = true →
          s.members.map (fun m => (m.name, m.typeName, m.flags)) =
            d.layout.byOffset.map fun m =>
              (m.name, some m.type.type.name, DataFlags.ofType m.type.type)) ∧
        ∀ copy : Descriptor, copy.name = d.name → copy.layout = d.layout →
          copy.state = .schemaParsed → ∃ bindings, run reconcile copy (c.run d db).2 =
            ((.ok (.accepted id), { copy with bindings, state := .materialized id }),
              (c.run d db).2) := by
  refine ⟨fun hstate confirm => run_agreed hdb.sound hspare hstate, fun c id hid => ?_⟩
  obtain ⟨outcome, hok, hsettled⟩ := run_settled hdb.sound hspare c hd hid
  obtain ⟨s, hs, hdeclared, htyped⟩ := hsettled.stored
  refine ⟨outcome, s, hok, hsettled.structId, hs, hdeclared.name, ?_, ?_, htyped, ?_⟩
  · exact hdeclared.size ▸ Database.structSize_eq_ok.2 ⟨s, hs, rfl⟩
  · rw [show Host.members (c.run d db).2 id = .ok (Database.reported s) from
      Database.members_eq_ok.2 ⟨s, hs, rfl⟩]
    exact congrArg Except.ok (s.map_range_reported.trans hdeclared.ranges)
  · intro copy hname hlayout hstate
    have hcopy := hdeclared.alike ⟨hname.symm, hlayout.symm⟩
    exact reconcile_accepts (shows_of_isDeclared hsettled.sound hs hcopy) hstate

/-- A pair of integers, the second declared first, comes into an empty database. -/
theorem pair_as_declared :
    (∃ outcome id, (run (materialize (.fixed .yes)) pair (Database.empty 8)).1.1 = .ok outcome ∧
      (run (materialize (.fixed .yes)) pair (Database.empty 8)).1.2.state = .materialized id) ∧
    ∃ outcome s, (run reconcile pair (Database.empty 8)).1.1 = .ok outcome ∧
      (run reconcile pair (Database.empty 8)).2.get? ⟨Database.firstId⟩ = some s ∧
      s.name = "pair" := by
  have h := materialized_as_declared (d := pair) (.empty 8)
    (by unfold Database.Spare; decide) (by simp [pair])
  refine ⟨h.1 rfl (.fixed .yes) fun _ => rfl, ?_⟩
  obtain ⟨outcome, s, hok, -, hs, hname, -⟩ := h.2 reconcile ⟨Database.firstId⟩ rfl
  exact ⟨outcome, s, hok, hs, hname⟩

end Descriptor.Call

end StructSync
