import Mathlib
import StructSync.Proofs.Sync

/-!
# How a struct and a database come together

`Descriptor.Materialization`: the ways in which a parsed descriptor and a sound database come
together, with all that they leave behind. A struct that is stored as it is declared is kept, and
anything else gives way to a new one with the declared contents (`Descriptor.Made`) if the one who
is asked says yes, and else stays. Main statements: every materialization is one of these
(`materialization`), one that is answered yes does not stop (`materialization_agreed`), and so does
a build once its fields are parsed (`build_materialization`).
-/

namespace StructSync

open Work

/-- All that is stored of the members but their ids, in their order. -/
def StoredStruct.contents (s : StoredStruct) :
    List (String × UInt64 × UInt64 × DataFlags × Option String) :=
  s.members.map StoredMember.content

namespace Descriptor

/-- What a struct made for the descriptor has in its members, in their order. -/
def contents (d : Descriptor) : List (String × UInt64 × UInt64 × DataFlags × Option String) :=
  d.layout.byOffset.map Member.content

/-- The names and ranges of the members, in order of their offsets. -/
def ranges (d : Descriptor) : List (String × UInt64 × UInt64) := d.layout.byOffset.map Member.range

/-- The database after has a new struct for the descriptor, and is otherwise as it was. -/
structure Made (d : Descriptor) (db : Database) (s : StoredStruct) (after : Database) : Prop where
  touched : db.Touched d.name (d.layout.members.length + 1) after
  stored : after.findByName? d.name = some s
  contents : s.contents = d.contents
  next : s.id = ⟨db.nextId⟩

/-- How a parsed descriptor and a database come together. -/
inductive Materialization (confirm : Confirmer Id) (d : Descriptor) (db : Database) :
    (Except SyncError Outcome × Descriptor) × Database → Prop
  | kept (s : StoredStruct) (d' : Descriptor) (hs : db.findByName? d.name = some s)
    (hd : s.IsDeclared d) (halike : Call.Alike d' d) (hstate : d'.state = .materialized s.id) :
    Materialization confirm d db ((.ok (.accepted s.id), d'), db)
  | made (outcome : Outcome) (s : StoredStruct) (d' : Descriptor) (after : Database)
    (hother : ∀ s, db.findByName? d.name = some s → ¬s.IsDeclared d)
    (hconsent : db.findByName? d.name = none ∨ ∃ prompt, (Id.run (confirm prompt)).value = .yes)
    (hmade : d.Made db s after)
    (hmutation : outcome.isMutation = true) (hid : outcome.structId? = some s.id)
    (halike : Call.Alike d' d) (hstate : d'.state = .materialized s.id) :
    Materialization confirm d db ((.ok outcome, d'), after)
  | stopped (e : SyncError) (d' : Descriptor) : Materialization confirm d db ((.error e, d'), db)

variable {db after : Database} {d : Descriptor} {s : StoredStruct}

theorem Made.isDeclared (h : d.Made db s after) : s.IsDeclared d := by
  obtain ⟨-, hname⟩ := Database.mem_of_findByName? h.stored
  exact (StoredStruct.isDeclared_of_content hname h.contents).1

theorem Made.alike {d' : Descriptor} (h : d'.Made db s after) (halike : Call.Alike d' d) :
    d.Made db s after := by
  obtain ⟨htouched, hstored, hcontents, hnext⟩ := h
  rw [halike.1, halike.2] at htouched
  rw [halike.1] at hstored
  rw [Descriptor.contents, halike.2] at hcontents
  exact ⟨htouched, hstored, hcontents, hnext⟩

theorem create_made (h : db.Sound) (hspare : db.Spare (d.layout.members.length + 1))
    (hfree : db.findByName? d.name = none) :
    ∃ s d' after, value d.create db = ((.ok s.id, d'), after) ∧ d.Made db s after ∧
      Call.Alike d' d ∧ d'.state = .materialized s.id := by
  obtain ⟨bindings, after, t, hvalue, hgrown, hcontents⟩ := create_stored h hspare hfree
  have hid : t.id = ⟨db.nextId⟩ := hgrown.id
  have hunused : db.get? ⟨db.nextId⟩ = none := h.get?_next
  rw [← hid] at hvalue
  refine ⟨t, { d with bindings, state := .materialized t.id }, after, hvalue,
    ⟨.of_grown h hunused hgrown, ?_, hcontents, hid⟩, ⟨rfl, rfl⟩, rfl⟩
  exact hgrown.sound.findByName?_eq_some.2 ⟨hid.symm ▸ hgrown.get?, hgrown.name⟩

theorem resolve_made (h : db.Sound) (hspare : db.Spare (d.layout.members.length + 1))
    {old : StoredStruct} (hold : db.findByName? d.name = some old) {report : Report}
    (hstate : d.state = .awaitingConfirmation old.id report) :
    ∃ s d' after, value (d.resolve .yes) db = ((.ok (.recreated old.id s.id), d'), after) ∧
      d.Made db s after ∧ Call.Alike d' d ∧ d'.state = .materialized s.id := by
  obtain ⟨hget, hname⟩ := h.findByName?_eq_some.1 hold
  obtain ⟨freed, hdelete, hfree⟩ := host_deleteStruct_stored h hget
  rw [hname] at hfree
  obtain ⟨hsound, hnext⟩ := host_deleteStruct_ok h hdelete
  have hfreed := Database.Touched.deleteStruct h hget (Database.host_deleteStruct_eq_ok.1 hdelete)
  rw [hname] at hfreed
  obtain ⟨s, d', after, hcreate, hmade, halike, hd'⟩ :=
    create_made (d := { d with state := .schemaParsed }) hsound (hspare.of_next_eq hnext) hfree
  refine ⟨s, d', after, ?_, ⟨?_, hmade.stored, hmade.contents, ?_⟩, halike, hd'⟩
  · rw [value_resolve_yes hstate, hdelete]
    dsimp only
    rw [hcreate]
    rfl
  · have htouched := hfreed.trans hmade.touched
    rwa [Nat.zero_add] at htouched
  · rw [hmade.next, hnext]

theorem found_isDeclared_iff (h : db.Sound) {existing : StructId} {size : UInt64}
    {stored : List HostMember} (hfind : Host.findStruct? db d.name = some existing)
    (hsize : Host.structSize db existing = .ok size)
    (hmembers : Host.members db existing = .ok stored) :
    ∃ s, db.findByName? d.name = some s ∧ s.id = existing ∧
      (s.IsDeclared d ↔ d.differences size stored = []) := by
  obtain ⟨s, hs, hname⟩ := (findStruct_eq_some h).1 hfind
  obtain ⟨t, ht, rfl⟩ := Database.structSize_eq_ok.1 hsize
  obtain ⟨u, hu, rfl⟩ := Database.members_eq_ok.1 hmembers
  obtain rfl : s = t := Option.some.inj (hs.symm.trans ht)
  obtain rfl : s = u := Option.some.inj (hs.symm.trans hu)
  obtain rfl := h.get?_id hs
  exact ⟨s, h.findByName?_eq_some.2 ⟨hs, hname⟩, rfl, (h.members hs).isDeclared_iff hname⟩

theorem resolve_materialization (h : db.Sound) (hspare : db.Spare (d.layout.members.length + 1))
    (hs : db.findByName? d.name = some s) (hdiffers : ¬s.IsDeclared d) {a : Descriptor}
    (halike : Call.Alike a d) {report : Report}
    (hstate : a.state = .awaitingConfirmation s.id report) (confirm : Confirmer Id)
    (prompt : String) :
    Materialization confirm d db
      (value (a.resolve (Id.run (confirm prompt)).value) db) := by
  by_cases hyes : (Id.run (confirm prompt)).value = .yes
  · rw [hyes]
    obtain ⟨t, d', after, hvalue, hmade, halike', hd'⟩ :=
      resolve_made (d := a) h (halike.2 ▸ hspare) (halike.1 ▸ hs) hstate
    rw [hvalue]
    refine .made (.recreated s.id t.id) t d' after (fun u hu => ?_) (.inr ⟨prompt, hyes⟩)
      (hmade.alike halike) rfl rfl ⟨halike'.1.trans halike.1, halike'.2.trans halike.2⟩ hd'
    obtain rfl : s = u := Option.some.inj (hs.symm.trans hu)
    exact hdiffers
  · obtain ⟨e, hvalue⟩ := value_resolve_of_ne_yes hstate hyes db
    rw [hvalue]
    exact .stopped e _

/-- Every materialization of a parsed descriptor in a sound database. -/
theorem materialization (h : db.Sound) (hspare : db.Spare (d.layout.members.length + 1))
    (hstate : d.state = .schemaParsed) (confirm : Confirmer Id) :
    Materialization confirm d db ((Call.materialize confirm).run d db) := by
  rw [Call.run_materialize]
  have hr := reconciliation d db
  generalize value d.reconcile db = r at hr
  cases hr with
  | outOfTurn e hne => exact absurd hstate hne
  | creates result d₁ after₁ _ hfind hcreate =>
    have hfree : db.findByName? d.name = none := Option.map_eq_none_iff.1 hfind
    obtain ⟨s, d', after, hvalue, hmade, halike, hd'⟩ := create_made h hspare hfree
    rw [hvalue] at hcreate
    cases hcreate
    refine .made (.created s.id) s _ _ (fun t ht => ?_) (.inl hfree) hmade rfl rfl halike hd'
    rw [hfree] at ht
    cases ht
  | unreadable e existing _ hfind hread => exact .stopped _ d
  | accepts existing size stored _ hfind hsize hmembers hmatch =>
    obtain ⟨s, hs, rfl, hdeclared⟩ := found_isDeclared_iff h hfind hsize hmembers
    exact .kept s _ hs (hdeclared.2 hmatch) ⟨rfl, rfl⟩ rfl
  | asks existing size stored _ hfind hsize hmembers hdiffer =>
    obtain ⟨s, hs, rfl, hdeclared⟩ := found_isDeclared_iff h hfind hsize hmembers
    exact resolve_materialization
      (a := { d with bindings := [], state := .awaitingConfirmation s.id _ })
      h hspare hs (mt hdeclared.1 hdiffer) ⟨rfl, rfl⟩ rfl confirm _

theorem materialization_agreed (h : db.Sound) (hspare : db.Spare (d.layout.members.length + 1))
    (hstate : d.state = .schemaParsed) {confirm : Confirmer Id} (hagrees : Call.Agrees confirm) :
    ∃ outcome d' after, (Call.materialize confirm).run d db = ((.ok outcome, d'), after) := by
  obtain ⟨outcome, -, hok, -⟩ := Call.run_agreed h hspare hstate hagrees
  rcases hrun : (Call.materialize confirm).run d db with ⟨⟨result, d'⟩, after⟩
  rw [hrun] at hok
  exact ⟨outcome, d', after, by rw [← hok]⟩

/-- A build whose fields are not parsed leaves the database, and any other goes on with the
materialization of what they declare. -/
theorem build_materialization (h : db.Sound) {entry : StructSchema} (hspare : db.Spare entry.ids)
    (confirm : Confirmer Id) :
    (∃ e d, ((ofName entry.name).parse db entry.fields).value = (.error e, d) ∧
      (Id.run (build confirm entry.name entry.fields db)).value = (.error e, db)) ∨
    ∃ d ran, ((ofName entry.name).parse db entry.fields).value = (.ok (), d) ∧
      d.name = entry.name ∧ Materialization confirm d db ran ∧
      (Call.Agrees confirm → ∃ outcome, ran.1.1 = .ok outcome) ∧
      (Id.run (build confirm entry.name entry.fields db)).value =
        (ran.1.1.map (ran.1.2, ·), ran.2) := by
  rw [Call.value_build]
  rcases hparse : ((ofName entry.name).parse db entry.fields).value with ⟨e | _, d⟩
  · exact .inl ⟨e, d, rfl, rfl⟩
  · obtain ⟨hname, hstate, hlength⟩ := parse_ok hparse
    rw [StructSchema.ids, ← hlength] at hspare
    refine .inr ⟨d, _, rfl, hname, materialization h hspare hstate confirm, fun hagrees => ?_, rfl⟩
    obtain ⟨outcome, d', after, hrun⟩ := materialization_agreed h hspare hstate hagrees
    exact ⟨outcome, by rw [hrun]⟩

end Descriptor

end StructSync
