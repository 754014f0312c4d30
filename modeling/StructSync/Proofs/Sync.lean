import Mathlib
import StructSync.Proofs.Declared
import StructSync.Proofs.Observed
import StructSync.Proofs.Parse
import StructSync.Proofs.Resolve
import StructSync.Proofs.Schema

/-!
# Bringing a database in step with a schema

`Schema.Ordered`: a struct stands inside another only if it is declared before that one, or not at
all. Main statement (`Database.syncAll_synced`): if the structs of an ordered schema are brought in
step then all of them are stored as they are declared against the database at the end, although each
was laid out against the database of its turn (`Database.Holds`).
-/

namespace StructSync

open Work

/-! ### Schemas -/

/-- The structs that stand inside fields of the struct. -/
def StructSchema.embedded (entry : StructSchema) : List String :=
  entry.fields.filterMap fun field =>
    field.type.bind fun text => (Declaration.ofText? text).bind Declaration.embedded?

theorem StructSchema.mem_embedded {entry : StructSchema} {field : Field} {text name : String}
    (hfield : field ∈ entry.fields) (htext : field.type = some text)
    (hname : (Declaration.ofText? text).bind Declaration.embedded? = some name) :
    name ∈ entry.embedded := by
  refine List.mem_filterMap.2 ⟨field, hfield, ?_⟩
  simp only [htext, Option.bind_some]
  exact hname

/-- The ids that a struct and its members take. -/
def StructSchema.ids (entry : StructSchema) : Nat := entry.fields.length + 1

/-- The structs that stand inside a struct are declared before it, or not at all. -/
def Schema.Ordered (structs : List StructSchema) : Prop :=
  ∀ before entry after, structs = before ++ entry :: after → ∀ name ∈ entry.embedded,
    name ∈ before.map (·.name) ∨ name ∉ structs.map (·.name)

namespace Schema

variable {structs : List StructSchema}

theorem Ordered.notAhead (h : Ordered structs) (hnames : (structs.map (·.name)).Nodup)
    {before after : List StructSchema} {entry : StructSchema}
    (hstructs : structs = before ++ entry :: after) :
    ∀ name ∈ entry.embedded, name ∉ (entry :: after).map (·.name) := by
  intro name hname hahead
  rcases h before entry after hstructs name hname with hbefore | hout
  · rw [hstructs, List.map_append] at hnames
    exact (List.nodup_append.1 hnames).2.2 name hbefore name hahead rfl
  · rw [hstructs, List.map_append] at hout
    exact hout (List.mem_append_right _ hahead)

end Schema

/-! ### One struct -/

namespace Descriptor.Call

variable {db after : Database} {d d' : Descriptor} {outcome : Outcome}

theorem resolve_touched (h : db.Sound) (hspare : db.Spare (d.layout.members.length + 1))
    {existing : StructId} {report : Report} {decision : Decision}
    (hstate : d.state = .awaitingConfirmation existing report)
    (hfind : Host.findStruct? db d.name = some existing)
    (hrun : value (d.resolve decision) db = ((.ok outcome, d'), after)) :
    (∃ id, d'.state = .materialized id) ∧
      db.Touched d.name (d.layout.members.length + 1) after := by
  have hres := resolution decision d db
  generalize value (d.resolve decision) db = r at hres hrun
  cases hres with
  | notAsked hstate' => cases hrun
  | stopped e existing' report' hstate' hdecision => cases hrun
  | kept e existing' report' after₁ hstate' hdecision hdelete => cases hrun
  | replaces existing' report' freed result d₁ after₁ hstate' hdecision hdelete hcreate =>
    obtain ⟨rfl, rfl⟩ := State.awaitingConfirmation.inj (hstate.symm.trans hstate')
    obtain ⟨s, hs, hname⟩ := (findStruct_eq_some h).1 hfind
    have hfreed := Database.Touched.deleteStruct h hs (Database.host_deleteStruct_eq_ok.1 hdelete)
    rw [hname] at hfreed
    have hspare' : freed.Spare (d.layout.members.length + 1) :=
      hfreed.spare (by rw [Nat.zero_add]; exact hspare)
    cases result with
    | error e => cases hrun
    | ok id =>
      obtain ⟨hmaterialized, htouched, -⟩ :=
        create_settled (d := { d with state := .schemaParsed }) hfreed.sound hspare' hcreate
      cases hrun
      have hall := hfreed.trans htouched
      rw [Nat.zero_add] at hall
      exact ⟨⟨id, hmaterialized⟩, hall⟩

/-- A materialization that succeeds leaves the descriptor materialized, and touches the name of its
struct only. -/
theorem materialize_touched (h : db.Sound) (hspare : db.Spare (d.layout.members.length + 1))
    {confirm : Confirmer Id}
    (hrun : run (materialize confirm) d db = ((.ok outcome, d'), after)) :
    (∃ id, d'.state = .materialized id) ∧
      db.Touched d.name (d.layout.members.length + 1) after := by
  rw [run_materialize] at hrun
  have hr := reconciliation d db
  generalize value d.reconcile db = r at hr hrun
  cases hr with
  | outOfTurn e hstate => cases hrun
  | creates result d₁ after₁ hstate hfind hcreate =>
    cases result with
    | error e => cases hrun
    | ok id =>
      obtain ⟨hmaterialized, htouched, -⟩ := create_settled h hspare hcreate
      cases hrun
      exact ⟨⟨id, hmaterialized⟩, htouched⟩
  | unreadable e existing hstate hfind hread => cases hrun
  | accepts existing size stored hstate hfind hsize hmembers hmatch =>
    cases hrun
    exact ⟨⟨existing, rfl⟩, .refl h _ _⟩
  | asks existing size stored hstate hfind hsize hmembers hdiffer =>
    exact resolve_touched
      (d := { d with bindings := [], state := .awaitingConfirmation existing _ })
      h hspare rfl hfind hrun

end Descriptor.Call

/-- The struct is stored under its name as its fields declare it against the database. -/
def Database.HoldsOne (db : Database) (entry : StructSchema) : Prop :=
  ∃ d s, ((Descriptor.ofName entry.name).parse db entry.fields).value = (.ok (), d) ∧
    db.findByName? entry.name = some s ∧ s.IsDeclared d

namespace Descriptor

variable {db after : Database} {entry : StructSchema} {d : Descriptor} {outcome : Outcome}

/-- What is built is stored as it was declared against the database before, and no other name is
touched. -/
theorem build_touched (h : db.Sound) (hspare : db.Spare entry.ids) {confirm : Confirmer Id}
    (hbuild : (Id.run (build confirm entry.name entry.fields db)).value =
      (.ok (d, outcome), after)) :
    db.Touched entry.name entry.ids after ∧
      ∃ parsed s, ((ofName entry.name).parse db entry.fields).value = (.ok (), parsed) ∧
        after.findByName? entry.name = some s ∧ s.IsDeclared parsed := by
  rw [Call.value_build] at hbuild
  rcases hparse : ((ofName entry.name).parse db entry.fields).value with ⟨e | _, parsed⟩
  · simp [hparse] at hbuild
  · obtain ⟨hname, hstate, hlength⟩ := parse_ok hparse
    rw [StructSchema.ids, ← hlength] at hspare ⊢
    rcases hrun : Call.run (.materialize confirm) parsed db with ⟨⟨e | outcome', d'⟩, after'⟩
    · simp [hparse, hrun, Except.map] at hbuild
    · obtain rfl : after' = after := by simpa [hparse, hrun] using congrArg Prod.snd hbuild
      obtain ⟨⟨id, hid⟩, htouched⟩ := Call.materialize_touched h hspare hrun
      have hid' : (Call.run (.materialize confirm) parsed db).1.2.state = .materialized id := by
        rw [hrun]
        exact hid
      obtain ⟨found, -, hsettled⟩ :=
        Call.run_settled h hspare (.materialize confirm) (by simp [hstate]) hid'
      rw [hrun] at hsettled
      obtain ⟨s, hs, hdeclared, -⟩ := hsettled.stored
      refine ⟨hname ▸ htouched, parsed, s, rfl, ?_, hdeclared⟩
      have hid : s.id = id := hsettled.sound.get?_id hs
      exact hsettled.sound.findByName?_eq_some.2 ⟨hid.symm ▸ hs, hdeclared.name.trans hname⟩

end Descriptor

/-! ### The whole schema -/

theorem run_syncAll_cons {σ τ : Type} [Host σ] (confirm : Confirmer (StateM τ))
    (tell : StructSchema → Logged (Except SyncError (Descriptor × Outcome)) → StateM τ Unit)
    (entry : StructSchema) (rest : List StructSchema) (host : σ) (t : τ) :
    (syncAll confirm tell (entry :: rest) host).run t =
      let (built, t) := (Descriptor.build confirm entry.name entry.fields host).run t
      let (_, t) := (tell entry ⟨built.value.1, built.log⟩).run t
      match built.value with
      | (.error e, host) => ((.error e, host), t)
      | (.ok _, host) => (syncAll confirm tell rest host).run t := by
  rw [syncAll, StateT.run_bind]
  rcases (Descriptor.build confirm entry.name entry.fields host).run t with
    ⟨⟨⟨result, host⟩, log⟩, t₁⟩
  cases result <;> rfl

namespace Database

variable {db after : Database} {structs : List StructSchema}

/-- Every struct is stored under its name as its fields declare it against the database. -/
def Holds (db : Database) (structs : List StructSchema) : Prop :=
  ∀ entry ∈ structs, db.HoldsOne entry

/-- The database after differs from the one before under the names of the structs only, and has all
of them as they are declared. -/
structure Synced (db : Database) (structs : List StructSchema) (after : Database) : Prop where
  sound : after.Sound
  pointerSize : after.pointerSize = db.pointerSize
  others : ∀ {name}, name ∉ structs.map (·.name) → after.findByName? name = db.findByName? name
  holds : after.Holds structs

theorem parseType_eq_ok {text : String} {type : CType} :
    Host.parseType db text = .ok type ↔ parseDeclaration db.scope text = .ok type := by
  show db.parseType text = .ok type ↔ _
  unfold parseType
  generalize parseDeclaration db.scope text = result
  cases result <;> simp [Except.mapError]

/-- A text declares the same type in a database that knows no fewer names and has the embedded
structs as they were. -/
theorem field_agrees {entry : StructSchema} (hscope : db.scope.Within after.scope)
    (hembedded : ∀ name ∈ entry.embedded, after.findByName? name = db.findByName? name) :
    ∀ field ∈ entry.fields, field.Agrees db after := by
  intro field hfield text type htext hparse
  refine parseType_eq_ok.2 (parseDeclaration_agrees hscope (fun name hname => ?_)
    (parseType_eq_ok.1 hparse))
  show (after.findByName? name).map (·.size) = (db.findByName? name).map (·.size)
  rw [hembedded name (StructSchema.mem_embedded hfield htext hname)]

/-- One struct is brought in step before the rest, which it does not embed and which leave it
alone. -/
theorem Synced.cons {middle : Database} {entry : StructSchema} {rest : List StructSchema}
    (htouched : db.Touched entry.name entry.ids middle) {d : Descriptor}
    (hparse : ((Descriptor.ofName entry.name).parse db entry.fields).value = (.ok (), d))
    {s : StoredStruct} (hs : middle.findByName? entry.name = some s) (hd : s.IsDeclared d)
    (hfresh : entry.name ∉ rest.map (·.name))
    (hahead : ∀ name ∈ entry.embedded, name ∉ (entry :: rest).map (·.name))
    (hrest : middle.Synced rest after) : db.Synced (entry :: rest) after := by
  have hothers : ∀ {name}, name ∉ (entry :: rest).map (·.name) →
      after.findByName? name = db.findByName? name := by
    intro name hname
    obtain ⟨hne, hname⟩ : name ≠ entry.name ∧ name ∉ rest.map (·.name) := by simpa using hname
    exact (hrest.others hname).trans (htouched.others hne)
  have hentry : after.findByName? entry.name = some s := (hrest.others hfresh).trans hs
  have hpointer := hrest.pointerSize.trans htouched.pointerSize
  refine ⟨hrest.sound, hpointer, hothers, ?_⟩
  have hscope : db.scope.Within after.scope := by
    refine ⟨hpointer, fun {name} hknown => ?_⟩
    by_cases hname : name ∈ (entry :: rest).map (·.name)
    · rcases List.mem_cons.1 hname with rfl | hname
      · simp [scope, hentry]
      · obtain ⟨other, hother, rfl⟩ := List.mem_map.1 hname
        obtain ⟨-, t, -, ht, -⟩ := hrest.holds other hother
        simp [scope, ht]
    · have hsame := hothers hname
      simpa [scope, hsame] using hknown
  have hagrees := field_agrees hscope fun name hname => hothers (hahead name hname)
  intro other hother
  rcases List.mem_cons.1 hother with rfl | hother
  · exact ⟨d, s, Descriptor.parse_agrees hagrees hparse, hentry, hd⟩
  · exact hrest.holds other hother

variable {τ : Type}

/-- If the structs of an ordered schema are brought in step, the database has all of them as they
are declared against it, and no other name is touched. -/
theorem syncAll_synced {confirm : Confirmer (StateM τ)}
    {tell : StructSchema → Logged (Except SyncError (Descriptor × Outcome)) → StateM τ Unit}
    (h : db.Sound) (hspare : db.Spare (structs.map StructSchema.ids).sum)
    (hnames : (structs.map (·.name)).Nodup)
    (hahead : ∀ before entry rest, structs = before ++ entry :: rest →
      ∀ name ∈ entry.embedded, name ∉ (entry :: rest).map (·.name)) {t t' : τ}
    (hsync : (syncAll confirm tell structs db).run t = ((.ok (), after), t')) :
    db.Synced structs after := by
  induction structs generalizing db t with
  | nil =>
    cases hsync
    exact ⟨h, rfl, fun _ => rfl, nofun⟩
  | cons entry rest ih =>
    obtain ⟨hfresh, hnames⟩ := List.nodup_cons.1 hnames
    rw [List.map_cons, List.sum_cons] at hspare
    have hbuild := Descriptor.Call.value_build_state confirm entry.name entry.fields db t
    rw [run_syncAll_cons] at hsync
    rcases hrun : (Descriptor.build confirm entry.name entry.fields db).run t with
      ⟨⟨⟨result, middle⟩, log⟩, t₁⟩
    rw [hrun] at hsync hbuild
    cases result with
    | error e => cases hsync
    | ok built =>
      obtain ⟨htouched, d, s, hparse, hs, hd⟩ :=
        Descriptor.build_touched h (hspare.mono (Nat.le_add_right _ _)) hbuild.symm
      refine .cons htouched hparse hs hd hfresh (hahead [] entry rest rfl) ?_
      refine ih htouched.sound (htouched.spare hspare) hnames
        (fun before other after hrest => ?_) hsync
      exact hahead (entry :: before) other after (by rw [hrest, List.cons_append])

end Database

end StructSync
