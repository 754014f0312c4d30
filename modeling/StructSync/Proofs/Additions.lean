import Mathlib
import StructSync.CommandLine.Workspace
import StructSync.Proofs.LiveDescriptors
import StructSync.Proofs.SelectionOrder

/-!
# Syncs that only add

Where nobody says yes (`Confirmer.Declines`), because nothing may be replaced or because there is no
terminal to ask at (`Machine.Unattended`), a build that succeeds has found its struct as it is
declared or made it under a name that was free. Main statement (`Setting.sync_adds`): a sync that
succeeds leaves every stored struct as it was, and the new ones are those of the selected names that
were free (`Database.Adds`).
-/

namespace StructSync

/-! ### Databases with more structs -/

/-- The database after has all structs of the one before, under the same ids, and of the names those
that were free. -/
structure Database.Adds (db : Database) (names : List String) (after : Database) : Prop where
  kept : ∀ id s, db.get? id = some s → after.get? id = some s
  added_iff : ∀ name, (∃ id s, after.get? id = some s ∧ s.name = name ∧ db.get? id = none) ↔
    name ∈ names ∧ db.findByName? name = none

namespace Database

variable {db middle after : Database} {names more : List String} {name : String} {id : StructId}
  {s : StoredStruct}

theorem Sound.name_ne_of_free (h : db.Sound) (hfree : db.findByName? name = none)
    (hs : db.get? id = some s) : s.name ≠ name := by
  intro hname
  rw [h.findByName?_of_get? hs hname] at hfree
  cases hfree

namespace Adds

/-- What stays as it is has the structs of no names more, and of no names that are stored. -/
theorem self (hstored : ∀ name ∈ names, ∃ s, db.findByName? name = some s) : db.Adds names db := by
  refine ⟨fun _ _ hs => hs, fun name => ⟨?_, ?_⟩⟩
  · rintro ⟨id, s, hs, -, hnone⟩
    rw [hs] at hnone
    cases hnone
  · rintro ⟨hmem, hfree⟩
    obtain ⟨s, hs⟩ := hstored name hmem
    rw [hs] at hfree
    cases hfree

theorem free_of_free (h : db.Adds names after) (hdb : db.Sound) (hafter : after.Sound)
    (hfree : after.findByName? name = none) : db.findByName? name = none := by
  rw [Option.eq_none_iff_forall_ne_some]
  intro s hs
  obtain ⟨hget, hname⟩ := hdb.findByName?_eq_some.1 hs
  exact hafter.name_ne_of_free hfree (h.kept _ _ hget) hname

theorem trans (h : db.Adds names middle) (h' : middle.Adds more after) (hdb : db.Sound)
    (hmiddle : middle.Sound) : db.Adds (names ++ more) after := by
  refine ⟨fun id s hs => h'.kept id s (h.kept id s hs), fun name => ⟨?_, ?_⟩⟩
  · rintro ⟨id, s, hs, hname, hnone⟩
    cases hmid : middle.get? id with
    | some t =>
      obtain rfl : s = t := Option.some.inj (hs.symm.trans (h'.kept id t hmid))
      obtain ⟨hmem, hfree⟩ := (h.added_iff name).1 ⟨id, s, hmid, hname, hnone⟩
      exact ⟨List.mem_append_left _ hmem, hfree⟩
    | none =>
      obtain ⟨hmem, hfree⟩ := (h'.added_iff name).1 ⟨id, s, hs, hname, hmid⟩
      exact ⟨List.mem_append_right _ hmem, h.free_of_free hdb hmiddle hfree⟩
  · rintro ⟨hmem, hfree⟩
    by_cases hnames : name ∈ names
    · obtain ⟨id, s, hs, hname, hnone⟩ := (h.added_iff name).2 ⟨hnames, hfree⟩
      exact ⟨id, s, h'.kept id s hs, hname, hnone⟩
    · -- the name was still free when its own turn came
      have hfree' : middle.findByName? name = none := by
        rw [Option.eq_none_iff_forall_ne_some]
        intro s hs
        obtain ⟨hget, hname⟩ := hmiddle.findByName?_eq_some.1 hs
        cases hbefore : db.get? s.id with
        | some t =>
          obtain rfl : s = t := Option.some.inj (hget.symm.trans (h.kept _ t hbefore))
          exact hdb.name_ne_of_free hfree hbefore hname
        | none => exact hnames ((h.added_iff name).1 ⟨s.id, s, hget, hname, hbefore⟩).1
      have hmore : name ∈ more := (List.mem_append.1 hmem).resolve_left hnames
      obtain ⟨id, s, hs, hname, hnone⟩ := (h'.added_iff name).2 ⟨hmore, hfree'⟩
      refine ⟨id, s, hs, hname, ?_⟩
      cases hbefore : db.get? id with
      | none => rfl
      | some t =>
        rw [h.kept id t hbefore] at hnone
        cases hnone

end Adds

end Database

/-! ### Builds without consent -/

/-- Nobody says yes, whatever the question and the state. -/
def Confirmer.Declines {τ : Type} (confirm : Confirmer (StateM τ)) : Prop :=
  ∀ prompt t, ((confirm prompt).run t).1.value ≠ .yes

/-- The machine asks at a terminal only, and has none. -/
def Machine.Unattended (τ : Type) [Machine (StateM τ)] : Prop :=
  ∃ (isTerminal : StateM τ Bool) (attended : Confirmer (StateM τ)),
    (∀ t, (isTerminal.run t).1 = false) ∧
      (Machine.ask : Confirmer (StateM τ)) = Confirmer.atTerminal isTerminal attended

theorem Machine.Unattended.declines {τ : Type} [Machine (StateM τ)] (h : Machine.Unattended τ) :
    (Machine.ask : Confirmer (StateM τ)).Declines := by
  obtain ⟨isTerminal, attended, hnone, hask⟩ := h
  intro prompt t
  have hrun : (Machine.ask prompt : StateM τ _).run t =
      (if (isTerminal.run t).1 then attended prompt else Confirmer.unattended prompt).run
        (isTerminal.run t).2 := by
    rw [hask]
    rfl
  rw [hrun, hnone]
  exact nofun

theorem Workspace.unattended : Machine.Unattended Workspace :=
  ⟨pure false, Confirmer.unattended, fun _ => rfl, rfl⟩

/-- A shelf in a place without a terminal. -/
structure Depot extends Shelf

namespace Depot

/-- Works at the shelf. -/
def atShelf {α : Type} (x : StateM Shelf α) : StateM Depot α := fun depot =>
  let (a, shelf) := x.run depot.toShelf
  (a, ⟨shelf⟩)

/-- A machine that has its files on the shelf, and whose questions reach nobody. -/
instance : Machine (StateM Depot) where
  readFile path := atShelf (Machine.readFile path)
  writeFile path text := atShelf (Machine.writeFile path text)
  appendFile path text := atShelf (Machine.appendFile path text)
  fileExists path := atShelf (Machine.fileExists path)
  environment? _ := pure none
  outputIsTerminal := pure false
  print _ := pure ()
  printError _ := pure ()
  ask := Confirmer.atTerminal (pure false) fun prompt => atShelf (Machine.ask prompt)
  timestamp := pure ""
  elapsed := pure ""

def files : Machine.Files Depot where
  content depot := Shelf.files.content depot.toShelf
  Apart := Shelf.files.Apart
  readFile h := Shelf.files.readFile h
  fileExists := Shelf.files.fileExists
  writeFile h := Shelf.files.writeFile h
  writeFile_leaves h depot := Shelf.files.writeFile_leaves h depot.toShelf
  appendFile_leaves h depot := Shelf.files.appendFile_leaves h depot.toShelf
  readFile_leaves _ := rfl
  fileExists_leaves _ := rfl
  print_leaves _ := rfl
  printError_leaves _ := rfl
  ask_leaves _ := rfl
  timestamp_leaves _ := rfl

theorem unattended : Machine.Unattended Depot := ⟨pure false, _, fun _ => rfl, rfl⟩

theorem still : Machine.Still (id : Depot → Depot) :=
  ⟨fun _ _ => rfl, fun _ _ => rfl, fun _ _ => rfl, fun _ _ => rfl, fun _ _ => rfl, fun _ => rfl⟩

end Depot

namespace Descriptor

variable {db after : Database} {d : Descriptor} {s : StoredStruct} {name : String}

/-- A struct that is made under a name that was free is the only one that is new. -/
theorem Made.adds (h : d.Made db s after) (hdb : db.Sound) (hfree : db.findByName? d.name = none) :
    db.Adds [d.name] after := by
  have hothers := (h.touched.sameButFor hdb).others
  have hkept : ∀ id t, db.get? id = some t → after.get? id = some t := fun id t ht =>
    (hothers id t (hdb.name_ne_of_free hfree ht)).2 ht
  refine ⟨hkept, fun name => ⟨?_, ?_⟩⟩
  · rintro ⟨id, t, ht, rfl, hnone⟩
    by_cases hname : t.name = d.name
    · exact ⟨List.mem_singleton.2 hname, hname ▸ hfree⟩
    · rw [(hothers id t hname).1 ht] at hnone
      cases hnone
  · rintro ⟨hmem, -⟩
    obtain rfl := List.mem_singleton.1 hmem
    obtain ⟨hget, hname⟩ := h.touched.sound.findByName?_eq_some.1 h.stored
    refine ⟨s.id, s, hget, hname, ?_⟩
    rw [h.next]
    exact hdb.get?_next

theorem build_adds (hdb : db.Sound) {entry : StructSchema} {n : Nat}
    (hspare : db.Spare (entry.ids + n)) {confirm : Confirmer Id}
    (hdeclines : ∀ prompt, (Id.run (confirm prompt)).value ≠ .yes) {built : Descriptor × Outcome}
    (hbuild : (Id.run (build confirm entry.name entry.fields db)).value = (.ok built, after)) :
    after.Sound ∧ after.Spare n ∧ db.Adds [entry.name] after := by
  have hown : db.Spare entry.ids := hspare.mono (Nat.le_add_right _ _)
  rcases build_materialization hdb hown confirm with
    ⟨e, d, -, hfailed⟩ | ⟨d, ran, hparse, hname, hran, -, hvalue⟩
  · cases hbuild.symm.trans hfailed
  · rw [hbuild] at hvalue
    cases hran with
    | kept s d' hs =>
      obtain rfl : after = db := congrArg Prod.snd hvalue
      rw [hname] at hs
      exact ⟨hdb, hspare.mono (Nat.le_add_left _ _), .self (List.forall_mem_singleton.2 ⟨s, hs⟩)⟩
    | made outcome s d' after' hother hconsent hmade =>
      obtain rfl : after = after' := congrArg Prod.snd hvalue
      have hfree := hconsent.resolve_right fun ⟨prompt, hyes⟩ => hdeclines prompt hyes
      have hlength := (parse_ok hparse).2.2
      refine ⟨hmade.touched.sound, ?_, hname ▸ hmade.adds hdb hfree⟩
      have htouched := hmade.touched
      rw [hlength] at htouched
      exact htouched.spare hspare
    | stopped e d' => cases hvalue

end Descriptor

/-- Steps without a yes leave every struct, and make those whose names are free. -/
theorem Stepwise.adds {τ : Type} {confirm : Confirmer (StateM τ)}
    {tell : StructSchema → Logged (Except SyncError (Descriptor × Outcome)) → StateM τ Unit}
    {structs : List StructSchema} {first last : Database × τ}
    (h : Stepwise confirm tell structs first last) (hdeclines : confirm.Declines)
    (hdb : first.1.Sound) (hspare : first.1.Spare (idsOf structs)) :
    last.1.Sound ∧ first.1.Adds (structs.map (·.name)) last.1 := by
  induction h with
  | nil first => exact ⟨hdb, .self nofun⟩
  | @cons entry rest db middle t t₁ built log last hbuild hrest ih =>
    rw [idsOf_cons] at hspare
    have hvalue := Descriptor.Call.value_build_state confirm entry.name entry.fields db t
    rw [hbuild] at hvalue
    obtain ⟨hmiddle, hspare', hadds⟩ :=
      Descriptor.build_adds hdb hspare (fun prompt => hdeclines prompt t) hvalue.symm
    obtain ⟨hlast, hrestAdds⟩ := ih hmiddle hspare'
    exact ⟨hlast, hadds.trans hrestAdds hdb hmiddle⟩

namespace Setting

open Machine (Files)

variable {τ : Type} [Machine (StateM τ)] {files : Files τ} {database path text : String}
  {schema : Schema} {selected : List StructSchema} {db : Database} {s : Setting}
  {options : SyncOptions} {t : τ}

theorem declines_of_policy
    (hpolicy : overwritePolicy options s.config = .never ∨
      overwritePolicy options s.config = .ask ∧ Machine.Unattended τ) :
    ((s.syncing options).confirmer : Confirmer (StateM τ)).Declines := by
  have hsame : (s.syncing options).config.overwrite = overwritePolicy options s.config := rfl
  unfold confirmer
  rw [hsame]
  rcases hpolicy with hnever | ⟨hask, hnobody⟩
  · rw [hnever]
    exact fun _ _ => nofun
  · rw [hask]
    exact hnobody.declines

theorem sync_saves (hlog : s.Unlogged files [database])
    (htargets : s.Targets options.database options.schema database path)
    (htext : files.content t path = some (.ok text)) (hschema : Schema.load text = .ok schema)
    (hloads : (s.withOptions options.database).Loads files t db)
    (hsync : (play (s.sync options) t).1 = .ok ()) :
    ∃ (selected : List StructSchema) (first : τ) (last : Database × τ),
      schema.select options.only = .ok selected ∧
      Stepwise (s.syncing options).confirmer (s.syncing options).tellOutcome selected
        (db, first) last ∧
      Saves files database (play (s.sync options) t) last.1.clearJournal := by
  have hdatabase : (s.syncing options).config.database = database := htargets.database
  cases hselect : schema.select options.only with
  | error name =>
    have hfails : (play (s.sync options) t).1 ≠ .ok () :=
      sync_unselected files htargets.schema htext hschema (by simp [hselect])
    exact absurd hsync hfails
  | ok selected =>
    obtain ⟨t₁, -, hplay⟩ := sync_selected_leadsTo hlog htargets
      (fault?_of_select hschema (select_eq_ok.2 hselect)) (select_eq_ok.2 hselect)
      (List.mem_singleton_self _) htext hschema hloads
    rw [hplay] at hsync ⊢
    rcases hfinish : play ((s.syncing options).finishSync selected db) t₁ with ⟨result, t₂⟩
    rw [hfinish] at hsync
    obtain rfl : result = .ok () := hsync
    obtain ⟨after, t₃, hall, hthere, -⟩ :=
      finishSync_leaves (s := s.syncing options) hlog (by simp [hdatabase]) hfinish
    have hsteps := syncAll_ok_iff.1 hall
    have hranged : after.Ranged := (hsteps.obtained (obtained_of_loads hloads)).ranged
    rw [hdatabase] at hthere
    exact ⟨selected, t₁, (after, t₃), rfl, hsteps, rfl, _, hthere, hranged.load_text .pretty⟩

/-- Where nothing may be replaced, or somebody would have to be asked and there is no terminal, a
sync that succeeds leaves every stored struct under its id, and the new structs are those of the
selected names that were free. -/
theorem sync_adds (hlog : s.Unlogged files [database])
    (htargets : s.Targets options.database options.schema database path)
    (hpolicy : overwritePolicy options s.config = .never ∨
      overwritePolicy options s.config = .ask ∧ Machine.Unattended τ)
    (htext : files.content t path = some (.ok text)) (hschema : Schema.load text = .ok schema)
    (hdb : db.Reachable) (hstored : files.content t database = some (.ok (db.json.text .pretty)))
    (hspare : ∀ selected, schema.select options.only = .ok selected → db.Spare (idsOf selected))
    (hsync : (play (s.sync options) t).1 = .ok ()) :
    ∃ selected after, schema.select options.only = .ok selected ∧
      Saves files database (play (s.sync options) t) after ∧ after.Sound ∧
      db.Adds (selected.map (·.name)) after := by
  have hloads : (s.withOptions options.database).Loads files t db.clearJournal := by
    refine .inr ⟨_, ?_, hdb.sound.load_text .pretty⟩
    rw [htargets.database]
    exact hstored
  obtain ⟨selected, first, last, hselect, hsteps, hsaves⟩ :=
    sync_saves hlog htargets htext hschema hloads hsync
  obtain ⟨hlast, hadds⟩ := hsteps.adds (declines_of_policy hpolicy) hdb.sound.clearJournal
    (hspare selected hselect)
  exact ⟨selected, _, hselect, hsaves, hlast.clearJournal, ⟨hadds.kept, hadds.added_iff⟩⟩

/-- A database with a struct that no schema declares. -/
def captioned : Database := (Request.createStruct "caption").perform (.empty 8)

/-- A depot with this database and the schema of the sketching. -/
def album : Depot :=
  ⟨⟨[("types.json", captioned.json.text .pretty), ("schema.json", sketching.json.text .compact)]⟩⟩

/-- Points and lines are new, and the caption stays. Nobody could have been asked. -/
theorem sync_adds_album :
    let asking : SyncOptions := ⟨some "schema.json", ⟨none, none⟩, ["point", "line"], false, false⟩
    overwritePolicy asking quiet.config = .ask ∧
      ∃ after, Saves Depot.files "types.json" (play (quiet.sync asking) album) after ∧
        captioned.Adds ["point", "line"] after := by
  intro asking
  have hlog : quiet.Unlogged Depot.files ["types.json"] := fun _ _ _ => nofun
  have hunseen : quiet.logger.Unseen (id : Depot → Depot) := nofun
  have htargets : quiet.Targets asking.database asking.schema "types.json" "schema.json" :=
    ⟨by decide, rfl, rfl⟩
  have hschema : Depot.files.content album "schema.json" =
      some (.ok (sketching.json.text .compact)) := by
    simp [album, Depot.files, Shelf.files, Shelf.text?, List.lookup_cons]
  have hstored : Depot.files.content album "types.json" =
      some (.ok (captioned.json.text .pretty)) := by
    simp [album, Depot.files, Shelf.files, Shelf.text?]
  have hspare : ∀ selected, sketching.select asking.only = .ok selected →
      captioned.Spare (idsOf selected) := by
    rintro _ ⟨⟩
    unfold Database.Spare
    decide +kernel
  have hdb : captioned.Reachable := .perform _ (.empty 8) (by unfold Database.Spare; decide +kernel)
  have hloads : (quiet.withOptions asking.database).Loads Depot.files album
      captioned.clearJournal :=
    .inr ⟨_, hstored, hdb.sound.load_text .pretty⟩
  have hsync : (play (quiet.sync asking) album).1 = .ok () := by
    obtain ⟨_, rfl, hplay⟩ := sync_selected_unseen Depot.still hunseen hlog htargets rfl
      (show select sketching asking.only = .ok _ from rfl) hschema sketching_load hloads
    rw [hplay]
    decide +kernel
  obtain ⟨selected, after, hselect, hsaves, -, hadds⟩ :=
    sync_adds hlog htargets (.inr ⟨rfl, Depot.unattended⟩) hschema sketching_load hdb hstored
      hspare hsync
  obtain rfl := Except.ok.inj hselect
  exact ⟨rfl, after, hsaves, hadds⟩

end Setting

end StructSync
