import Mathlib
import StructSync.Proofs.Commands
import StructSync.Proofs.Database.Saved

/-!
# Syncing twice

A sync that succeeds leaves a database file with which nothing is left to do (`Schema.Settles`).
Main statement (`Setting.sync_settles`): with the files as the sync left them a check succeeds and
finds no difference, and another sync accepts every struct without a request and writes the same
text again.
-/

namespace StructSync

namespace Schema

variable {schema : Schema} {text : String}

/-- Nothing is left to do for the structs in the database of this text: a check finds no difference
in any of them, and to bring them in step once more is to tell that they are accepted, whoever would
have answered, without a request to the database, which gives the same text when it is saved. -/
structure Settles (structs : List StructSchema) (text : String) (db : Database) : Prop where
  load : Database.load text = .ok db
  text_eq : db.json.text .pretty = text
  checked : (checkAll db structs).value = (structs.map Finding.agreeing, .ok ())
  undrifted : (checkAll db structs).value.1.countP Finding.isDrift = 0
  accepted : AcceptsAll db structs
  unasked : AcceptsAll (Observed.start db) structs

/-- What a sync of an ordered schema makes of a sound database has nothing left to do. -/
theorem settles_of_syncAll {τ : Type} {confirm : Confirmer (StateM τ)}
    {tell : StructSchema → Logged (Except SyncError (Descriptor × Outcome)) → StateM τ Unit}
    {structs : List StructSchema} {db after : Database} {t t' : τ} (h : db.Sound)
    (hspare : db.Spare (structs.map StructSchema.ids).sum)
    (hnames : nameFault? [] structs = none) (hordered : Ordered structs)
    (hsync : (syncAll confirm tell structs db).run t = ((.ok (), after), t')) :
    Settles structs (after.json.text .pretty) after.clearJournal := by
  obtain ⟨hnodup, -⟩ := nameFault?_eq_none hnames
  have hsynced := Database.syncAll_synced h hspare hnodup
    (fun before entry rest hstructs => hordered.notAhead hnodup hstructs) hsync
  have hinStep : ∀ entry ∈ structs, entry.InStep after.clearJournal := fun entry hentry =>
    (hsynced.holds entry hentry).clearJournal.inStep hsynced.sound.clearJournal
  have hchecked := checkAll_inStep hinStep
  exact {
    load := hsynced.sound.load_text .pretty
    text_eq := rfl
    checked := hchecked
    undrifted := by rw [hchecked, countP_isDrift_agreeing]
    accepted := acceptsAll_inStep hinStep
    unasked := acceptsAll_inStep fun entry hentry => (hinStep entry hentry).observed }

end Schema

namespace Setting

open Machine (Files)

variable {τ : Type} [Machine (StateM τ)] {database path text : String} {schema : Schema}
  {db : Database} {s : Setting} {options : SyncOptions} {t t' : τ}

theorem sync_settled {files : Files τ} (hlog : s.Unlogged files [database, path])
    (htargets : s.Targets options.database options.schema database path)
    (hwhole : options.only = []) (htext : files.content t path = some (.ok text))
    (hschema : Schema.load text = .ok schema) {saved : String}
    (hstored : files.content t database = some (.ok saved))
    (hsettles : Schema.Settles schema.structs saved db) :
    (∃ t', play (s.sync options) t = (.ok (), t') ∧
      files.content t' database = some (.ok saved)) ∨
    ∃ fault t', play (s.sync options) t =
      (.error (("saving database " ++ database) :: (HostError.file fault).chain), t') := by
  have hlog' : (s.syncing options).Unlogged files [database, path] := hlog
  have hdatabase : (s.syncing options).config.database = database := htargets.database
  obtain ⟨t₁, -, hplay⟩ := sync_leadsTo hlog htargets hwhole (by simp) htext hschema
    (.inr ⟨saved, hstored, hsettles.load⟩)
  obtain ⟨t₂, -, hplay'⟩ := finishSync_accepted (t := t₁) hlog' hsettles.accepted
  rw [hplay, hplay']
  have hsave := saveDatabase_cases (t := t₂) hlog' db (by simp [hdatabase])
  rw [hdatabase, hsettles.text_eq] at hsave
  rcases hsave with ⟨t₃, hsaved, hthere, -⟩ | hfailed
  · exact .inl ⟨t₃, hsaved, hthere⟩
  · exact .inr hfailed

/-- A sync of a whole schema that succeeds leaves the text of a database with which nothing is left
to do. As long as the two files stay as they are then, a check of the whole schema succeeds, and
another sync of it, whatever its policy, writes the same text again, unless writing fails. -/
theorem sync_settles (files : Files τ) (hapart : files.Apart database path)
    (htargets : s.Targets options.database options.schema database path)
    (hlog : s.Unlogged files [database, path]) (hwhole : options.only = [])
    (htext : files.content t path = some (.ok text)) (hschema : Schema.load text = .ok schema)
    (hordered : Schema.Ordered schema.structs) (hdb : db.Reachable)
    (hspare : db.Spare (schema.structs.map StructSchema.ids).sum)
    (hstored : files.content t database = some (.ok (db.json.text .pretty)) ∨
      files.content t database = none ∧
        db = .empty (s.withOptions options.database).config.pointerSize)
    (hsync : play (s.sync options) t = (.ok (), t')) :
    ∃ saved after, files.content t' database = some (.ok saved) ∧
      files.content t' path = some (.ok text) ∧ Schema.Settles schema.structs saved after ∧
      (∀ (s₂ : Setting) (options₂ : CheckOptions) (t₂ : τ),
        s₂.Targets options₂.database options₂.schema database path →
        s₂.Unlogged files [database, path] → options₂.only = [] →
        files.Same [database, path] t' t₂ → (play (s₂.check options₂) t₂).1 = .ok ()) ∧
      ∀ (s₂ : Setting) (options₂ : SyncOptions) (t₂ : τ),
        s₂.Targets options₂.database options₂.schema database path →
        s₂.Unlogged files [database, path] → options₂.only = [] →
        files.Same [database, path] t' t₂ →
        (∃ t₃, play (s₂.sync options₂) t₂ = (.ok (), t₃) ∧
          files.content t₃ database = some (.ok saved)) ∨
        ∃ fault t₃, play (s₂.sync options₂) t₂ =
          (.error (("saving database " ++ database) :: (HostError.file fault).chain), t₃) := by
  have hlog' : (s.syncing options).Unlogged files [database, path] := hlog
  have hdatabase : (s.syncing options).config.database = database := htargets.database
  -- what is stored is loaded as it was saved, but for the journal
  obtain ⟨db₀, hsound, hspare₀, hloads⟩ : ∃ db₀ : Database, db₀.Sound ∧
      db₀.Spare (schema.structs.map StructSchema.ids).sum ∧
      (files.content t database = none ∧
          db₀ = .empty (s.withOptions options.database).config.pointerSize ∨
        ∃ stored, files.content t database = some (.ok stored) ∧
          Database.load stored = .ok db₀) := by
    rcases hstored with hstored | ⟨hnone, hempty⟩
    · exact ⟨db.clearJournal, hdb.sound.clearJournal, hspare,
        .inr ⟨_, hstored, hdb.sound.load_text .pretty⟩⟩
    · exact ⟨db, hdb.sound, hspare, .inl ⟨hnone, hempty⟩⟩
  obtain ⟨t₁, hsame, hplay⟩ := sync_leadsTo hlog htargets hwhole (by simp) htext hschema hloads
  rw [hsync] at hplay
  obtain ⟨after, t₂, hall, hsaved, hothers⟩ :=
    finishSync_leaves hlog' (by simp [hdatabase]) hplay.symm
  rw [hdatabase] at hsaved hothers
  have htext' : files.content t' path = some (.ok text) :=
    (hothers path (by simp) hapart).trans ((hsame path (by simp)).trans htext)
  have hsettles := Schema.settles_of_syncAll hsound hspare₀ (Schema.nameFault?_of_load hschema)
    hordered hall
  refine ⟨after.json.text .pretty, after.clearJournal, hsaved, htext', hsettles, ?_, ?_⟩
  · intro s₂ options₂ t₂ htargets₂ hlog₂ hwhole₂ hsame₂
    obtain ⟨t₃, hcheck, -⟩ := check_gives hlog₂ htargets₂ hwhole₂ (by simp)
      ((hsame₂ path (by simp)).trans htext') hschema
      ((hsame₂ database (by simp)).trans hsaved) hsettles.load hsettles.checked
    rw [hcheck]
  · intro s₂ options₂ t₂ htargets₂ hlog₂ hwhole₂ hsame₂
    exact sync_settled hlog₂ htargets₂ hwhole₂ ((hsame₂ path (by simp)).trans htext') hschema
      ((hsame₂ database (by simp)).trans hsaved) hsettles

/-- Points, and lines between two of them. -/
def drawing : Schema :=
  ⟨[⟨"point", [.named "x" "int"]⟩, ⟨"line", [.named "ends" "point[2]"]⟩]⟩

theorem drawing_ordered : Schema.Ordered drawing.structs := by
  intro before entry after hstructs
  rcases before with _ | ⟨first, _ | ⟨second, before⟩⟩
  · cases hstructs
    decide +kernel
  · cases hstructs
    decide +kernel
  · have hlength := congrArg List.length hstructs
    simp [drawing] at hlength

theorem drawing_load : Schema.load (drawing.json.text .compact) = .ok drawing := by
  have hnamed : drawing.WellNamed := Schema.wellNamed_iff.2 (by decide)
  exact hnamed.load_text .compact

/-- A database with a struct of one of the names, which has no members yet. -/
def sketch : Database := (Request.createStruct "point").perform (.empty 8)

/-- A shelf with the sketch and the schema of a drawing. -/
def desk : Shelf :=
  ⟨[("types.json", sketch.json.text .pretty), ("schema.json", drawing.json.text .compact)]⟩

/-- A setting in which nothing is logged and the sketch may only be replaced on request. -/
def quiet : Setting := ⟨{}, .plain, .console .off false .plain none⟩

theorem play_quiet_sync {shelf : Shelf} {selected : List StructSchema}
    (htargets : quiet.Targets options.database options.schema database path)
    (hfault : options.fault? = none) (hselect : select schema options.only = .ok selected)
    (htext : Shelf.files.content shelf path = some (.ok text))
    (hschema : Schema.load text = .ok schema)
    (hstored : (quiet.withOptions options.database).Loads Shelf.files shelf db) :
    play (quiet.sync options) shelf =
      play ((quiet.syncing options).finishSync selected db) shelf := by
  have hunseen : quiet.logger.Unseen (id : Shelf → Shelf) := nofun
  have hunlogged : quiet.Unlogged Shelf.files [database] := fun _ _ _ => nofun
  obtain ⟨_, rfl, hplay⟩ := sync_selected_unseen Shelf.still hunseen hunlogged htargets hfault
    hselect htext hschema hstored
  exact hplay

/-- The sketch is replaced as it is asked for, and then a check finds nothing to do. -/
theorem drawing_settles :
    ∃ saved after t, play (quiet.sync ⟨some "schema.json", ⟨none, none⟩, [], false, false⟩) desk =
      (.ok (), t) ∧ t.text? "types.json" = some saved ∧
      Schema.Settles drawing.structs saved after ∧
      (play (quiet.check ⟨some "schema.json", ⟨none, none⟩, []⟩) t).1 = .ok () := by
  have hunlogged : quiet.Unlogged Shelf.files ["types.json", "schema.json"] := fun _ _ _ => nofun
  have hstored : Shelf.files.content desk "types.json" = some (.ok (sketch.json.text .pretty)) := by
    simp [desk, Shelf.files, Shelf.text?]
  have hschema : Shelf.files.content desk "schema.json" =
      some (.ok (drawing.json.text .compact)) := by
    simp [desk, Shelf.files, Shelf.text?, List.lookup_cons]
  have hsketch : sketch.Reachable :=
    .perform (.createStruct "point") (.empty 8) (by unfold Database.Spare; decide)
  have htargets : quiet.Targets ⟨none, none⟩ (some "schema.json") "types.json" "schema.json" :=
    ⟨by decide, rfl, rfl⟩
  have hloads : (quiet.withOptions ⟨none, none⟩).Loads Shelf.files desk sketch.clearJournal :=
    .inr ⟨_, hstored, hsketch.sound.load_text .pretty⟩
  have hsync : (play (quiet.sync ⟨some "schema.json", ⟨none, none⟩, [], false, false⟩) desk).1 =
      .ok () := by
    refine (congrArg Prod.fst
      (play_quiet_sync htargets rfl rfl hschema drawing_load hloads)).trans ?_
    decide +kernel
  generalize hplay : play (quiet.sync ⟨some "schema.json", ⟨none, none⟩, [], false, false⟩) desk =
    played at hsync
  obtain ⟨result, t⟩ := played
  obtain rfl : result = .ok () := hsync
  obtain ⟨saved, after, hsaved, -, hsettles, hcheck, -⟩ := sync_settles Shelf.files
    (show "types.json" ≠ "schema.json" by decide) htargets hunlogged rfl hschema drawing_load
    drawing_ordered hsketch (by unfold Database.Spare; decide +kernel) (.inl hstored) hplay
  refine ⟨saved, after, t, rfl, ?_, hsettles, ?_⟩
  · obtain ⟨text, htext, hsame⟩ := Option.map_eq_some_iff.1 hsaved
    rw [htext, Except.ok.inj hsame]
  · exact hcheck quiet _ t ⟨by decide, rfl, rfl⟩ hunlogged rfl fun _ _ => rfl

end Setting

end StructSync
