import Mathlib
import StructSync.Proofs.Stepwise
import StructSync.Proofs.Twice

/-!
# All of a sync or nothing

A sync reads a schema and a database (`Setting.opening`), brings structs in step in memory, and
saves. Nothing but the save changes the database file: reading does not (`opening_keeps`), and
neither does the rest (`syncAll_keeps`). Main statement (`sync_all_or_nothing`): a sync that fails
leaves every byte of the file, unless it is the save that fails, and after one that succeeds the
file is loaded as what the selected structs made of the database, one after the other
(`Setting.Reaches`).
-/

namespace StructSync

variable {α β ε τ γ : Type} {seen : τ → γ}

theorem play_bind_ok {x : ExceptT ε (StateM τ) α} {f : α → ExceptT ε (StateM τ) β} {t t' : τ}
    {b : β} (h : play (x >>= f) t = (.ok b, t')) :
    ∃ a t₁, play x t = (.ok a, t₁) ∧ play (f a) t₁ = (.ok b, t') := by
  rw [play_bind] at h
  rcases hx : play x t with ⟨e | a, t₁⟩
  · rw [hx] at h
    cases h
  · rw [hx] at h
    exact ⟨a, t₁, rfl, h⟩

theorem play_lift_bind (x : StateM τ α) (f : α → ExceptT ε (StateM τ) β) (t : τ) :
    play ((liftM x : ExceptT ε (StateM τ) α) >>= f) t = play (f (x.run t).1) (x.run t).2 := by
  rw [play_bind, play_monadLift]

namespace Setting

open Machine (Files Disk)

variable [Machine (StateM τ)] {s : Setting} {t t₁ t' : τ}

/-! ### Before the structs -/

theorem loadSchema_ok {schema? : Option String} {schema : Schema}
    (h : play (s.loadSchema schema?) t = (.ok schema, t')) :
    ∃ path text, (schema? <|> s.config.schema) = some path ∧
      ((Machine.readFile path : StateM τ _).run t).1 = .ok text ∧
      Schema.load text = .ok schema := by
  unfold loadSchema at h
  cases hpath : (schema? <|> s.config.schema) with
  | none =>
    rw [hpath] at h
    cases h
  | some path =>
    rw [hpath] at h
    dsimp only at h
    rw [play_lift_bind] at h
    rcases hread : ((Machine.readFile path : StateM τ _).run t).1 with fault | text
    · rw [hread] at h
      cases h
    · rw [hread] at h
      dsimp only at h
      rcases hload : Schema.load text with e | loaded
      · rw [hload] at h
        cases h
      · rw [hload] at h
        cases h
        exact ⟨path, text, rfl, hread, hload⟩

theorem loadDatabase_ok (files : Files τ) {db : Database}
    (h : play s.loadDatabase t = (.ok db, t')) : s.Loads files t db := by
  unfold loadDatabase at h
  dsimp only at h
  rw [play_lift_bind, files.fileExists] at h
  cases hcontent : files.content t s.config.database with
  | none =>
    rw [hcontent, if_neg (by simp)] at h
    obtain ⟨-, t₁, -, hempty⟩ := play_bind_ok h
    cases hempty
    exact .inl ⟨hcontent, rfl⟩
  | some found =>
    have hkept : files.content ((Machine.fileExists s.config.database : StateM τ _).run t).2
        s.config.database = some found :=
      (files.fileExists_leaves t).trans hcontent
    rw [hcontent, if_pos Option.isSome_some, play_lift_bind, files.readFile hkept] at h
    rcases found with fault | text
    · cases h
    · dsimp only at h
      rcases hload : Database.load text with e | loaded
      · rw [hload] at h
        cases h
      · rw [hload] at h
        obtain ⟨-, t₁, -, hloaded⟩ := play_bind_ok h
        cases hloaded
        exact .inr ⟨text, hcontent, hload⟩

/-- What a sync does before it builds: the schema is read, structs are selected of it, and the
database is read. -/
def opening (s : Setting) (options : SyncOptions) :
    ExceptT Failure (StateM τ) (List StructSchema × Database) := do
  let schema ← s.loadSchema options.schema
  let selected ← select schema options.only
  let db ← s.loadDatabase
  let opening := "Syncing " ++ toString selected.length ++ " struct(s) into " ++ s.config.database
  (s.sayInfo opening : StateM τ Unit)
  return (selected, db)

theorem opening_keeps (hstill : Machine.Still seen) (hlog : s.logger.Unseen seen)
    (options : SyncOptions) :
    Keeps seen (s.opening options : ExceptT Failure (StateM τ) _).run := by
  unfold opening
  refine .bindExcept (loadSchema_keeps hstill.steady _) fun schema => ?_
  refine .bindExcept (.pure _) fun selected => ?_
  refine .bindExcept (loadDatabase_keeps hstill.steady hlog) fun db => ?_
  exact .bindExcept (.bind (hstill.print _) fun _ => .pure _) fun _ => .pure _

/-- The database of a sync, and the machine, when all its structs are built: the selected structs of
the schema have been built in order on the database of the file, or on an empty one. -/
def Reaches (files : Files τ) (s : Setting) (options : SyncOptions) (t : τ)
    (last : Database × τ) : Prop :=
  ∃ path text schema selected db t₁,
    (options.schema <|> s.config.schema) = some path ∧
    ((Machine.readFile path : StateM τ _).run t).1 = .ok text ∧
    Schema.load text = .ok schema ∧ select schema options.only = .ok selected ∧
    s.Loads files t db ∧ play (s.opening options) t = (.ok (selected, db), t₁) ∧
    Stepwise s.confirmer s.tellOutcome selected (db, t₁) last

theorem Reaches.of_opening (files : Files τ) {options : SyncOptions} {selected : List StructSchema}
    {db : Database} {last : Database × τ}
    (hopening : play (s.opening options) t = (.ok (selected, db), t₁))
    (hsteps : Stepwise s.confirmer s.tellOutcome selected (db, t₁) last) :
    s.Reaches files options t last := by
  have hall := hopening
  unfold opening at hopening
  obtain ⟨schema, t₂, hschema, hopening⟩ := play_bind_ok hopening
  obtain ⟨path, text, hpath, hread, hload⟩ := loadSchema_ok hschema
  obtain ⟨chosen, t₃, hchosen, hopening⟩ := play_bind_ok hopening
  obtain ⟨loaded, t₄, hloaded, hopening⟩ := play_bind_ok hopening
  dsimp only at hopening
  rw [play_lift_bind] at hopening
  obtain ⟨rfl, rfl⟩ : chosen = selected ∧ loaded = db := by
    cases hopening
    exact ⟨rfl, rfl⟩
  obtain ⟨hselect, rfl⟩ : select schema options.only = .ok chosen ∧ t₂ = t₃ := by
    cases hselect : select schema options.only with
    | error e =>
      rw [hselect] at hchosen
      cases hchosen
    | ok selected =>
      rw [hselect] at hchosen
      cases hchosen
      exact ⟨rfl, rfl⟩
  -- reading the schema has left the database file
  have hsame : files.content t₂ s.config.database = files.content t s.config.database := by
    have hkeeps :=
      (loadSchema_keeps (s := s) (files.still s.config.database).steady options.schema).play t
    rwa [hschema] at hkeeps
  have hloads := loadDatabase_ok files hloaded
  unfold Loads at hloads
  rw [hsame] at hloads
  exact ⟨path, text, schema, chosen, loaded, t₁, hpath, hread, hload, hselect, hloads, hall, hsteps⟩

/-- What is read is one schema, so the structs are those that are selected of it. -/
theorem Reaches.steps {files : Files τ} {options : SyncOptions} {last : Database × τ}
    {path text : String} {schema : Schema} (h : s.Reaches files options t last)
    (hpath : (options.schema <|> s.config.schema) = some path)
    (htext : ((Machine.readFile path : StateM τ _).run t).1 = .ok text)
    (hschema : Schema.load text = .ok schema) :
    ∃ selected db t₁, select schema options.only = .ok selected ∧ s.Loads files t db ∧
      Stepwise s.confirmer s.tellOutcome selected (db, t₁) last := by
  obtain ⟨path', text', schema', selected, db, t₁, hpath', htext', hschema', hselect, hloads, -,
    hsteps⟩ := h
  obtain rfl : path = path' := Option.some.inj (hpath.symm.trans hpath')
  obtain rfl : text = text' := Except.ok.inj (htext.symm.trans htext')
  obtain rfl : schema = schema' := Except.ok.inj (hschema.symm.trans hschema')
  exact ⟨selected, db, t₁, hselect, hloads, hsteps⟩

theorem obtained_of_loads {files : Files τ} {db : Database} (h : s.Loads files t db) :
    Database.Obtained db := by
  rcases h with ⟨-, rfl⟩ | ⟨text, -, hload⟩
  · exact .empty _
  · exact .load hload

theorem Reaches.ranged {files : Files τ} {options : SyncOptions} {last : Database × τ}
    (h : s.Reaches files options t last) : last.1.Ranged := by
  obtain ⟨_, _, _, _, db, _, _, _, _, _, hloads, _, hsteps⟩ := h
  exact (hsteps.obtained (obtained_of_loads hloads)).ranged

/-! ### The whole sync -/

theorem withDatabase_cases (s : Setting) (options : DatabaseOptions) :
    (∃ failure, s.withDatabase options = .error failure) ∨
      s.withDatabase options = .ok (s.withOptions options) := by
  unfold withDatabase
  dsimp only
  split
  · exact .inl ⟨_, rfl⟩
  · exact .inr rfl

/-- A sync makes no sense, or reads and goes on with what it has read. -/
theorem play_sync_cases (s : Setting) (options : SyncOptions) (t : τ) :
    (∃ failure, play (s.sync options) t = (.error failure, t)) ∨
      play (s.sync options) t = play (do
        let (selected, db) ← (s.syncing options).opening options
        (s.syncing options).finishSync selected db) t := by
  cases hfault : options.fault? with
  | some fault =>
    left
    refine ⟨[fault], ?_⟩
    unfold sync
    rw [hfault]
    rfl
  | none =>
    rcases withDatabase_cases s options.database with ⟨failure, hdatabase⟩ | hdatabase
    · left
      refine ⟨failure, ?_⟩
      unfold sync
      rw [hfault, hdatabase]
      rfl
    · right
      rw [sync_eq hfault hdatabase]
      unfold opening
      simp only [bind_assoc, pure_bind]

theorem reaches_of_sync (files : Files τ) {options : SyncOptions}
    (h : (play (s.sync options) t).1 = .ok ()) :
    ∃ last, (s.syncing options).Reaches files options t last := by
  rcases play_sync_cases s options t with ⟨failure, hsync⟩ | hsync
  · rw [hsync] at h
    cases h
  · generalize hran : play (s.sync options) t = ran at h hsync
    obtain ⟨_, t'⟩ := ran
    obtain rfl := h
    obtain ⟨⟨selected, db⟩, t₁, hopening, hfinish⟩ := play_bind_ok hsync.symm
    obtain ⟨after, t₂, hall, -⟩ := finishSync_ok hfinish
    exact ⟨(after, t₂), .of_opening files hopening (syncAll_ok_iff.1 hall)⟩

theorem play_saveDatabase_cases (disk : Disk τ)
    (hlog : s.logger.Unseen (disk.bytes · s.config.database)) (db : Database) (t : τ) :
    (∃ t', play (s.saveDatabase db) t = (.ok (), t') ∧
      disk.bytes t' s.config.database = some (.ok (db.json.text .pretty).toUTF8)) ∨
    ∃ fault t', (Machine.writeFile s.config.database (db.json.text .pretty) : StateM τ _).run t =
        (.error fault, t') ∧
      play (s.saveDatabase db) t =
        (.error (("saving database " ++ s.config.database) :: (HostError.file fault).chain), t') := by
  rw [play_saveDatabase]
  rcases hwrite : (Machine.writeFile s.config.database (db.json.text .pretty) : StateM τ _).run t
    with ⟨fault | _, t₁⟩
  · exact .inr ⟨fault, t₁, rfl, rfl⟩
  · left
    have hthere := disk.writeFile (t := t) (by rw [hwrite])
    rw [hwrite] at hthere
    have hnote := Logger.emit_keeps (disk.still _).steady hlog ⟨.debug, .database,
      "Saved " ++ toString db.structs.size ++ " structures to " ++ s.config.database⟩ t₁
    exact ⟨_, rfl, hnote.trans hthere⟩

/-- A sync that is done with reading changes the database file when it saves, and not before. -/
theorem play_finishSync_cases (disk : Disk τ)
    (hlog : s.logger.Unseen (disk.bytes · s.config.database)) (structs : List StructSchema)
    (db : Database) (t : τ) :
    (∃ failure t', play (s.finishSync structs db) t = (.error failure, t') ∧
      disk.bytes t' s.config.database = disk.bytes t s.config.database) ∨
    ∃ after t₁, Stepwise s.confirmer s.tellOutcome structs (db, t) (after, t₁) ∧
      play (s.finishSync structs db) t = play (s.saveDatabase after) t₁ := by
  unfold finishSync
  rw [play_lift_bind]
  have hkeeps := syncAll_keeps (disk.still _) hlog structs db t
  rcases hsync : (syncAll s.confirmer s.tellOutcome structs db : StateM τ _).run t with
    ⟨⟨e | _, after⟩, t₁⟩
  · rw [hsync] at hkeeps
    exact .inl ⟨e.chain, t₁, rfl, hkeeps⟩
  · exact .inr ⟨after, t₁, syncAll_ok_iff.1 hsync, rfl⟩

/-- A sync that fails leaves the bytes of its database file, unless it is the saving of the
database it has come to that fails. After one that succeeds the file is loaded as that database. -/
theorem sync_all_or_nothing (disk : Disk τ) (s : Setting) (options : SyncOptions) (t : τ)
    (hlog : ∀ file ∈ s.logger.file?, disk.Apart file (s.syncing options).config.database) :
    let path := (s.syncing options).config.database
    let ran := play (s.sync options) t
    (∀ failure, ran.1 = .error failure →
      disk.bytes ran.2 path = disk.bytes t path ∨
      ∃ after t₁ fault, (s.syncing options).Reaches disk.files options t (after, t₁) ∧
        (Machine.writeFile path (after.json.text .pretty) : StateM τ _).run t₁ =
          (.error fault, ran.2) ∧
        failure = ("saving database " ++ path) :: (HostError.file fault).chain) ∧
    (ran.1 = .ok () →
      ∃ after t₁, (s.syncing options).Reaches disk.files options t (after, t₁) ∧
        disk.bytes ran.2 path = some (.ok (after.json.text .pretty).toUTF8) ∧
        (play (s.syncing options).loadDatabase ran.2).1 = .ok after.clearJournal) := by
  intro path ran
  have hunseen : (s.syncing options).logger.Unseen (disk.bytes · path) :=
    fun file hfile _ => disk.appendFile_keeps (hlog file hfile)
  rcases play_sync_cases s options t with ⟨failure, hsync⟩ | hsync
  · rw [show ran = _ from hsync]
    exact ⟨fun _ _ => .inl rfl, nofun⟩
  have hopening := (opening_keeps (disk.still path) hunseen options).play t
  rw [play_bind] at hsync
  generalize hread : play ((s.syncing options).opening options) t = read at hsync hopening
  rcases read with ⟨e | ⟨selected, db⟩, t₁⟩
  · rw [show ran = _ from hsync]
    exact ⟨fun _ _ => .inl hopening, nofun⟩
  dsimp only at hsync
  rcases play_finishSync_cases disk hunseen selected db t₁ with
    ⟨failure, t₂, hfinish, hsame⟩ | ⟨after, t₂, hsteps, hfinish⟩
  · rw [show ran = _ from hsync.trans hfinish]
    exact ⟨fun _ _ => .inl (hsame.trans hopening), nofun⟩
  have hreaches := Reaches.of_opening disk.files hread hsteps
  rcases play_saveDatabase_cases disk hunseen after t₂ with
    ⟨t₃, hsave, hthere⟩ | ⟨fault, t₃, hwrite, hsave⟩
  · rw [show ran = _ from hsync.trans (hfinish.trans hsave)]
    refine ⟨nofun, fun _ => ⟨after, t₂, hreaches, hthere, ?_⟩⟩
    have hunlogged : (s.syncing options).Unlogged disk.files [path] := by
      intro other hother
      obtain rfl := List.mem_singleton.1 hother
      exact hlog
    obtain ⟨t₄, hload, -⟩ := loadDatabase_gives hunlogged (List.mem_singleton_self path)
      (.inr ⟨_, disk.content_of_bytes hthere, hreaches.ranged.load_text .pretty⟩)
    rw [hload]
  · rw [show ran = _ from hsync.trans (hfinish.trans hsave)]
    refine ⟨fun failure hfailure => .inr ⟨after, t₂, fault, hreaches, hwrite, ?_⟩, nofun⟩
    exact (Except.error.inj hfailure).symm

/-- A database with an empty struct of the later name. -/
def outline : Database := (Request.createStruct "line").perform (.empty 8)

/-- A shelf with the outline and the schema of a drawing. -/
def easel : Shelf :=
  ⟨[("types.json", outline.json.text .compact), ("schema.json", drawing.json.text .compact)]⟩

/-- The points are made before the line is asked for. If it is not to be replaced the file stays as
it is, and else both are in it. -/
theorem sync_all_or_nothing_easel :
    let keeping : SyncOptions := ⟨some "schema.json", ⟨none, none⟩, [], false, true⟩
    let replacing : SyncOptions := ⟨some "schema.json", ⟨none, none⟩, [], true, false⟩
    (∃ failure, (play (quiet.sync keeping) easel).1 = .error failure) ∧
      Shelf.disk.bytes (play (quiet.sync keeping) easel).2 "types.json" =
        Shelf.disk.bytes easel "types.json" ∧
      ∃ after t, (quiet.syncing replacing).Reaches Shelf.disk.files replacing easel (after, t) ∧
        Shelf.disk.bytes (play (quiet.sync replacing) easel).2 "types.json" =
          some (.ok (after.json.text .pretty).toUTF8) := by
  intro keeping replacing
  obtain ⟨hkept, -⟩ := sync_all_or_nothing Shelf.disk quiet keeping easel nofun
  obtain ⟨-, hsaved⟩ := sync_all_or_nothing Shelf.disk quiet replacing easel nofun
  have hschema : Shelf.files.content easel "schema.json" =
      some (.ok (drawing.json.text .compact)) := by
    simp [easel, Shelf.files, Shelf.text?, List.lookup_cons]
  have hstored : Shelf.files.content easel "types.json" =
      some (.ok (outline.json.text .compact)) := by
    simp [easel, Shelf.files, Shelf.text?]
  have houtline : outline.Reachable :=
    .perform (.createStruct "line") (.empty 8) (by unfold Database.Spare; decide)
  have htargets : quiet.Targets ⟨none, none⟩ (some "schema.json") "types.json" "schema.json" :=
    ⟨by decide, rfl, rfl⟩
  have hloads : (quiet.withOptions ⟨none, none⟩).Loads Shelf.files easel outline.clearJournal :=
    .inr ⟨_, hstored, houtline.sound.load_text .compact⟩
  have hdeclined : (play (quiet.sync keeping) easel).1.toOption = none := by
    have hplays : play (quiet.sync keeping) easel =
        play ((quiet.syncing keeping).finishSync drawing.structs outline.clearJournal) easel :=
      play_quiet_sync htargets rfl rfl hschema drawing_load hloads
    rw [hplays]
    decide +kernel
  have hreplaced : (play (quiet.sync replacing) easel).1 = .ok () := by
    refine (congrArg Prod.fst
      (play_quiet_sync htargets rfl rfl hschema drawing_load hloads)).trans ?_
    decide +kernel
  obtain ⟨failure, hfailure⟩ : ∃ failure, (play (quiet.sync keeping) easel).1 = .error failure := by
    rcases hresult : (play (quiet.sync keeping) easel).1 with failure | _
    · exact ⟨failure, rfl⟩
    · rw [hresult] at hdeclined
      cases hdeclined
  obtain ⟨after, t, hreaches, hthere, -⟩ := hsaved hreplaced
  refine ⟨⟨failure, hfailure⟩, ?_, after, t, hreaches, hthere⟩
  -- no text is refused on a shelf
  refine (hkept failure hfailure).resolve_right ?_
  rintro ⟨after, t, fault, -, hwrite, -⟩
  cases hwrite

end Setting

end StructSync
