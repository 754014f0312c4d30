import Mathlib
import StructSync.CommandLine.Run
import StructSync.Proofs.Files
import StructSync.Proofs.InStep

/-!
# What commands do with files

`Machine.Files.Gives`: a step of a command gives a value and leaves some files as they are. The
steps before a sync and a check are of that kind if the files hold a schema and a database
(`loadSchema_gives`, `loadDatabase_gives`), so both commands come to what they do with the selected
structs (`sync_selected_leadsTo`, `check_selected_leadsTo`), and of a machine that keeps still they
change nothing (`sync_selected_unseen`). A save leaves the text of the database behind
(`saveDatabase_cases`).
-/

namespace StructSync

variable {α β ε τ : Type}

/-- What the step gives and leaves behind. -/
def play (x : ExceptT ε (StateM τ) α) (t : τ) : Except ε α × τ := x.run.run t

theorem play_bind (x : ExceptT ε (StateM τ) α) (f : α → ExceptT ε (StateM τ) β) (t : τ) :
    play (x >>= f) t =
      match play x t with
      | (.error e, t) => (.error e, t)
      | (.ok a, t) => play (f a) t := by
  unfold play
  rw [ExceptT.run_bind, StateT.run_bind]
  rcases x.run.run t with ⟨e | a, t₁⟩ <;> rfl

theorem play_monadLift (x : StateM τ α) (t : τ) :
    play (liftM x : ExceptT ε (StateM τ) α) t = (.ok (x.run t).1, (x.run t).2) := rfl

section
variable {γ : Type} {seen : τ → γ}

theorem Keeps.bindExcept {x : ExceptT ε (StateM τ) α} {f : α → ExceptT ε (StateM τ) β}
    (hx : Keeps seen x.run) (hf : ∀ a, Keeps seen (f a).run) : Keeps seen (x >>= f).run := by
  rw [ExceptT.run_bind]
  refine hx.bind fun result => ?_
  cases result with
  | error e => exact .pure _
  | ok a => exact hf a

theorem Keeps.play {x : ExceptT ε (StateM τ) α} (h : Keeps seen x.run) (t : τ) :
    seen (play x t).2 = seen t := h t

end

namespace Machine.Files

variable [Machine (StateM τ)] {files : Machine.Files τ} {watched : List String} {t : τ}

/-- The files of the paths are the same in both states. -/
def Same (files : Machine.Files τ) (watched : List String) (t t' : τ) : Prop :=
  ∀ path ∈ watched, files.content t' path = files.content t path

/-- The step gives the value, and leaves the files of the paths as they are. -/
def Gives (files : Machine.Files τ) (watched : List String) (x : ExceptT ε (StateM τ) α) (t : τ)
    (a : α) : Prop :=
  ∃ t', play x t = (.ok a, t') ∧ files.Same watched t t'

theorem Same.trans {t₁ t₂ : τ} (h : files.Same watched t t₁) (h' : files.Same watched t₁ t₂) :
    files.Same watched t t₂ := fun path hpath => (h' path hpath).trans (h path hpath)

theorem Gives.pure (a : α) : files.Gives watched (pure a : ExceptT ε (StateM τ) α) t a :=
  ⟨t, rfl, fun _ _ => rfl⟩

theorem Gives.lift {x : StateM τ α} (h : ∀ path ∈ watched, Leaves files.content path x) :
    files.Gives watched (liftM x : ExceptT ε (StateM τ) α) t (x.run t).1 :=
  ⟨(x.run t).2, rfl, fun path hpath => h path hpath t⟩

/-- The work comes to this other work, and leaves the files of the paths as they are until then. -/
def LeadsTo (files : Machine.Files τ) (watched : List String) (x : ExceptT ε (StateM τ) α) (t : τ)
    (y : ExceptT ε (StateM τ) α) : Prop :=
  ∃ t', files.Same watched t t' ∧ play x t = play y t'

theorem LeadsTo.refl (x : ExceptT ε (StateM τ) α) (t : τ) : files.LeadsTo watched x t x :=
  ⟨t, fun _ _ => rfl, rfl⟩

theorem LeadsTo.trans {x y z : ExceptT ε (StateM τ) α} (h : files.LeadsTo watched x t y)
    (h' : ∀ t', files.LeadsTo watched y t' z) : files.LeadsTo watched x t z := by
  obtain ⟨t₁, hsame, hplay⟩ := h
  obtain ⟨t₂, hsame', hplay'⟩ := h' t₁
  exact ⟨t₂, hsame.trans hsame', hplay.trans hplay'⟩

theorem Gives.leadsTo {x : ExceptT ε (StateM τ) α} {f : α → ExceptT ε (StateM τ) β} {a : α}
    {y : ExceptT ε (StateM τ) β} (h : files.Gives watched x t a)
    (hf : ∀ t', files.Same watched t t' → files.LeadsTo watched (f a) t' y) :
    files.LeadsTo watched (x >>= f) t y := by
  obtain ⟨t₁, hplay, hsame⟩ := h
  obtain ⟨t₂, hsame', hplay'⟩ := hf t₁ hsame
  refine ⟨t₂, hsame.trans hsame', ?_⟩
  rw [play_bind, hplay]
  exact hplay'

theorem Gives.bind {x : ExceptT ε (StateM τ) α} {f : α → ExceptT ε (StateM τ) β} {a : α} {b : β}
    (h : files.Gives watched x t a)
    (hf : ∀ t', files.Same watched t t' → files.Gives watched (f a) t' b) :
    files.Gives watched (x >>= f) t b := by
  obtain ⟨t₁, hplay, hsame⟩ := h
  obtain ⟨t₂, hplay', hsame'⟩ := hf t₁ hsame
  refine ⟨t₂, ?_, hsame.trans hsame'⟩
  rw [play_bind, hplay]
  exact hplay'

theorem Gives.forM {l : List α} {f : α → ExceptT ε (StateM τ) Unit}
    (hf : ∀ a ∈ l, ∀ t, files.Gives watched (f a) t ()) : files.Gives watched (l.forM f) t () := by
  induction l generalizing t with
  | nil => exact .pure ()
  | cons a l ih =>
    obtain ⟨ha, hl⟩ := List.forall_mem_cons.1 hf
    exact (ha t).bind fun _ _ => ih hl

end Machine.Files

namespace Setting

open Machine (Files)

variable [Machine (StateM τ)] {files : Files τ} {watched : List String} {t : τ} {s : Setting}

/-! ### Output -/

/-- The log is kept in none of the files of the paths. -/
def Unlogged (files : Files τ) (watched : List String) (s : Setting) : Prop :=
  ∀ path ∈ watched, files.Unlogged s.logger path

theorem note_gives (h : s.Unlogged files watched) (level : Level) (message : String) :
    files.Gives watched (s.note level message) t () :=
  .lift fun path hpath => Logger.emit_keeps (files.still path).steady (h path hpath).unseen _

section
variable {γ : Type} {seen : τ → γ}

theorem emit_keeps (hsteady : Machine.Steady seen) (hlog : s.logger.Unseen seen) (x : Logged α) :
    Keeps seen (s.emit x : StateM τ α) :=
  .bind (Logger.emitAll_keeps hsteady hlog x.log) fun _ => .pure _

theorem tellOutcome_keeps (hstill : Machine.Still seen) (hlog : s.logger.Unseen seen)
    (entry : StructSchema) (built : Logged (Except SyncError (Descriptor × Outcome))) :
    Keeps seen (s.tellOutcome entry built : StateM τ Unit) := by
  unfold tellOutcome
  refine .bind (emit_keeps hstill.steady hlog built) fun result => ?_
  rcases result with e | ⟨d, outcome⟩
  · have hunchanged : Keeps seen
        (s.sayWarning (s.config.database ++ " left unchanged") : StateM τ Unit) :=
      hstill.print _
    dsimp only
    split
    · exact .bind (hstill.print _) fun _ => hunchanged
    · exact .bind (hstill.printError _) fun _ => hunchanged
  · dsimp only
    split
    · exact hstill.print _
    · exact hstill.print _

theorem confirmer_keeps (hstill : Machine.Still seen) (prompt : String) :
    Keeps seen (s.confirmer prompt : StateM τ _) := by
  unfold confirmer
  cases s.config.overwrite with
  | ask => exact hstill.ask prompt
  | always => exact .pure _
  | never => exact .pure _

theorem syncAll_keeps {σ : Type} [Host σ] (hstill : Machine.Still seen)
    (hlog : s.logger.Unseen seen) (structs : List StructSchema) (host : σ) :
    Keeps seen (syncAll s.confirmer s.tellOutcome structs host : StateM τ _) :=
  .syncAll (confirmer_keeps hstill) (tellOutcome_keeps hstill hlog) structs host

end

theorem emit_gives (h : s.Unlogged files watched) (x : Logged α) :
    files.Gives watched (liftM (s.emit x : StateM τ α) : ExceptT ε (StateM τ) α) t x.value := by
  have hgives := Files.Gives.lift (ε := ε) (t := t) fun path (hpath : path ∈ watched) =>
    (emit_keeps (files.still path).steady (h path hpath).unseen x : Leaves files.content path _)
  unfold emit at hgives ⊢
  rw [StateT.run_bind] at hgives
  exact hgives

/-! ### Files -/

/-- The setting with the options of the database above its configuration. -/
def withOptions (s : Setting) (options : DatabaseOptions) : Setting :=
  { s with
    config := {
      s.config with
      database := options.database.getD s.config.database
      pointerSize := options.pointerSize.getD s.config.pointerSize } }

/-- The command has a configuration that makes sense, and works on the database file and the schema
file of the paths. -/
structure Targets (s : Setting) (options : DatabaseOptions) (schema? : Option String)
    (database schema : String) : Prop where
  valid : (s.withOptions options).config.fault? = none
  database : (s.withOptions options).config.database = database
  schema : (schema? <|> s.config.schema) = some schema

theorem Targets.withDatabase {options : DatabaseOptions} {schema? : Option String}
    {database schema : String} (h : s.Targets options schema? database schema) :
    s.withDatabase options = .ok (s.withOptions options) := by
  obtain ⟨hvalid, -, -⟩ := h
  unfold withOptions at hvalid ⊢
  unfold Setting.withDatabase
  dsimp only at hvalid ⊢
  rw [hvalid]

/-- The database file is loaded as the database: it holds its text, or there is none and the
database is empty. -/
def Loads (files : Files τ) (s : Setting) (t : τ) (db : Database) : Prop :=
  files.content t s.config.database = none ∧ db = .empty s.config.pointerSize ∨
    ∃ text, files.content t s.config.database = some (.ok text) ∧ Database.load text = .ok db

theorem loadSchema_gives {schema? : Option String} {path text : String} {schema : Schema}
    (hpath : (schema? <|> s.config.schema) = some path)
    (htext : files.content t path = some (.ok text)) (hload : Schema.load text = .ok schema) :
    files.Gives watched (s.loadSchema schema?) t schema := by
  unfold loadSchema
  rw [hpath]
  dsimp only
  refine .bind (.lift fun _ _ => files.readFile_leaves) fun t' _ => ?_
  rw [files.readFile htext]
  dsimp only
  rw [hload]
  exact .pure schema

theorem loadDatabase_gives (h : s.Unlogged files watched) {db : Database}
    (hwatched : s.config.database ∈ watched) (hstored : s.Loads files t db) :
    files.Gives watched (s.loadDatabase) t db := by
  unfold loadDatabase
  refine .bind (.lift fun _ _ => files.fileExists_leaves) fun t' hsame => ?_
  rw [files.fileExists]
  rcases hstored with ⟨hnone, rfl⟩ | ⟨text, htext, hload⟩
  · rw [hnone, if_neg (by simp)]
    exact .bind (note_gives h _ _) fun _ _ => .pure _
  · rw [htext, if_pos Option.isSome_some]
    have htext' : files.content t' s.config.database = some (.ok text) :=
      (hsame _ hwatched).trans htext
    refine .bind (.lift fun _ _ => files.readFile_leaves) fun t'' _ => ?_
    rw [files.readFile htext']
    dsimp only
    rw [hload]
    exact .bind (note_gives h _ _) fun _ _ => .pure db

section
variable {γ : Type} {seen : τ → γ}

theorem loadSchema_keeps (hsteady : Machine.Steady seen) (schema? : Option String) :
    Keeps seen (s.loadSchema schema? : ExceptT Failure (StateM τ) Schema).run := by
  unfold loadSchema
  split
  · exact .pure _
  · refine .bindExcept (.bind (hsteady.readFile _) fun _ => .pure _) fun read => ?_
    dsimp only
    split
    · exact .pure _
    · exact .pure _

theorem loadDatabase_keeps (hsteady : Machine.Steady seen) (hlog : s.logger.Unseen seen) :
    Keeps seen (s.loadDatabase : ExceptT Failure (StateM τ) Database).run := by
  have hnote (level : Level) (message : String) :
      Keeps seen (s.note level message : ExceptT Failure (StateM τ) Unit).run :=
    .bind (Logger.emit_keeps hsteady hlog _) fun _ => .pure _
  unfold loadDatabase
  refine .bindExcept (.bind (hsteady.fileExists _) fun _ => .pure _) fun found => ?_
  split
  · refine .bindExcept (.bind (hsteady.readFile _) fun _ => .pure _) fun read => ?_
    split
    · exact .pure _
    · split
      · exact .pure _
      · exact .bindExcept (hnote _ _) fun _ => .pure _
  · exact .bindExcept (hnote _ _) fun _ => .pure _

end

/-- A command that reads its schema and its database goes on with the structs selected of the one
and with the other. -/
theorem reading_leadsTo (h : s.Unlogged files watched) {schema? : Option String}
    {path text : String} {schema : Schema} {names : List String} {selected : List StructSchema}
    {db : Database} (hpath : (schema? <|> s.config.schema) = some path)
    (htext : files.content t path = some (.ok text)) (hschema : Schema.load text = .ok schema)
    (hselect : select schema names = .ok selected) (hwatched : s.config.database ∈ watched)
    (hstored : s.Loads files t db)
    (f : List StructSchema → Database → ExceptT Failure (StateM τ) Unit) :
    files.LeadsTo watched (do
      let schema ← s.loadSchema schema?
      let selected ← select schema names
      let db ← s.loadDatabase
      f selected db) t (f selected db) := by
  refine (loadSchema_gives hpath htext hschema).leadsTo fun t₁ hsame => ?_
  rw [hselect]
  refine (Files.Gives.pure selected).leadsTo fun t₂ hsame₂ => ?_
  -- reading the schema and selecting of it leave the database file
  have hstored₂ : s.Loads files t₂ db := by
    unfold Loads
    rw [hsame₂ _ hwatched, hsame _ hwatched]
    exact hstored
  exact (loadDatabase_gives h hwatched hstored₂).leadsTo fun t₃ _ => .refl _ _

theorem play_saveDatabase (db : Database) (t : τ) :
    play (s.saveDatabase db : ExceptT Failure (StateM τ) Unit) t =
      match (Machine.writeFile s.config.database (db.json.text .pretty) : StateM τ _).run t with
      | (.error fault, t) =>
        (.error (("saving database " ++ s.config.database) :: (HostError.file fault).chain), t)
      | (.ok (), t) =>
        play (s.note .debug ("Saved " ++ toString db.structs.size ++ " structures to "
          ++ s.config.database)) t := by
  unfold saveDatabase
  rw [play_bind, play_monadLift]
  rcases (Machine.writeFile s.config.database (db.json.text .pretty) : StateM τ _).run t with
    ⟨_ | _, _⟩ <;> rfl

theorem saveDatabase_cases (h : s.Unlogged files watched) (db : Database)
    (hwatched : s.config.database ∈ watched) :
    (∃ t', play (s.saveDatabase db) t = (.ok (), t') ∧
      files.content t' s.config.database = some (.ok (db.json.text .pretty)) ∧
      ∀ path ∈ watched, files.Apart s.config.database path →
        files.content t' path = files.content t path) ∨
    ∃ fault t', play (s.saveDatabase db) t =
      (.error (("saving database " ++ s.config.database) :: (HostError.file fault).chain), t') := by
  rw [play_saveDatabase]
  rcases hwrite : (Machine.writeFile s.config.database (db.json.text .pretty) : StateM τ _).run t
    with ⟨fault | _, t₁⟩
  · exact .inr ⟨fault, t₁, rfl⟩
  · left
    obtain ⟨t₂, hnote, hsame⟩ := note_gives (t := t₁) h .debug
      ("Saved " ++ toString db.structs.size ++ " structures to " ++ s.config.database)
    refine ⟨t₂, hnote, ?_, fun path hpath hapart => ?_⟩
    · have hthere := files.writeFile (t := t) (by rw [hwrite])
      rw [hwrite] at hthere
      exact (hsame _ hwatched).trans hthere
    · have hleaves : Leaves files.content path
          (Machine.writeFile s.config.database (db.json.text .pretty) : StateM τ _) :=
        files.writeFile_leaves hapart
      have hleft := hleaves t
      rw [hwrite] at hleft
      exact (hsame path hpath).trans hleft

/-! ### The commands -/

/-- What a sync has to do once its files are read. -/
def finishSync (s : Setting) (structs : List StructSchema) (db : Database) :
    ExceptT Failure (StateM τ) Unit := do
  let (result, db) ← (syncAll s.confirmer s.tellOutcome structs db : StateM τ _)
  match result with
  | .error e => throw e.chain
  | .ok () => s.saveDatabase db

/-- The setting of a sync. -/
def syncing (s : Setting) (options : SyncOptions) : Setting :=
  { s.withOptions options.database with
    config := {
      (s.withOptions options.database).config with
      overwrite := overwritePolicy options (s.withOptions options.database).config } }

theorem sync_eq {options : SyncOptions} (hfault : options.fault? = none)
    (hdatabase : s.withDatabase options.database = .ok (s.withOptions options.database)) :
    (s.sync options : ExceptT Failure (StateM τ) Unit) = (do
      let schema ← (s.syncing options).loadSchema options.schema
      let selected ← select schema options.only
      let db ← (s.syncing options).loadDatabase
      let opening := "Syncing " ++ toString selected.length ++ " struct(s) into "
        ++ (s.syncing options).config.database
      ((s.syncing options).sayInfo opening : StateM τ Unit)
      (s.syncing options).finishSync selected db) := by
  unfold sync
  rw [hfault, hdatabase]
  rfl

theorem sync_selected_leadsTo (h : s.Unlogged files watched) {options : SyncOptions}
    {database path text : String} {schema : Schema} {selected : List StructSchema} {db : Database}
    (htargets : s.Targets options.database options.schema database path)
    (hfault : options.fault? = none) (hselect : select schema options.only = .ok selected)
    (hdatabase : database ∈ watched) (htext : files.content t path = some (.ok text))
    (hschema : Schema.load text = .ok schema)
    (hstored : (s.withOptions options.database).Loads files t db) :
    files.LeadsTo watched (s.sync options) t ((s.syncing options).finishSync selected db) := by
  have hwatched : (s.syncing options).config.database ∈ watched := htargets.database ▸ hdatabase
  have hs : (s.syncing options).Unlogged files watched := h
  rw [sync_eq hfault htargets.withDatabase]
  refine (reading_leadsTo hs htargets.schema htext hschema hselect hwatched hstored _).trans
    fun t₁ => ?_
  exact (Files.Gives.lift fun _ _ => files.print_leaves).leadsTo fun t₂ _ => .refl _ _

theorem sync_selected_unseen {γ : Type} {seen : τ → γ} (hstill : Machine.Still seen)
    (hlog : s.logger.Unseen seen) (h : s.Unlogged files [database]) {options : SyncOptions}
    {path text : String} {schema : Schema} {selected : List StructSchema} {db : Database}
    (htargets : s.Targets options.database options.schema database path)
    (hfault : options.fault? = none) (hselect : select schema options.only = .ok selected)
    (htext : files.content t path = some (.ok text)) (hschema : Schema.load text = .ok schema)
    (hstored : (s.withOptions options.database).Loads files t db) :
    ∃ t', seen t' = seen t ∧
      play (s.sync options) t = play ((s.syncing options).finishSync selected db) t' := by
  have hs : (s.syncing options).Unlogged files [database] := h
  have hdatabase : (s.syncing options).config.database = database := htargets.database
  have hgives : files.Gives [database] ((s.syncing options).loadSchema options.schema) t schema :=
    loadSchema_gives htargets.schema htext hschema
  obtain ⟨t₁, hread, hsame⟩ := hgives
  have hstored₁ : (s.syncing options).Loads files t₁ db := by
    unfold Loads
    rw [hsame _ (by simp [hdatabase])]
    exact hstored
  obtain ⟨t₂, hloaded, -⟩ := loadDatabase_gives hs (by simp [hdatabase]) hstored₁
  have hseen₁ : seen t₁ = seen t := by
    have := (loadSchema_keeps (s := s.syncing options) hstill.steady options.schema).play t
    rwa [hread] at this
  have hseen₂ : seen t₂ = seen t₁ := by
    have := (loadDatabase_keeps (s := s.syncing options) hstill.steady hlog).play t₁
    rwa [hloaded] at this
  rw [sync_eq hfault htargets.withDatabase, play_bind, hread]
  dsimp only
  rw [hselect, play_bind]
  change ∃ t', _ ∧ play ((s.syncing options).loadDatabase >>= _) t₁ = _
  rw [play_bind, hloaded]
  exact ⟨_, (hstill.print _ t₂).trans (hseen₂.trans hseen₁), rfl⟩

theorem sync_leadsTo (h : s.Unlogged files watched) {options : SyncOptions}
    {database path text : String} {schema : Schema} {db : Database}
    (htargets : s.Targets options.database options.schema database path)
    (hwhole : options.only = []) (hdatabase : database ∈ watched)
    (htext : files.content t path = some (.ok text)) (hschema : Schema.load text = .ok schema)
    (hstored : files.content t database = none ∧
        db = .empty (s.withOptions options.database).config.pointerSize ∨
      ∃ text, files.content t database = some (.ok text) ∧ Database.load text = .ok db) :
    files.LeadsTo watched (s.sync options) t
      ((s.syncing options).finishSync schema.structs db) := by
  have hfault : options.fault? = none := by
    unfold SyncOptions.fault?
    rw [hwhole]
    rfl
  have hselect : select schema options.only = .ok schema.structs := by
    rw [hwhole]
    rfl
  have hloads : (s.withOptions options.database).Loads files t db := by
    unfold Loads
    rw [htargets.database]
    exact hstored
  exact sync_selected_leadsTo h htargets hfault hselect hdatabase htext hschema hloads

theorem finishSync_ok {structs : List StructSchema} {db : Database} {t' : τ}
    (h : play (s.finishSync structs db) t = (.ok (), t')) :
    ∃ after t₁,
      (syncAll s.confirmer s.tellOutcome structs db : StateM τ _).run t = ((.ok (), after), t₁) ∧
      play (s.saveDatabase after) t₁ = (.ok (), t') := by
  unfold finishSync at h
  rw [play_bind, play_monadLift] at h
  rcases hsync : (syncAll s.confirmer s.tellOutcome structs db : StateM τ _).run t with
    ⟨⟨e | _, after⟩, t₁⟩
  · rw [hsync] at h
    cases h
  · rw [hsync] at h
    exact ⟨after, t₁, rfl, h⟩

/-- What a sync that succeeds leaves in the files: the text of the database that the structs were
brought in step in, and all others as they were. -/
theorem finishSync_leaves (h : s.Unlogged files watched) {structs : List StructSchema}
    {db : Database} {t' : τ} (hdatabase : s.config.database ∈ watched)
    (hplay : play (s.finishSync structs db) t = (.ok (), t')) :
    ∃ after t₁,
      (syncAll s.confirmer s.tellOutcome structs db : StateM τ _).run t = ((.ok (), after), t₁) ∧
      files.content t' s.config.database = some (.ok (after.json.text .pretty)) ∧
      ∀ path ∈ watched, files.Apart s.config.database path →
        files.content t' path = files.content t path := by
  obtain ⟨after, t₁, hsync, hsave⟩ := finishSync_ok hplay
  have hleaves : ∀ path ∈ watched, files.content t₁ path = files.content t path := by
    intro path hpath
    have hall : Leaves files.content path
        (syncAll s.confirmer s.tellOutcome structs db : StateM τ _) :=
      syncAll_keeps (files.still path) (h path hpath).unseen structs db
    have hleft := hall t
    rw [hsync] at hleft
    exact hleft
  refine ⟨after, t₁, hsync, ?_⟩
  rcases saveDatabase_cases (t := t₁) h after hdatabase with
    ⟨t₂, hsaved, hthere, hothers⟩ | ⟨fault, t₂, hfailed⟩
  · rw [hsave] at hsaved
    cases hsaved
    exact ⟨hthere, fun path hpath hapart => (hothers path hpath hapart).trans (hleaves path hpath)⟩
  · rw [hsave] at hfailed
    cases hfailed

theorem finishSync_accepted (h : s.Unlogged files watched) {structs : List StructSchema}
    {db : Database} (haccepted : AcceptsAll db structs) :
    files.LeadsTo watched (s.finishSync structs db) t (s.saveDatabase db) := by
  obtain ⟨told, -, -, hsync⟩ := haccepted
  have htold : ∀ path ∈ watched, Leaves files.content path
      (told.forM (fun x => s.tellOutcome x.1 x.2) >>= fun _ => pure (.ok (), db) :
        StateM τ (Except SyncError Unit × Database)) := fun path hpath =>
    .bind (.forM fun x _ => tellOutcome_keeps (files.still path) (h path hpath).unseen x.1 x.2)
      fun _ => .pure _
  have hgives := Files.Gives.lift (ε := Failure) (t := t) htold
  rw [StateT.run_bind] at hgives
  unfold finishSync
  rw [hsync]
  exact hgives.leadsTo fun _ _ => .refl _ _

/-- What a check has to do once its files are read. -/
def finishCheck (s : Setting) (structs : List StructSchema) (db : Database) :
    ExceptT Failure (StateM τ) Unit := do
  let (findings, result) ← (s.emit (checkAll db structs) : StateM τ _)
  findings.forM fun finding =>
    (if finding.isDrift then s.sayWarning finding.text else s.saySuccess finding.text :
      StateM τ Unit)
  match result with
  | .error e => throw e.chain
  | .ok () =>
    let drifted := findings.countP Finding.isDrift
    if drifted > 0 then
      throw [toString drifted ++ " struct(s) do not match the schema"]

theorem tellFindings_gives (findings : List Finding) :
    files.Gives watched (ε := Failure) (findings.forM fun finding =>
      (if finding.isDrift then s.sayWarning finding.text else s.saySuccess finding.text :
        StateM τ Unit)) t () := by
  refine .forM fun finding _ t' => .lift fun _ _ => ?_
  split
  · exact files.print_leaves
  · exact files.print_leaves

theorem check_eq {options : CheckOptions} {database path : String}
    (htargets : s.Targets options.database options.schema database path) :
    (s.check options : ExceptT Failure (StateM τ) Unit) = (do
      let schema ← (s.withOptions options.database).loadSchema options.schema
      let selected ← select schema options.only
      let db ← (s.withOptions options.database).loadDatabase
      (s.withOptions options.database).finishCheck selected db) := by
  unfold check
  rw [htargets.withDatabase]
  rfl

theorem check_selected_leadsTo (h : s.Unlogged files watched) {options : CheckOptions}
    {database path text : String} {schema : Schema} {selected : List StructSchema} {db : Database}
    (htargets : s.Targets options.database options.schema database path)
    (hselect : select schema options.only = .ok selected) (hdatabase : database ∈ watched)
    (htext : files.content t path = some (.ok text)) (hschema : Schema.load text = .ok schema)
    (hstored : (s.withOptions options.database).Loads files t db) :
    files.LeadsTo watched (s.check options) t
      ((s.withOptions options.database).finishCheck selected db) := by
  have hwatched : (s.withOptions options.database).config.database ∈ watched :=
    htargets.database ▸ hdatabase
  have hs : (s.withOptions options.database).Unlogged files watched := h
  rw [check_eq htargets]
  exact reading_leadsTo hs htargets.schema htext hschema hselect hwatched hstored _

theorem check_gives (h : s.Unlogged files watched) {options : CheckOptions}
    {database path text stored : String} {schema : Schema} {db : Database}
    (htargets : s.Targets options.database options.schema database path)
    (hwhole : options.only = []) (hdatabase : database ∈ watched)
    (htext : files.content t path = some (.ok text)) (hschema : Schema.load text = .ok schema)
    (hstored : files.content t database = some (.ok stored)) (hload : Database.load stored = .ok db)
    (hchecked : (checkAll db schema.structs).value =
      (schema.structs.map Finding.agreeing, .ok ())) :
    files.Gives watched (s.check options) t () := by
  have hs : (s.withOptions options.database).Unlogged files watched := h
  have hselect : select schema options.only = .ok schema.structs := by
    rw [hwhole]
    rfl
  have hloads : (s.withOptions options.database).Loads files t db :=
    .inr ⟨stored, htargets.database ▸ hstored, hload⟩
  obtain ⟨t₁, hsame, hplay⟩ := check_selected_leadsTo h htargets hselect hdatabase htext hschema
    hloads
  have hgives : files.Gives watched
      ((s.withOptions options.database).finishCheck schema.structs db) t₁ () := by
    refine .bind (emit_gives hs (checkAll db schema.structs)) fun t₂ _ => ?_
    rw [hchecked]
    dsimp only
    rw [countP_isDrift_agreeing]
    exact .bind (tellFindings_gives _) fun _ _ => .pure ()
  obtain ⟨t₂, hfinish, hsame'⟩ := hgives
  exact ⟨t₂, hplay.trans hfinish, hsame.trans hsame'⟩

theorem finishCheck_ok_iff (files : Files τ) {structs : List StructSchema} {db : Database} :
    (play (s.finishCheck structs db) t).1 = .ok () ↔ ∀ entry ∈ structs, entry.InStep db := by
  rw [← checkAll_clean_iff]
  have hs : s.Unlogged files [] := nofun
  obtain ⟨t₁, hemit, -⟩ := emit_gives (ε := Failure) (t := t) hs (checkAll db structs)
  unfold finishCheck
  rw [play_bind, hemit]
  rcases (checkAll db structs).value with ⟨findings, result⟩
  dsimp only
  have htold : files.Gives [] (findings.forM fun finding =>
      (if finding.isDrift then s.sayWarning finding.text else s.saySuccess finding.text :
        StateM τ Unit) : ExceptT Failure (StateM τ) Unit) t₁ () := tellFindings_gives findings
  obtain ⟨t₂, hprint, -⟩ := htold
  rw [play_bind, hprint]
  dsimp only
  cases result with
  | error e => exact ⟨nofun, fun h => nomatch h.1⟩
  | ok _ =>
    dsimp only
    by_cases hcount : findings.countP Finding.isDrift > 0
    · rw [if_pos hcount]
      refine ⟨nofun, fun h => ?_⟩
      rw [h.2] at hcount
      exact absurd hcount (Nat.lt_irrefl 0)
    · rw [if_neg hcount]
      exact ⟨fun _ => ⟨rfl, Nat.eq_zero_of_not_pos hcount⟩, fun _ => rfl⟩

end Setting

end StructSync
