import Mathlib
import StructSync.Proofs.Database.Loaded
import StructSync.Proofs.Told
import StructSync.Proofs.Twice

/-!
# Check and sync agree

A check compares every selected struct with one database; a sync goes through the same structs with
a database that may change under way, and stops at the first that cannot be brought in step. Main
statement (`Setting.check_agrees`): over the same files and the same selection the check succeeds
exactly if the sync tells of every struct that it is accepted, whatever the policy of the sync, and
then the database that the sync saves is loaded as the one it has loaded.
-/

namespace StructSync

/-! ### Selections -/

namespace Schema

variable {schema : Schema} {names : List String} {structs : List StructSchema}

theorem mem_of_select (h : schema.select names = .ok structs) :
    ∀ name ∈ names, ∃ entry ∈ schema.structs, entry.name = name := by
  unfold select at h
  split at h
  · next hempty => simp [List.isEmpty_iff.1 hempty]
  · clear * - h
    induction names generalizing structs with
    | nil => simp
    | cons name rest ih =>
      rw [List.mapM_cons] at h
      obtain ⟨entry, hentry, h⟩ := bind_eq_ok.1 h
      obtain ⟨others, hrest, -⟩ := bind_eq_ok.1 h
      refine List.forall_mem_cons.2 ⟨?_, ih hrest⟩
      cases hget : schema.get? name with
      | none =>
        rw [hget] at hentry
        cases hentry
      | some found =>
        exact ⟨found, List.mem_of_find?_eq_some hget, by simpa using List.find?_some hget⟩

end Schema

namespace Setting

open Machine (Files)

variable {τ : Type} [Machine (StateM τ)] {database path text : String} {schema : Schema}
  {selected : List StructSchema} {db : Database} {s : Setting} {options : SyncOptions} {t : τ}

theorem select_eq_ok {names : List String} :
    select schema names = .ok selected ↔ schema.select names = .ok selected := by
  unfold select
  cases schema.select names <;> simp [Except.mapError]

theorem fault?_of_select (hschema : Schema.load text = .ok schema)
    (hselect : select schema options.only = .ok selected) : options.fault? = none := by
  unfold SyncOptions.fault?
  rw [if_neg]
  intro hany
  obtain ⟨name, hname, hblank⟩ := List.any_eq_true.1 hany
  obtain ⟨entry, hentry, rfl⟩ := Schema.mem_of_select (select_eq_ok.1 hselect) name hname
  have hfilled := Schema.isBlankText_of_nameFault? (Schema.nameFault?_of_load hschema) entry hentry
  exact absurd (hblank.symm.trans hfilled) nofun

/-! ### Both commands over the same files -/

/-- What a sync tells of the structs, one by one. -/
def told (s : Setting) (structs : List StructSchema) (db : Database) (t : τ) : List Told :=
  toldAll s.confirmer s.tellOutcome structs db t

/-- The check over the files and the selection of a sync. -/
def checking (options : SyncOptions) : CheckOptions :=
  ⟨options.schema, options.database, options.only⟩

variable {files : Files τ}

theorem load_text_of_loads (h : s.Loads files t db) :
    Database.load (db.json.text .pretty) = .ok db := by
  rcases h with ⟨-, rfl⟩ | ⟨stored, -, hload⟩
  · exact (Database.Sound.empty _).load_text .pretty
  · exact Database.load_text_of_load hload .pretty

theorem check_ok_iff (hlog : s.Unlogged files [database])
    (htargets : s.Targets options.database options.schema database path)
    (htext : files.content t path = some (.ok text)) (hschema : Schema.load text = .ok schema)
    (hstored : (s.withOptions options.database).Loads files t db) :
    (play (s.check (checking options)) t).1 = .ok () ↔
      ∃ selected, select schema options.only = .ok selected ∧
        ∀ entry ∈ selected, entry.InStep db := by
  have htargets' : s.Targets (checking options).database (checking options).schema database path :=
    htargets
  cases hselect : select schema options.only with
  | error failure =>
    have hgives : files.Gives [database] ((s.withOptions (checking options).database).loadSchema
        (checking options).schema) t schema := loadSchema_gives htargets.schema htext hschema
    obtain ⟨t₁, hload, -⟩ := hgives
    have hnames : select schema (checking options).only = .error failure := hselect
    have hfails : play (s.check (checking options)) t = (.error failure, t₁) := by
      rw [check_eq htargets', play_bind, hload]
      dsimp only
      rw [hnames]
      rfl
    rw [hfails]
    exact ⟨nofun, fun ⟨_, hselected, _⟩ => nomatch hselected⟩
  | ok selected =>
    obtain ⟨t₁, -, hplay⟩ :=
      check_selected_leadsTo hlog htargets' hselect (by simp) htext hschema hstored
    rw [hplay, finishCheck_ok_iff files]
    constructor
    · intro h
      exact ⟨selected, rfl, h⟩
    · rintro ⟨found, hfound, h⟩
      cases hfound
      exact h

theorem sync_inStep (hlog : s.Unlogged files [database])
    (htargets : s.Targets options.database options.schema database path)
    (htext : files.content t path = some (.ok text)) (hschema : Schema.load text = .ok schema)
    (hstored : (s.withOptions options.database).Loads files t db)
    (hselect : select schema options.only = .ok selected)
    (hstep : ∀ entry ∈ selected, entry.InStep db) :
    (∃ t' saved, play (s.sync options) t = (.ok (), t') ∧
      files.content t' database = some (.ok saved) ∧ Database.load saved = .ok db) ∨
    ∃ fault t', play (s.sync options) t =
      (.error (("saving database " ++ database) :: (HostError.file fault).chain), t') := by
  have hlog' : (s.syncing options).Unlogged files [database] := hlog
  have hdatabase : (s.syncing options).config.database = database := htargets.database
  obtain ⟨t₁, -, hplay⟩ := sync_selected_leadsTo hlog htargets (fault?_of_select hschema hselect)
    hselect (by simp) htext hschema hstored
  obtain ⟨t₂, -, hplay'⟩ := finishSync_accepted (t := t₁) hlog' (acceptsAll_inStep hstep)
  rw [hplay, hplay']
  have hsave := saveDatabase_cases (t := t₂) hlog' db (by simp [hdatabase])
  rw [hdatabase] at hsave
  rcases hsave with ⟨t₃, hsaved, hthere, -⟩ | hfailed
  · exact .inl ⟨t₃, _, hsaved, hthere, load_text_of_loads hstored⟩
  · exact .inr hfailed

/-- A check succeeds exactly if the sync of the same selection tells of every struct that it is
accepted, from the state `t₁` in which it has read its files. Then the sync saves a text that is
loaded as the database it has read, unless writing fails. -/
theorem check_agrees (hlog : s.Unlogged files [database])
    (htargets : s.Targets options.database options.schema database path)
    (htext : files.content t path = some (.ok text)) (hschema : Schema.load text = .ok schema)
    (hstored : (s.withOptions options.database).Loads files t db) :
    ∃ t₁, files.Same [database] t t₁ ∧
      (∀ selected, select schema options.only = .ok selected →
        play (s.sync options) t = play ((s.syncing options).finishSync selected db) t₁) ∧
      ((play (s.check (checking options)) t).1 = .ok () ↔
        ∃ selected, select schema options.only = .ok selected ∧
          AllAccepted ((s.syncing options).told selected db t₁) selected) ∧
      ((play (s.check (checking options)) t).1 = .ok () →
        (∃ t' saved, play (s.sync options) t = (.ok (), t') ∧
          files.content t' database = some (.ok saved) ∧ Database.load saved = .ok db) ∨
        ∃ fault t', play (s.sync options) t =
          (.error (("saving database " ++ database) :: (HostError.file fault).chain), t')) := by
  have hcheck := check_ok_iff hlog htargets htext hschema hstored
  have haccepted (selected : List StructSchema) (t₁ : τ) :
      AllAccepted ((s.syncing options).told selected db t₁) selected ↔
        ∀ entry ∈ selected, entry.InStep db := toldAll_accepted_iff
  -- the state in which the sync has read its files depends on what is selected
  obtain ⟨t₁, hsame, hsync⟩ : ∃ t₁, files.Same [database] t t₁ ∧
      ∀ selected, select schema options.only = .ok selected →
        play (s.sync options) t = play ((s.syncing options).finishSync selected db) t₁ := by
    cases hselect : select schema options.only with
    | error failure => exact ⟨t, fun _ _ => rfl, nofun⟩
    | ok selected =>
      obtain ⟨t₁, hsame, hplay⟩ := sync_selected_leadsTo hlog htargets
        (fault?_of_select hschema hselect) hselect (by simp) htext hschema hstored
      refine ⟨t₁, hsame, fun found hfound => ?_⟩
      cases hfound
      exact hplay
  refine ⟨t₁, hsame, hsync, ?_, ?_⟩
  · rw [hcheck]
    exact exists_congr fun selected => and_congr_right fun _ => (haccepted selected t₁).symm
  · intro hok
    obtain ⟨selected, hselect, hstep⟩ := hcheck.1 hok
    exact sync_inStep hlog htargets htext hschema hstored hselect hstep

/-- A database that no requests have made: its only struct has the id of its member. -/
def plotted : Database where
  pointerSize := 8
  nextId := 0
  structs := ⟨[(1, ⟨⟨1⟩, "point", [⟨⟨1⟩, "x", 0, 4, ⟨0⟩, none⟩]⟩)], by decide⟩
  journal := []

theorem plotted_ranged : plotted.Ranged := by
  intro s hs
  obtain rfl : s = ⟨⟨1⟩, "point", [⟨⟨1⟩, "x", 0, 4, ⟨0⟩, none⟩]⟩ := by
    simpa [plotted, WordMap.values] using hs
  refine ⟨fun m hm => ?_, List.pairwise_singleton _ _⟩
  obtain rfl := List.mem_singleton.1 hm
  exact ⟨by decide, by decide⟩

/-- A shelf with this database and the schema of a drawing, of which it has only the points. -/
def slate : Shelf :=
  ⟨[("types.json", plotted.json.text .pretty), ("schema.json", drawing.json.text .compact)]⟩

/-- Only the points are asked for, and nothing may be replaced. -/
def plotting : SyncOptions := ⟨some "schema.json", ⟨none, none⟩, ["point"], false, true⟩

theorem check_agrees_slate :
    Database.load (plotted.json.text .pretty) = .ok plotted ∧ ¬plotted.Sound ∧
      (play (quiet.check (checking plotting)) slate).1 = .ok () ∧
      ∃ (selected : List StructSchema) (t : Shelf), select drawing ["point"] = .ok selected ∧
        play (quiet.sync plotting) slate =
          play ((quiet.syncing plotting).finishSync selected plotted) t ∧
        AllAccepted ((quiet.syncing plotting).told selected plotted t) selected := by
  have hload : Database.load (plotted.json.text .pretty) = .ok plotted :=
    plotted_ranged.load_text .pretty
  have hunsound : ¬plotted.Sound := by
    intro h
    have hget : plotted.structs.get? 1 =
        some ⟨⟨1⟩, "point", [⟨⟨1⟩, "x", 0, 4, ⟨0⟩, none⟩]⟩ := by decide
    exact absurd (h.lt_next hget) (by decide)
  have hunlogged : quiet.Unlogged Shelf.files ["types.json"] := fun _ _ _ => nofun
  have hstored : Shelf.files.content slate "types.json" =
      some (.ok (plotted.json.text .pretty)) := by
    simp [slate, Shelf.files, Shelf.text?]
  have htext : Shelf.files.content slate "schema.json" =
      some (.ok (drawing.json.text .compact)) := by
    simp [slate, Shelf.files, Shelf.text?, List.lookup_cons]
  have htargets : quiet.Targets plotting.database plotting.schema "types.json" "schema.json" :=
    ⟨by decide, rfl, rfl⟩
  have hloads : (quiet.withOptions plotting.database).Loads Shelf.files slate plotted :=
    .inr ⟨_, hstored, hload⟩
  have hstep : StructSchema.InStep ⟨"point", [.named "x" "int"]⟩ plotted :=
    inStep_of_checkOne
      (show (checkOne plotted _).value = .ok (.compared ⟨"point", []⟩) by decide +kernel) rfl
  have hcheck : (play (quiet.check (checking plotting)) slate).1 = .ok () := by
    refine (check_ok_iff hunlogged htargets htext drawing_load hloads).2 ⟨_, rfl, ?_⟩
    simpa using hstep
  obtain ⟨t, -, hsync, hiff, -⟩ := check_agrees hunlogged htargets htext drawing_load hloads
  obtain ⟨selected, hselect, haccepted⟩ := hiff.1 hcheck
  exact ⟨hload, hunsound, hcheck, selected, t, hselect, hsync selected hselect, haccepted⟩

end Setting

end StructSync
