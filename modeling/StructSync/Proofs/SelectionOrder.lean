import Mathlib
import StructSync.Proofs.Agreement
import StructSync.Proofs.AllOrNothing
import StructSync.Proofs.Reordering

/-!
# The order in which structs are selected

A sync of selected structs builds them in the order of the names that select them, so it depends on
that order: a struct cannot be built before one that it refers to (`selection_order_matters`). Main
statement (`sync_reordered`): two orders of the same names, with a yes to every question, both fail
or both save the same contents, ids aside, if they agree on the order of any two structs of which
one refers to the other.
-/

namespace StructSync

/-! ### Selections -/

namespace Schema

variable {schema : Schema} {names others : List String} {structs : List StructSchema}

theorem mapM_get?_eq_ok :
    (names.mapM fun name => match schema.get? name with
      | some s => Except.ok s
      | none => .error name) = .ok structs ↔
      (∀ name ∈ names, (schema.get? name).isSome) ∧ structs = names.filterMap schema.get? := by
  induction names generalizing structs with
  | nil =>
    show Except.ok [] = Except.ok structs ↔ _
    rw [Except.ok.injEq]
    exact ⟨fun h => ⟨nofun, h.symm⟩, fun h => h.2.symm⟩
  | cons name rest ih =>
    rw [List.mapM_cons, List.forall_mem_cons]
    cases hget : schema.get? name with
    | none => exact ⟨nofun, fun h => nomatch h.1.1⟩
    | some entry =>
      rw [List.filterMap_cons_some hget]
      constructor
      · intro h
        obtain ⟨_, hentry, h⟩ := bind_eq_ok.1 h
        obtain ⟨others, hothers, h⟩ := bind_eq_ok.1 h
        obtain ⟨hrest, rfl⟩ := ih.1 hothers
        cases hentry
        cases h
        exact ⟨⟨rfl, hrest⟩, rfl⟩
      · rintro ⟨⟨-, hrest⟩, rfl⟩
        rw [ih.2 ⟨hrest, rfl⟩]
        rfl

theorem select_eq_ok_iff (hnames : names ≠ []) :
    schema.select names = .ok structs ↔
      (∀ name ∈ names, (schema.get? name).isSome) ∧ structs = names.filterMap schema.get? := by
  unfold select
  rw [if_neg (by simpa using hnames)]
  exact mapM_get?_eq_ok

theorem get?_eq_some {entry : StructSchema} {name : String} (h : schema.get? name = some entry) :
    entry ∈ schema.structs ∧ entry.name = name :=
  ⟨List.mem_of_find?_eq_some h, by simpa using List.find?_some h⟩

theorem map_name_filterMap (h : ∀ name ∈ names, (schema.get? name).isSome) :
    (names.filterMap schema.get?).map (·.name) = names := by
  induction names with
  | nil => rfl
  | cons name rest ih =>
    obtain ⟨hname, hrest⟩ := List.forall_mem_cons.1 h
    obtain ⟨entry, hget⟩ := Option.isSome_iff_exists.1 hname
    rw [List.filterMap_cons_some hget, List.map_cons, ih hrest, (get?_eq_some hget).2]

theorem select_perm (hperm : names.Perm others) (hselect : schema.select names = .ok structs) :
    ∃ structs', schema.select others = .ok structs' ∧ structs.Perm structs' := by
  by_cases hnames : names = []
  · subst hnames
    obtain rfl := hperm.nil_eq
    exact ⟨structs, hselect, .refl _⟩
  · have hothers : others ≠ [] := fun hempty => hnames (by simpa [hempty] using hperm)
    obtain ⟨hall, rfl⟩ := (select_eq_ok_iff hnames).1 hselect
    exact ⟨_, (select_eq_ok_iff hothers).2 ⟨fun name hname => hall name (hperm.mem_iff.2 hname), rfl⟩,
      hperm.filterMap _⟩

/-- The same names in another order bring the same about, as far as they agree on the order of any
two structs of which one refers to the other. -/
theorem bringAll?_select {db : Database} {structs' : List StructSchema}
    (hselect : schema.select names = .ok structs) (hselect' : schema.select others = .ok structs')
    (hdistinct : names.Nodup) (hperm : names.Perm others) (hdb : db.Sound)
    (hspare : db.Spare (idsOf (names.filterMap schema.get?)))
    (horder : ∀ a ∈ schema.structs, ∀ b ∈ schema.structs, a.Refers b db →
      ([a.name, b.name].Sublist names ↔ [a.name, b.name].Sublist others)) :
    Option.Rel Database.SameContents (bringAll? structs db) (bringAll? structs' db) := by
  by_cases hnames : names = []
  · subst hnames
    obtain rfl := hperm.nil_eq
    obtain rfl := Except.ok.inj (hselect.symm.trans hselect')
    cases bringAll? structs db with
    | none => exact .none
    | some after => exact .some (.refl after)
  · have hothers : others ≠ [] := fun hempty => hnames (by simpa [hempty] using hperm)
    obtain ⟨hall, rfl⟩ := (select_eq_ok_iff hnames).1 hselect
    obtain ⟨hall', rfl⟩ := (select_eq_ok_iff hothers).1 hselect'
    have hmem : ∀ entry ∈ names.filterMap schema.get?, entry ∈ schema.structs := by
      intro entry hentry
      obtain ⟨name, -, hget⟩ := List.mem_filterMap.1 hentry
      exact (get?_eq_some hget).1
    have halike := bringAll?_perm (n := 0) (hperm.filterMap schema.get?)
      (by rwa [map_name_filterMap hall]) hdb hspare fun a ha b hb hrefers => by
        rw [map_name_filterMap hall, map_name_filterMap hall']
        exact horder a (hmem a ha) b (hmem b hb) hrefers
    exact halike.sameContents

end Schema

namespace Setting

open Machine (Files)

variable {τ : Type} [Machine (StateM τ)] {files : Files τ} {database path text : String}
  {schema : Schema} {selected : List StructSchema} {db : Database} {s : Setting}
  {options : SyncOptions} {t : τ}

/-- What was played has succeeded and left the database in the file. -/
def Saves (files : Files τ) (path : String) (played : Except Failure Unit × τ) (after : Database) :
    Prop :=
  played.1 = .ok () ∧ ∃ saved, files.content played.2 path = some (.ok saved) ∧
    Database.load saved = .ok after

theorem confirmer_of_yes (hyes : options.yes = true) :
    ((s.syncing options).confirmer : Confirmer (StateM τ)) = Confirmer.fixed .yes := by
  unfold confirmer syncing overwritePolicy
  rw [hyes]
  rfl

theorem sync_brings (hlog : s.Unlogged files [database])
    (htargets : s.Targets options.database options.schema database path)
    (hyes : options.yes = true) (htext : files.content t path = some (.ok text))
    (hschema : Schema.load text = .ok schema)
    (hselect : schema.select options.only = .ok selected)
    (hstored : (s.withOptions options.database).Loads files t db) :
    (∃ after t₁, bringAll? selected db = some after ∧ after.Ranged ∧
      play (s.sync options) t = play ((s.syncing options).saveDatabase after) t₁) ∨
    bringAll? selected db = none ∧ ∃ failure, (play (s.sync options) t).1 = .error failure := by
  obtain ⟨t₁, -, hplay⟩ := sync_selected_leadsTo hlog htargets
    (fault?_of_select hschema (select_eq_ok.2 hselect)) (select_eq_ok.2 hselect)
    (List.mem_singleton_self _) htext hschema hstored
  rw [hplay]
  unfold finishSync
  rw [confirmer_of_yes hyes, play_lift_bind]
  rcases syncAll_fixed (s.syncing options).tellOutcome selected db t₁ with
    ⟨after, t₂, hbring, hsync⟩ | ⟨e, after, t₂, hbring, hsync⟩
  · left
    have hranged : after.Ranged := ((syncAll_ok_iff.1 hsync).obtained (obtained_of_loads hstored)).ranged
    rw [hsync]
    exact ⟨after, t₂, hbring, hranged, rfl⟩
  · right
    rw [hsync]
    exact ⟨hbring, e.chain, rfl⟩

theorem saves_or_fails {played : Except Failure Unit × τ} {t₁ : τ} {after : Database}
    (hlog : s.Unlogged files [database]) (hdatabase : s.config.database = database)
    (hranged : after.Ranged) (hplayed : played = play (s.saveDatabase after) t₁) :
    Saves files database played after.clearJournal ∨
    ∃ fault, ((Machine.writeFile database (after.json.text .pretty) : StateM τ _).run t₁).1 =
        .error fault ∧
      played.1 = .error (("saving database " ++ database) :: (HostError.file fault).chain) := by
  rw [hplayed]
  rcases hrun : (Machine.writeFile database (after.json.text .pretty) : StateM τ _).run t₁ with
    ⟨fault | _, t₂⟩
  · right
    rw [play_saveDatabase, hdatabase, hrun]
    exact ⟨fault, rfl, rfl⟩
  · left
    rcases saveDatabase_cases (t := t₁) hlog after (by simp [hdatabase]) with
      ⟨t₃, hsaved, hthere, -⟩ | ⟨fault, t₃, hfailed⟩
    · rw [hsaved]
      rw [hdatabase] at hthere
      exact ⟨rfl, _, hthere, hranged.load_text .pretty⟩
    · rw [play_saveDatabase, hdatabase, hrun] at hfailed
      cases hfailed

theorem sync_replacing (hlog : s.Unlogged files [database])
    (htargets : s.Targets options.database options.schema database path)
    (hyes : options.yes = true) (htext : files.content t path = some (.ok text))
    (hschema : Schema.load text = .ok schema)
    (hselect : schema.select options.only = .ok selected)
    (hstored : (s.withOptions options.database).Loads files t db)
    (hwrites : ∀ (t : τ) (text : String),
      ((Machine.writeFile database text : StateM τ _).run t).1 = .ok ()) :
    (∃ after, bringAll? selected db = some after ∧
      Saves files database (play (s.sync options) t) after.clearJournal) ∨
    bringAll? selected db = none ∧ ∃ failure, (play (s.sync options) t).1 = .error failure := by
  refine (sync_brings hlog htargets hyes htext hschema hselect hstored).imp_left ?_
  rintro ⟨after, t₁, hbring, hranged, hplay⟩
  rcases saves_or_fails (s := s.syncing options) hlog htargets.database hranged hplay with
    hsaves | ⟨fault, hfault, -⟩
  · exact ⟨after, hbring, hsaves⟩
  · cases hfault.symm.trans (hwrites _ _)

theorem sync_unselected (files : Files τ) (hpath : (options.schema <|> s.config.schema) = some path)
    (htext : files.content t path = some (.ok text)) (hschema : Schema.load text = .ok schema)
    (hselect : ∀ selected, schema.select options.only ≠ .ok selected) :
    (play (s.sync options) t).1 ≠ .ok () := by
  intro hsync
  obtain ⟨last, hreaches⟩ := reaches_of_sync files hsync
  obtain ⟨selected, _, _, hselected, -⟩ :=
    hreaches.steps hpath (files.readFile htext) hschema
  exact hselect selected (select_eq_ok.1 hselected)

/-- What was made by requests and saved is loaded without its journal. -/
theorem loads_stored (hdb : db.Reachable)
    (hstored : files.content t s.config.database = some (.ok (db.json.text .pretty)) ∨
      files.content t s.config.database = none ∧ db = .empty s.config.pointerSize) :
    ∃ loaded, s.Loads files t loaded ∧ loaded.Sound ∧ loaded.nextId = db.nextId ∧
      ∀ name, loaded.findByName? name = db.findByName? name := by
  rcases hstored with hstored | ⟨hnone, hempty⟩
  · exact ⟨db.clearJournal, .inr ⟨_, hstored, hdb.sound.load_text .pretty⟩, hdb.sound.clearJournal,
      rfl, fun _ => rfl⟩
  · exact ⟨db, .inl ⟨hnone, hempty⟩, hdb.sound, rfl, fun _ => rfl⟩

/-- Two orders of the same names, to all of which everybody says yes, both fail or both save the
same contents if they agree on the order of any two structs of which one refers to the other. -/
theorem sync_reordered (hlog : s.Unlogged files [database])
    (htargets : s.Targets options.database options.schema database path)
    (hyes : options.yes = true) (htext : files.content t path = some (.ok text))
    (hschema : Schema.load text = .ok schema) (hdb : db.Reachable)
    (hspare : db.Spare (idsOf (options.only.filterMap schema.get?)))
    (hstored : files.content t database = some (.ok (db.json.text .pretty)) ∨
      files.content t database = none ∧
        db = .empty (s.withOptions options.database).config.pointerSize)
    (hwrites : ∀ (t : τ) (text : String),
      ((Machine.writeFile database text : StateM τ _).run t).1 = .ok ())
    {names : List String} (hdistinct : options.only.Nodup) (hperm : options.only.Perm names)
    (horder : ∀ a ∈ schema.structs, ∀ b ∈ schema.structs, a.Refers b db →
      ([a.name, b.name].Sublist options.only ↔ [a.name, b.name].Sublist names)) :
    let first := play (s.sync options) t
    let second := play (s.sync { options with only := names }) t
    (first.1 = .ok () ↔ second.1 = .ok ()) ∧
      (first.1 = .ok () → ∃ after after', Saves files database first after ∧
        Saves files database second after' ∧ after.SameContents after') := by
  intro first second
  have hstored' : files.content t (s.withOptions options.database).config.database =
        some (.ok (db.json.text .pretty)) ∨
      files.content t (s.withOptions options.database).config.database = none ∧
        db = .empty (s.withOptions options.database).config.pointerSize := by
    rw [htargets.database]
    exact hstored
  obtain ⟨loaded, hloads, hsound, hnext, hfound⟩ := loads_stored hdb hstored'
  cases hselect : schema.select options.only with
  | error name =>
    have hfirst : first.1 ≠ .ok () :=
      sync_unselected files htargets.schema htext hschema (by simp [hselect])
    have hsecond : second.1 ≠ .ok () := by
      refine sync_unselected files htargets.schema htext hschema fun selected hselect' => ?_
      obtain ⟨_, hselected, -⟩ := Schema.select_perm hperm.symm hselect'
      rw [hselect] at hselected
      cases hselected
    exact ⟨iff_of_false hfirst hsecond, fun h => absurd h hfirst⟩
  | ok selected =>
    obtain ⟨selected', hselect', hselected⟩ := Schema.select_perm hperm hselect
    have hrel : Option.Rel Database.SameContents (bringAll? selected loaded)
        (bringAll? selected' loaded) := by
      refine Schema.bringAll?_select hselect hselect' hdistinct hperm hsound
        (hspare.of_next_eq hnext) fun a ha b hb hrefers => horder a ha b hb ?_
      exact hrefers.imp_right fun ⟨hname, hfree⟩ => ⟨hname, (hfound b.name).symm.trans hfree⟩
    have hfirst := sync_replacing hlog htargets hyes htext hschema hselect hloads hwrites
    have hsecond : (∃ after, bringAll? selected' loaded = some after ∧
        Saves files database second after.clearJournal) ∨
        bringAll? selected' loaded = none ∧ ∃ failure, second.1 = .error failure :=
      sync_replacing hlog htargets hyes htext hschema hselect' hloads hwrites
    rcases hfirst with ⟨after, hbring, hsaves⟩ | ⟨hbring, failure, hfailed⟩
    · rcases hsecond with ⟨after', hbring', hsaves'⟩ | ⟨hbring', -⟩
      · rw [hbring, hbring'] at hrel
        cases hrel with
        | some hcontents =>
          exact ⟨iff_of_true hsaves.1 hsaves'.1, fun _ => ⟨_, _, hsaves, hsaves',
            ⟨hcontents.pointerSize, hcontents.contents⟩⟩⟩
      · rw [hbring, hbring'] at hrel
        cases hrel
    · rcases hsecond with ⟨after', hbring', -⟩ | ⟨-, failure', hfailed'⟩
      · rw [hbring, hbring'] at hrel
        cases hrel
      · have hfirst : first.1 ≠ .ok () := fun h => nomatch hfailed.symm.trans h
        have hsecond : second.1 ≠ .ok () := fun h => nomatch hfailed'.symm.trans h
        exact ⟨iff_of_false hfirst hsecond, fun h => absurd h hfirst⟩

/-- Points, lines that embed two of them, and pens that point to one. -/
def sketching : Schema :=
  ⟨[⟨"point", [.named "x" "int"]⟩, ⟨"line", [.named "ends" "point[2]"]⟩,
    ⟨"pen", [.named "at" "point *"]⟩]⟩

/-- A shelf without a database. -/
def studio : Shelf := ⟨[("schema.json", sketching.json.text .compact)]⟩

/-- A sync of some structs, which replaces what is in the way. -/
def wanting (names : List String) : SyncOptions :=
  ⟨some "schema.json", ⟨none, none⟩, names, true, false⟩

theorem sketching_ordered : Schema.Ordered sketching.structs := by
  intro before entry after hstructs
  rcases before with _ | ⟨first, _ | ⟨second, _ | ⟨third, before⟩⟩⟩
  · cases hstructs
    decide +kernel
  · cases hstructs
    decide +kernel
  · cases hstructs
    decide +kernel
  · have hlength := congrArg List.length hstructs
    simp [sketching] at hlength

theorem sketching_load : Schema.load (sketching.json.text .compact) = .ok sketching := by
  have hnamed : sketching.WellNamed := Schema.wellNamed_iff.2 (by decide)
  exact hnamed.load_text .compact

theorem studio_schema : Shelf.files.content studio "schema.json" =
    some (.ok (sketching.json.text .compact)) := by
  simp [studio, Shelf.files, Shelf.text?]

theorem studio_database : Shelf.files.content studio "types.json" = none := by
  simp [studio, Shelf.files, Shelf.text?, List.lookup_cons]

theorem studio_sync_ok_iff {names : List String} {selected : List StructSchema}
    (hselect : sketching.select names = .ok selected) :
    (play (quiet.sync (wanting names)) studio).1 = .ok () ↔
      (bringAll? selected (.empty 8)).isSome := by
  have hlog : quiet.Unlogged Shelf.files ["types.json"] := fun _ _ _ => nofun
  have hloads : (quiet.withOptions (wanting names).database).Loads Shelf.files studio (.empty 8) :=
    .inl ⟨studio_database, rfl⟩
  have htargets : quiet.Targets (wanting names).database (wanting names).schema "types.json"
      "schema.json" := ⟨rfl, rfl, rfl⟩
  rcases sync_replacing hlog htargets rfl studio_schema sketching_load hselect hloads
    fun _ _ => rfl with ⟨after, hbring, hsaves⟩ | ⟨hbring, failure, hfailed⟩
  · rw [hbring]
    exact iff_of_true hsaves.1 rfl
  · rw [hbring, hfailed]
    exact iff_of_false nofun nofun

/-- Neither lines nor pens can be made before points are, although the schema is ordered. -/
theorem selection_order_matters :
    Schema.Ordered sketching.structs ∧
      Schema.load (sketching.json.text .compact) = .ok sketching ∧
      (play (quiet.sync (wanting ["point", "line"])) studio).1 = .ok () ∧
      (play (quiet.sync (wanting ["line", "point"])) studio).1 ≠ .ok () ∧
      (play (quiet.sync (wanting ["point", "pen"])) studio).1 = .ok () ∧
      (play (quiet.sync (wanting ["pen", "point"])) studio).1 ≠ .ok () := by
  refine ⟨sketching_ordered, sketching_load, ?_, ?_, ?_, ?_⟩
  · exact (studio_sync_ok_iff rfl).2 (by decide +kernel)
  · exact mt (studio_sync_ok_iff rfl).1 (by decide +kernel)
  · exact (studio_sync_ok_iff rfl).2 (by decide +kernel)
  · exact mt (studio_sync_ok_iff rfl).1 (by decide +kernel)

/-- Lines and pens may be made in either order. -/
theorem sync_reordered_studio :
    (play (quiet.sync (wanting ["point", "line", "pen"])) studio).1 = .ok () ∧
      ∃ after after',
        Saves Shelf.files "types.json" (play (quiet.sync (wanting ["point", "line", "pen"])) studio)
          after ∧
        Saves Shelf.files "types.json" (play (quiet.sync (wanting ["point", "pen", "line"])) studio)
          after' ∧ after.SameContents after' := by
  have hsync : (play (quiet.sync (wanting ["point", "line", "pen"])) studio).1 = .ok () :=
    (studio_sync_ok_iff rfl).2 (by decide +kernel)
  have hlog : quiet.Unlogged Shelf.files ["types.json"] := fun _ _ _ => nofun
  have hperm : (wanting ["point", "line", "pen"]).only.Perm ["point", "pen", "line"] := by decide
  obtain ⟨-, hsaves⟩ := sync_reordered hlog ⟨by decide, rfl, rfl⟩ rfl studio_schema sketching_load
    (.empty 8) (by unfold Database.Spare; decide +kernel) (.inr ⟨studio_database, rfl⟩)
    (fun _ _ => rfl) (by decide) hperm (by decide +kernel)
  exact ⟨hsync, hsaves hsync⟩

end Setting

end StructSync
