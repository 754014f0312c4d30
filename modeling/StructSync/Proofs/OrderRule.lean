import Mathlib
import StructSync.Proofs.AllOrNothing

/-!
# What a struct may embed

A schema is synced in its order, and the names in it are those of the database of the moment. No
build makes a struct under another name than its own (`Descriptor.build_free`), so what a struct
embeds was stored from the start or is declared before it (`Stepwise.embedded_before`). Main
statement (`sync_refuses`): a sync of a schema in which a struct embeds itself or a later one fails,
unless the database has that one already.
-/

namespace StructSync

namespace Database

variable {db after : Database} {name : String} {k : UInt64} {s : StoredStruct}

/-! ### Names that stay free -/

theorem free_insert (hfree : db.findByName? name = none) (hs : s.name ≠ name)
    (hstructs : after.structs = db.structs.insert k s) : after.findByName? name = none := by
  refine findByName?_eq_none.2 fun l t ht => ?_
  rw [hstructs, WordMap.get?_insert] at ht
  split at ht
  · cases ht
    exact hs
  · exact findByName?_eq_none.1 hfree l t ht

theorem free_erase (hfree : db.findByName? name = none)
    (hstructs : after.structs = db.structs.erase k) : after.findByName? name = none := by
  refine findByName?_eq_none.2 fun l t ht => ?_
  rw [hstructs, WordMap.get?_erase] at ht
  split at ht
  · cases ht
  · exact findByName?_eq_none.1 hfree l t ht

theorem free_perform (r : Request) (hfree : db.findByName? name = none)
    (hr : ∀ made ∈ r.creates?, made ≠ name) : (r.perform db).findByName? name = none := by
  rcases perform_cases r db with heq | hcase
  · rw [heq]
    exact hfree
  have hstored := findByName?_eq_none.1 hfree
  cases r with
  | createStruct made =>
    obtain ⟨id, hdb⟩ := hcase
    obtain ⟨-, -, hdb⟩ := createStruct_eq_ok.1 hdb
    exact free_insert hfree (hr made rfl) (congrArg structs hdb)
  | deleteStruct id => exact free_erase hfree (congrArg structs (deleteStruct_eq_ok.1 hcase).2)
  | createMember id member offset size flags =>
    obtain ⟨member, hdb⟩ := hcase
    obtain ⟨s, hs, -, -, hdb⟩ := createMember_eq_ok.1 hdb
    refine free_insert hfree ?_ (congrArg structs hdb)
    exact hstored _ s hs
  | setMemberType id member offset type =>
    obtain ⟨s, -, hs, -, -, -, hdb⟩ := setMemberType_eq_ok.1 hcase
    refine free_insert hfree ?_ (congrArg structs hdb)
    exact hstored _ s hs

theorem free_performAll {requests : List Request} (hfree : db.findByName? name = none)
    (hrequests : ∀ r ∈ requests, ∀ made ∈ r.creates?, made ≠ name) :
    (Request.performAll requests db).findByName? name = none := by
  induction requests generalizing db with
  | nil => exact hfree
  | cons r rest ih =>
    obtain ⟨hr, hrest⟩ := List.forall_mem_cons.1 hrequests
    exact ih (free_perform r hfree hr) hrest

end Database

namespace Descriptor

variable {db : Database} {name : String} {entry : StructSchema}

theorem build_free (confirm : Confirmer Id) (hfree : db.findByName? name = none)
    (hname : entry.name ≠ name) :
    (Id.run (build confirm entry.name entry.fields db)).value.2.findByName? name = none := by
  obtain ⟨requests, hrequests, -, hnames⟩ := build_requests confirm entry.name entry.fields db
  rw [hrequests]
  exact Database.free_performAll hfree fun r hr made hmade => hnames r hr made hmade ▸ hname

/-- What is built embeds only what is stored. -/
theorem build_embeds {confirm : Confirmer Id} {built : Descriptor × Outcome} {after : Database}
    (hbuild : (Id.run (build confirm entry.name entry.fields db)).value = (.ok built, after))
    (hname : name ∈ entry.embedded) : (db.findByName? name).isSome := by
  rw [Call.value_build] at hbuild
  rcases hparse : ((ofName entry.name).parse db entry.fields).value with ⟨e | _, d⟩
  · rw [hparse] at hbuild
    cases hbuild
  · obtain ⟨field, hfield, hembedded⟩ := List.mem_filterMap.1 hname
    obtain ⟨text, type, htext, htype⟩ := parse_types hparse field hfield
    rw [htext, Option.bind_some] at hembedded
    have hsize := parseDeclaration_embeds hembedded (Database.parseType_eq_ok.1 htype)
    rwa [show db.scope.structSize? name = (db.findByName? name).map (·.size) from rfl,
      Option.isSome_map] at hsize

end Descriptor

/-- What a struct embeds was stored before all steps, or is built in a step before it. -/
theorem Stepwise.embedded_before {τ : Type} {confirm : Confirmer (StateM τ)}
    {tell : StructSchema → Logged (Except SyncError (Descriptor × Outcome)) → StateM τ Unit}
    {before rest : List StructSchema} {entry : StructSchema} {first last : Database × τ}
    {name : String} (h : Stepwise confirm tell (before ++ entry :: rest) first last)
    (hname : name ∈ entry.embedded) (hfree : first.1.findByName? name = none) :
    name ∈ before.map (·.name) := by
  induction before generalizing first with
  | nil =>
    obtain ⟨answers, built, next, hbuild, -⟩ := h.cons_inv
    have hstored := Descriptor.build_embeds hbuild hname
    rw [hfree] at hstored
    cases hstored
  | cons other before ih =>
    obtain ⟨answers, built, next, hbuild, hrest⟩ := h.cons_inv
    by_cases hother : other.name = name
    · exact List.mem_cons.2 (.inl hother.symm)
    · have hnext := Descriptor.build_free answers hfree hother
      rw [hbuild] at hnext
      exact List.mem_cons_of_mem _ (ih hrest hnext)

namespace Setting

open Machine (Files)

/-- A schema with a struct that stands inside itself. -/
def endless : Schema := ⟨[⟨"node", [.named "inner" "node"]⟩]⟩

/-- A database with a struct of its name, of four bytes. -/
def kernel : Database :=
  Request.performAll [.createStruct "node", .createMember ⟨Database.firstId⟩ "inner" 0 4 .data]
    (.empty 8)

theorem kernel_reachable : kernel.Reachable :=
  .performAll (.empty 8) (by unfold Database.Spare; decide)

/-- A shelf with both. -/
def nest : Shelf :=
  ⟨[("types.json", kernel.json.text .compact), ("schema.json", endless.json.text .compact)]⟩

theorem endless_load : Schema.load (endless.json.text .compact) = .ok endless := by
  have hnamed : endless.WellNamed := Schema.wellNamed_iff.2 (by decide)
  exact hnamed.load_text .compact

/-- The sync of a whole schema, which replaces what is in the way. -/
def wholesale : SyncOptions := ⟨some "schema.json", ⟨none, none⟩, [], true, false⟩

/-- The struct that embeds itself is accepted as it is stored. -/
theorem sync_embeds_itself :
    (∃ entry ∈ endless.structs, entry.name ∈ entry.embedded) ∧
      Schema.load (endless.json.text .compact) = .ok endless ∧
      (play (quiet.sync wholesale) nest).1 = .ok () := by
  have hschema : Shelf.files.content nest "schema.json" =
      some (.ok (endless.json.text .compact)) := by
    simp [nest, Shelf.files, Shelf.text?, List.lookup_cons]
  have hstored : Shelf.files.content nest "types.json" =
      some (.ok (kernel.json.text .compact)) := by
    simp [nest, Shelf.files, Shelf.text?]
  have htargets : quiet.Targets ⟨none, none⟩ (some "schema.json") "types.json" "schema.json" :=
    ⟨by decide, rfl, rfl⟩
  have hloads : (quiet.withOptions ⟨none, none⟩).Loads Shelf.files nest kernel.clearJournal :=
    .inr ⟨_, hstored, kernel_reachable.sound.load_text .compact⟩
  refine ⟨by decide +kernel, endless_load, ?_⟩
  refine (congrArg Prod.fst
    (play_quiet_sync htargets rfl rfl hschema endless_load hloads)).trans ?_
  decide +kernel

variable {τ : Type} [Machine (StateM τ)]

/-- A sync of a whole schema in which a struct embeds itself or a later one fails, unless the
database stores that one from the start. -/
theorem sync_refuses (files : Files τ) {s : Setting} {options : SyncOptions} {t : τ}
    (hwhole : options.only = []) {path text : String}
    (hpath : (options.schema <|> s.config.schema) = some path)
    (htext : ((Machine.readFile path : StateM τ _).run t).1 = .ok text) {schema : Schema}
    (hschema : Schema.load text = .ok schema) {before rest : List StructSchema}
    {entry : StructSchema} (hstructs : schema.structs = before ++ entry :: rest) {name : String}
    (hname : name ∈ entry.embedded) (hahead : name ∈ (entry :: rest).map (·.name))
    (hfree : ∀ db, (s.syncing options).Loads files t db → db.findByName? name = none) :
    ∃ failure, (play (s.sync options) t).1 = .error failure := by
  cases hsync : (play (s.sync options) t).1 with
  | error failure => exact ⟨failure, rfl⟩
  | ok _ =>
    obtain ⟨last, hreaches⟩ := reaches_of_sync files hsync
    obtain ⟨selected, db, t₁, hselect, hloads, hsteps⟩ := hreaches.steps hpath htext hschema
    obtain rfl : schema.structs = selected := by
      rw [hwhole] at hselect
      exact Except.ok.inj hselect
    rw [hstructs] at hsteps
    have hbefore := hsteps.embedded_before hname (hfree db hloads)
    -- but the names of a schema differ
    obtain ⟨hnames, -⟩ := Schema.nameFault?_eq_none (Schema.nameFault?_of_load hschema)
    rw [hstructs, List.map_append] at hnames
    exact absurd rfl ((List.nodup_append.1 hnames).2.2 name hbefore name hahead)

/-- Where nothing is stored the struct that stands inside itself is refused. -/
theorem sync_refuses_endless :
    let bare : Shelf := ⟨[("schema.json", endless.json.text .compact)]⟩
    (∃ entry ∈ endless.structs, entry.name ∈ entry.embedded) ∧
      ∃ failure, (play (quiet.sync wholesale) bare).1 = .error failure := by
  intro bare
  refine ⟨by decide +kernel, ?_⟩
  have hembeds : "node" ∈ (⟨"node", [.named "inner" "node"]⟩ : StructSchema).embedded := by
    decide +kernel
  refine sync_refuses Shelf.files rfl rfl ?_ endless_load
    (show endless.structs = [] ++ ⟨"node", [.named "inner" "node"]⟩ :: [] from rfl) hembeds
    (by decide) ?_
  · rfl
  · have hnone : Shelf.files.content bare "types.json" = none := by decide +kernel
    rintro db (⟨-, rfl⟩ | ⟨text, htext, -⟩)
    · decide
    · cases hnone.symm.trans htext

end Setting

end StructSync
