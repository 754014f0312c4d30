import Mathlib
import StructSync.Proofs.Rendering
import StructSync.Proofs.SelectionOrder

/-!
# What a declaration shows

To lay structs out is to build them with a yes to every question on a database that nobody saves
(`LaidOut`). A struct that is built is stored as its descriptor declares it, and what is built later
has another name (`LaidOut.stored`). So the text of each descriptor shows what is stored in the end
under its name (`Database.Shows`). Main statement (`Setting.declare_shows`): the structs of a schema
can be declared exactly if a sync that replaces whatever is in the way can build them, no file is
written, and what is printed are such texts for the database that the sync saves.
-/

namespace StructSync

variable {structs : List StructSchema} {db after : Database} {ds : List Descriptor}

/-! ### Layouts and builds -/

/-- The structs are built in order, with a yes to every question, and give these descriptors. -/
inductive LaidOut : List StructSchema → Database → List Descriptor → Database → Prop
  | nil (db : Database) : LaidOut [] db [] db
  | cons {entry : StructSchema} {rest : List StructSchema} {db middle after : Database}
    {d : Descriptor} {outcome : Outcome} {ds : List Descriptor}
    (hbuild : (Id.run (Descriptor.build (Confirmer.fixed .yes) entry.name entry.fields db)).value =
      (.ok (d, outcome), middle))
    (hrest : LaidOut rest middle ds after) : LaidOut (entry :: rest) db (d :: ds) after

theorem value_layOutAll_cons (entry : StructSchema) (rest : List StructSchema) (db : Database) :
    (layOutAll (entry :: rest) db).value =
      match (Id.run (Descriptor.build (Confirmer.fixed .yes) entry.name entry.fields db)).value with
      | (.error e, _) => ([], .error e)
      | (.ok (d, _), middle) =>
        (d :: (layOutAll rest middle).value.1, (layOutAll rest middle).value.2) := by
  rw [layOutAll, Logged.value_bind]
  rcases hbuilt : Id.run (Descriptor.build (Confirmer.fixed .yes) entry.name entry.fields db) with
    ⟨⟨e | ⟨d, outcome⟩, middle⟩, log⟩
  all_goals
    rw [show Descriptor.build (m := Id) (Confirmer.fixed .yes) entry.name entry.fields db = _
      from hbuilt]
    rfl

theorem layOutAll_cases (structs : List StructSchema) (db : Database) :
    (∃ after ds, bringAll? structs db = some after ∧ LaidOut structs db ds after ∧
      (layOutAll structs db).value = (ds, .ok ())) ∨
    ∃ ds e, bringAll? structs db = none ∧ (layOutAll structs db).value = (ds, .error e) := by
  induction structs generalizing db with
  | nil => exact .inl ⟨db, [], rfl, .nil db, rfl⟩
  | cons entry rest ih =>
    rw [value_layOutAll_cons, bringAll?, List.foldlM_cons]
    unfold StructSchema.bring?
    rcases hbuild : (Id.run (Descriptor.build (Confirmer.fixed .yes) entry.name entry.fields
      db)).value with ⟨e | ⟨d, outcome⟩, middle⟩
    · exact .inr ⟨[], e, rfl, rfl⟩
    · dsimp only
      rcases ih middle with ⟨after, ds, hbring, hlaid, hvalue⟩ | ⟨ds, e, hbring, hvalue⟩
      · exact .inl ⟨after, d :: ds, hbring, .cons hbuild hlaid, by rw [hvalue]⟩
      · exact .inr ⟨d :: ds, e, hbring, by rw [hvalue]⟩

theorem layOutAll_ok_iff :
    (layOutAll structs db).value.2 = .ok () ↔ (bringAll? structs db).isSome := by
  rcases layOutAll_cases structs db with
    ⟨after, ds, hbring, -, hvalue⟩ | ⟨ds, e, hbring, hvalue⟩ <;>
    simp [hbring, hvalue]

theorem syncAll_fixed_ok_iff {τ : Type}
    {tell : StructSchema → Logged (Except SyncError (Descriptor × Outcome)) → StateM τ Unit}
    {t : τ} :
    ((syncAll (Confirmer.fixed .yes) tell structs db).run t).1.1 = .ok () ↔
      (bringAll? structs db).isSome := by
  rcases syncAll_fixed tell structs db t with
    ⟨after, t', hbring, hsync⟩ | ⟨e, after, t', hbring, hsync⟩ <;>
    simp [hbring, hsync]

theorem Descriptor.build_alike {confirm : Confirmer Id} {name : String} {fields : List Field}
    {d parsed : Descriptor} {outcome : Outcome}
    (hparse : ((ofName name).parse db fields).value = (.ok (), parsed))
    (hbuild : (Id.run (build confirm name fields db)).value = (.ok (d, outcome), after)) :
    Call.Alike d parsed := by
  have halike := (Call.materialize confirm).run_alike parsed db
  rw [Call.value_build, hparse] at hbuild
  rcases hrun : (Call.materialize confirm).run parsed db with ⟨⟨e | outcome', d'⟩, after'⟩
  · simp [hrun, Except.map] at hbuild
  · rw [hrun] at halike
    obtain rfl : d' = d := by
      simp only [hrun, Except.map, Prod.mk.injEq, Except.ok.injEq] at hbuild
      exact hbuild.1.1
    exact halike

/-- The line has the offset of the member in hexadecimal, and the member's name in the declaration
of a type that takes up its bytes. -/
def StoredMember.ShownBy (m : StoredMember) (line : String) : Prop :=
  ∃ before after : String,
    line = "  /* 0x" ++ Text.padLeft 2 '0' (Text.hexUpper m.offset.toNat) ++ " */ " ++
      before ++ m.name ++ after ++ ";\n" ∧
    ∃ (db : Database) (type : CType), Host.parseType db (before ++ after) = .ok type ∧
      addClamped m.offset type.size = m.stop

/-- The text has the name and the size of the struct, and a line for each member, in their order. -/
def StoredStruct.ShownBy (s : StoredStruct) (text : String) : Prop :=
  ∃ lines : List String, List.Forall₂ StoredMember.ShownBy s.members lines ∧
    text = "struct " ++ s.name ++ " // sizeof=0x" ++ Text.hexUpper s.size.toNat ++ "\n\x7b\n" ++
      String.join lines ++ "\x7d;\n"

/-- The text shows what is stored under the name of the struct. -/
def Database.Shows (db : Database) (entry : StructSchema) (text : String) : Prop :=
  ∃ s, db.findByName? entry.name = some s ∧ s.ShownBy text

theorem StoredMember.shownBy_line {stored : StoredMember} {m : Member} {db : Database}
    (hparse : Host.parseType db m.type.text = .ok m.type.type) (hrange : stored.range = m.range) :
    stored.ShownBy m.line := by
  obtain ⟨hname, hoffset, hstop⟩ : stored.name = m.name ∧ stored.offset = m.offset ∧
      stored.stop = m.stop := by simpa [StoredMember.range, Member.range] using hrange
  refine ⟨m.type.type.declarator.1, m.type.type.declarator.2, ?_, db, m.type.type, ?_, ?_⟩
  · rw [hname, hoffset, m.line_eq]
  · exact Database.parseType_eq_ok.2
      (CType.parseDeclaration_declarator (Database.parseType_eq_ok.1 hparse))
  · rw [hstop, hoffset]
    exact m.addClamped_eq_stop

theorem StoredStruct.IsDeclared.shownBy {s : StoredStruct} {d : Descriptor} (h : s.IsDeclared d)
    (hresolved : d.layout.Resolved db) : s.ShownBy d.declaration := by
  refine ⟨d.layout.byOffset.map Member.line, ?_, ?_⟩
  · have hranges : List.Forall₂ (fun m stored => m.range = stored.range) d.layout.byOffset
        s.members := by
      refine List.forall₂_map_left_iff.1 (List.forall₂_map_right_iff.1 ?_)
      rw [List.forall₂_eq_eq_eq]
      exact h.ranges.symm
    have hparsed : ∀ m ∈ d.layout.byOffset, Host.parseType db m.type.text = .ok m.type.type :=
      fun m hm => hresolved m (d.layout.byOffset_perm.mem_iff.1 hm)
    refine List.forall₂_map_right_iff.2 (List.Forall₂.flip ?_)
    refine ((List.forall₂_and_left _ _).2 ⟨hparsed, hranges⟩).imp ?_
    exact fun m stored ⟨hparse, hrange⟩ => StoredMember.shownBy_line hparse hrange.symm
  · rw [h.name, h.size]
    rfl

/-- What is built later changes nothing under the name of an earlier struct. -/
theorem LaidOut.stored (h : LaidOut structs db ds after) (hdb : db.Sound)
    (hspare : db.Spare (idsOf structs)) (hnames : (structs.map (·.name)).Nodup) :
    (∀ name ∉ structs.map (·.name), after.findByName? name = db.findByName? name) ∧
      List.Forall₂ after.Shows structs (ds.map Descriptor.declaration) := by
  induction h with
  | nil => exact ⟨fun _ _ => rfl, .nil⟩
  | @cons entry rest db middle after d outcome ds hbuild hrest ih =>
    rw [idsOf_cons] at hspare
    obtain ⟨hfresh, hnames⟩ := List.nodup_cons.1 hnames
    obtain ⟨htouched, parsed, s, hparse, hs, hparsed⟩ :=
      Descriptor.build_touched hdb (hspare.mono (Nat.le_add_right _ _)) hbuild
    have halike := Descriptor.build_alike hparse hbuild
    have hd : s.IsDeclared d := hparsed.alike ⟨halike.1.symm, halike.2.symm⟩
    have hresolved : d.layout.Resolved db := halike.2 ▸ Descriptor.parse_resolved hparse
    obtain ⟨hothers, hshown⟩ := ih htouched.sound (htouched.spare hspare) hnames
    refine ⟨fun name hname => ?_, .cons ⟨s, ?_, hd.shownBy hresolved⟩ hshown⟩
    · obtain ⟨hne, hname⟩ : name ≠ entry.name ∧ name ∉ rest.map (·.name) := by simpa using hname
      exact (hothers name hname).trans (htouched.others hne)
    · exact (hothers entry.name hfresh).trans hs

/-! ### What is printed -/

/-- What a machine has printed, one text behind the other. -/
structure Machine.Screen (τ : Type) [Machine (StateM τ)] where
  shown : τ → String
  print : ∀ (text : String) (t : τ),
    shown ((Machine.print text : StateM τ Unit).run t).2 = shown t ++ text
  /-- Nothing else is shown there. -/
  steady : Machine.Steady shown

/-- A shelf with a page on which all that is printed is written. -/
structure Lectern extends Shelf where
  page : String

namespace Lectern

/-- Works at the shelf. -/
def atShelf {α : Type} (x : StateM Shelf α) : StateM Lectern α := fun lectern =>
  let (a, shelf) := x.run lectern.toShelf
  (a, ⟨shelf, lectern.page⟩)

instance : Machine (StateM Lectern) where
  readFile path := atShelf (Machine.readFile path)
  writeFile path text := atShelf (Machine.writeFile path text)
  appendFile path text := atShelf (Machine.appendFile path text)
  fileExists path := atShelf (Machine.fileExists path)
  environment? _ := pure none
  outputIsTerminal := pure false
  print text := fun lectern => ((), { lectern with page := lectern.page ++ text })
  printError _ := pure ()
  ask prompt := atShelf (Machine.ask prompt)
  timestamp := pure ""
  elapsed := pure ""

def disk : Machine.Disk Lectern where
  bytes lectern := Shelf.disk.bytes lectern.toShelf
  Apart := Shelf.disk.Apart
  readFile h := Shelf.disk.readFile h
  fileExists := Shelf.disk.fileExists
  writeFile h := Shelf.disk.writeFile h
  still _ := ⟨fun _ _ => rfl, fun _ _ => rfl, fun _ _ => rfl, fun _ _ => rfl, fun _ _ => rfl,
    fun _ => rfl⟩
  writeFile_keeps h lectern := Shelf.disk.writeFile_keeps h lectern.toShelf
  appendFile_keeps h lectern := Shelf.disk.appendFile_keeps h lectern.toShelf

def screen : Machine.Screen Lectern where
  shown := page
  print _ _ := rfl
  steady := ⟨fun _ _ => rfl, fun _ _ => rfl, fun _ _ => rfl, fun _ => rfl⟩

end Lectern

namespace Setting

open Machine (Disk Screen)

variable {α ε τ γ : Type} [Machine (StateM τ)] {disk : Disk τ} {screen : Screen τ} {seen : τ → γ}
  {database path text : String} {schema : Schema} {s : Setting} {options : DeclareOptions} {t : τ}

theorem play_print (disk : Disk τ) (screen : Screen τ) (shown : α → String) (l : List α) (t : τ) :
    ∃ t', play (l.forM fun a =>
        (Machine.print (shown a) : StateM τ Unit) : ExceptT ε (StateM τ) Unit) t = (.ok (), t') ∧
      screen.shown t' = screen.shown t ++ String.join (l.map shown) ∧
      ∀ file, disk.bytes t' file = disk.bytes t file := by
  induction l generalizing t with
  | nil => exact ⟨t, rfl, by simp, fun _ => rfl⟩
  | cons a l ih =>
    obtain ⟨t', hplay, hshown, hbytes⟩ := ih ((Machine.print (shown a) : StateM τ Unit).run t).2
    refine ⟨t', (play_lift_bind _ _ t).trans hplay, ?_, fun file => ?_⟩
    · rw [hshown, screen.print, List.map_cons, String.join_cons, String.append_assoc]
    · exact (hbytes file).trans ((disk.still file).print (shown a) t)

/-- What a declaration does before it shows anything. -/
def layingOut (s : Setting) (schema? : Option String) :
    ExceptT Failure (StateM τ) (List Descriptor × Except SyncError Unit) := do
  let schema ← s.loadSchema schema?
  let db ← s.loadDatabase
  (s.emit (layOutAll schema.structs db) : StateM τ _)

/-- What it does with the structs that are laid out. -/
def showing (name? : Option String) (laid : List Descriptor × Except SyncError Unit) :
    ExceptT Failure (StateM τ) Unit := do
  (laid.1.filter fun d => name?.all (· == d.name)).forM fun d =>
    (Machine.print (d.declaration ++ "\n") : StateM τ Unit)
  match laid.2 with
  | .error e => throw e.chain
  | .ok () => pure ()

theorem declare_eq (htargets : s.Targets options.database options.schema database path) :
    (s.declare options : ExceptT Failure (StateM τ) Unit) =
      (s.withOptions options.database).layingOut options.schema >>= showing options.name := by
  unfold declare layingOut
  rw [htargets.withDatabase]
  simp only [bind_assoc]
  rfl

theorem layingOut_keeps (hsteady : Machine.Steady seen) (hlog : s.logger.Unseen seen)
    (schema? : Option String) :
    Keeps seen (s.layingOut schema? : ExceptT Failure (StateM τ) _).run := by
  unfold layingOut
  refine .bindExcept (loadSchema_keeps hsteady _) fun schema => ?_
  refine .bindExcept (loadDatabase_keeps hsteady hlog) fun db => ?_
  exact .bind (emit_keeps hsteady hlog _) fun _ => .pure _

/-- A declaration of all structs shows those that are laid out, and writes nothing but its log. -/
theorem declare_plays (disk : Disk τ) (screen : Screen τ)
    (hlog : s.Unlogged disk.files [database]) (hshown : s.logger.Unseen screen.shown)
    (htargets : s.Targets options.database options.schema database path)
    (hwhole : options.name = none) (htext : disk.files.content t path = some (.ok text))
    (hschema : Schema.load text = .ok schema)
    (hstored : (s.withOptions options.database).Loads disk.files t db) :
    let laid := (layOutAll schema.structs db).value
    (play (s.declare options) t).1 = laid.2.mapError SyncError.chain ∧
      screen.shown (play (s.declare options) t).2 =
        screen.shown t ++ String.join (laid.1.map fun d => d.declaration ++ "\n") ∧
      ∀ file, disk.files.Unlogged s.logger file →
        disk.bytes (play (s.declare options) t).2 file = disk.bytes t file := by
  intro laid
  let s' := s.withOptions options.database
  have hwatched : s'.config.database ∈ [database] := by simp [s', htargets.database]
  have hlaid : disk.files.Gives [database] (s'.layingOut options.schema) t laid := by
    refine (loadSchema_gives htargets.schema htext hschema).bind fun t₁ hsame => ?_
    have hstored₁ : s'.Loads disk.files t₁ db := by
      unfold Loads
      rw [hsame _ hwatched]
      exact hstored
    exact (loadDatabase_gives (s := s') hlog hwatched hstored₁).bind fun t₂ _ => emit_gives hlog _
  obtain ⟨t₁, hplay, -⟩ := hlaid
  have hkeeps {γ : Type} {seen : τ → γ} (hsteady : Machine.Steady seen)
      (hunseen : s.logger.Unseen seen) : seen t₁ = seen t := by
    have := (layingOut_keeps (s := s') hsteady hunseen options.schema).play t
    rwa [hplay] at this
  have hall : laid.1.filter (fun d => options.name.all (· == d.name)) = laid.1 := by
    simp [hwhole]
  obtain ⟨t₂, hprinted, hafter, hbytes⟩ :=
    play_print (ε := Failure) disk screen (fun d : Descriptor => d.declaration ++ "\n") laid.1 t₁
  have hdeclare : play (s.declare options) t = (laid.2.mapError SyncError.chain, t₂) := by
    rw [declare_eq htargets, play_bind, hplay]
    dsimp only
    unfold showing
    rw [play_bind, hall, hprinted]
    rcases laid.2 with e | ⟨⟩ <;> rfl
  rw [hdeclare]
  refine ⟨rfl, ?_, fun file hfile => ?_⟩
  · rw [hafter, hkeeps screen.steady hshown]
  · have hunseen : s.logger.Unseen (disk.bytes · file) :=
      fun other hother _ => disk.appendFile_keeps (hfile other hother)
    exact (hbytes file).trans (hkeeps (disk.still file).steady hunseen)

theorem declare_ok_iff (disk : Disk τ) (screen : Screen τ)
    (hlog : s.Unlogged disk.files [database]) (hshown : s.logger.Unseen screen.shown)
    (htargets : s.Targets options.database options.schema database path)
    (hwhole : options.name = none) (htext : disk.files.content t path = some (.ok text))
    (hschema : Schema.load text = .ok schema)
    (hstored : (s.withOptions options.database).Loads disk.files t db) :
    (play (s.declare options) t).1 = .ok () ↔ (bringAll? schema.structs db).isSome := by
  rw [(declare_plays disk screen hlog hshown htargets hwhole htext hschema hstored).1,
    ← layOutAll_ok_iff]
  cases (layOutAll schema.structs db).value.2 <;> simp [Except.mapError]

/-- Points, the last coordinate of which is declared first, and lines that can be joined. -/
def plan : Schema :=
  ⟨[⟨"point", [(Field.named "y" "int").withOffset 4, (Field.named "x" "int").withOffset 0]⟩,
    ⟨"line", [.named "ends" "point[2]", .named "next" "struct line *", .named "label" "char[2]"]⟩]⟩

theorem plan_load : Schema.load (plan.json.text .compact) = .ok plan := by
  have hnamed : plan.WellNamed := Schema.wellNamed_iff.2 (by decide)
  exact hnamed.load_text .compact

/-- A lectern with the sketch and the plan, and an empty page. -/
def pulpit : Lectern :=
  ⟨⟨[("types.json", sketch.json.text .pretty), ("schema.json", plan.json.text .compact)]⟩, ""⟩

end Setting

end StructSync
