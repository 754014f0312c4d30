import Mathlib
import StructSync.Proofs.Materialization
import StructSync.Proofs.Stepwise

/-!
# What a struct makes of what is stored

Ids aside, a database is what it stores under each name (`Database.contents?`). A struct that
replaces whatever stands in its way (`StructSchema.bring?`) changes that under its own name only,
and depends on what is there and on what it takes from the database (`StructSchema.Sees`). Main
statements: all that such a build does (`StructSchema.bring?_cases`), and that a sync to which
everybody says yes is these builds in a row (`syncAll_fixed`).
-/

namespace StructSync

/-- What a database stores of a struct, ids aside. -/
abbrev Contents := List (String × UInt64 × UInt64 × DataFlags × Option String)

namespace Contents

/-- The name of each member, and where it starts and stops. -/
def ranges (c : Contents) : List (String × UInt64 × UInt64) :=
  c.map fun m => (m.1, m.2.1, addClamped m.2.1 m.2.2.1)

def size (c : Contents) : UInt64 := c.foldl (fun size m => max size (addClamped m.2.1 m.2.2.1)) 0

end Contents

namespace StoredStruct

variable {s : StoredStruct} {d : Descriptor}

theorem ranges_contents (s : StoredStruct) :
    Contents.ranges s.contents = s.members.map StoredMember.range := by
  unfold Contents.ranges contents
  rw [List.map_map]
  rfl

theorem size_contents (s : StoredStruct) : Contents.size s.contents = s.size := by
  unfold Contents.size contents
  rw [List.foldl_map]
  rfl

theorem isDeclared_iff_ranges (hname : s.name = d.name) :
    s.IsDeclared d ↔ Contents.ranges s.contents = d.ranges := by
  rw [ranges_contents]
  exact ⟨fun h => h.ranges, fun h => ⟨hname, size_eq_of_ranges h, h⟩⟩

end StoredStruct

namespace Database

variable {db other after : Database} {name : String} {n : Nat}

/-- What is stored under the name, ids aside. -/
def contents? (db : Database) (name : String) : Option Contents :=
  (db.findByName? name).map (·.contents)

/-- Both databases have pointers of one size and store the same under every name, ids aside: the
same members, with their names, offsets, sizes, flags and type names. -/
structure SameContents (db other : Database) : Prop where
  pointerSize : other.pointerSize = db.pointerSize
  contents : ∀ name, other.contents? name = db.contents? name

theorem isSome_contents? : (db.contents? name).isSome = (db.findByName? name).isSome :=
  Option.isSome_map

theorem contents?_congr (h : after.findByName? name = db.findByName? name) :
    after.contents? name = db.contents? name := by
  rw [contents?, h]
  rfl

theorem structSize?_eq (db : Database) (name : String) :
    db.scope.structSize? name = (db.contents? name).map Contents.size := by
  show (db.findByName? name).map (·.size) = _
  rw [contents?, Option.map_map]
  exact congrFun (congrArg Option.map (funext fun s => s.size_contents.symm)) _

end Database

/-- What stands under the name of the descriptor when its struct has been brought in step. -/
def Descriptor.settled (d : Descriptor) : Option Contents → Contents
  | some c => if Contents.ranges c = d.ranges then c else d.contents
  | none => d.contents

namespace StructSchema

open Descriptor

variable {entry : StructSchema} {db other after : Database} {d : Descriptor} {n : Nat}

/-! ### What a struct takes -/

/-- The structs that must have a name for fields of the struct to point to them. -/
def pointed (entry : StructSchema) : List String :=
  entry.fields.filterMap fun field =>
    field.type.bind fun text => (Declaration.ofText? text).bind Declaration.pointed?

/-- All that the struct takes from the database is in the other. -/
structure Sees (entry : StructSchema) (db other : Database) : Prop where
  pointerSize : other.pointerSize = db.pointerSize
  embedded : ∀ name ∈ entry.embedded, other.contents? name = db.contents? name
  pointed : ∀ name ∈ entry.pointed, (db.contents? name).isSome → (other.contents? name).isSome

theorem Sees.of_sameContents (h : db.SameContents other) : entry.Sees db other :=
  ⟨h.pointerSize, fun name _ => h.contents name, fun name _ => by rw [h.contents name]; exact id⟩

theorem Sees.agrees (h : entry.Sees db other) : ∀ field ∈ entry.fields, field.Agrees db other := by
  intro field hfield text type htext hparse
  rw [Database.parseType_eq_ok] at hparse ⊢
  suffices htakes : ∀ decl, Declaration.ofText? text = some decl → decl.Takes db.scope other.scope
    from parseDeclaration_takes htakes hparse
  refine fun decl hdecl => ⟨h.pointerSize, fun name hname => ?_, fun name hname => ?_⟩
  · have hmem : name ∈ entry.embedded :=
      mem_embedded hfield htext (by rw [hdecl, Option.bind_some, hname])
    rw [Database.structSize?_eq, Database.structSize?_eq, h.embedded name hmem]
  · have hmem : name ∈ entry.pointed := by
      refine List.mem_filterMap.2 ⟨field, hfield, ?_⟩
      rw [htext, Option.bind_some, hdecl, Option.bind_some, hname]
    rw [Database.structSize?_eq, Database.structSize?_eq, Option.isSome_map, Option.isSome_map]
    exact h.pointed name hmem

/-- The descriptor of the struct, if its fields can be parsed against the database. -/
def parsed? (entry : StructSchema) (db : Database) : Option Descriptor :=
  match ((ofName entry.name).parse db entry.fields).value with
  | (.ok (), d) => some d
  | (.error _, _) => none

theorem parsed?_eq_some :
    entry.parsed? db = some d ↔ ((ofName entry.name).parse db entry.fields).value = (.ok (), d) := by
  unfold parsed?
  rcases ((ofName entry.name).parse db entry.fields).value with ⟨e | _, found⟩ <;> simp

theorem Sees.parsed? (h : entry.Sees db other) (hd : entry.parsed? db = some d) :
    entry.parsed? other = some d :=
  parsed?_eq_some.2 (parse_agrees h.agrees (parsed?_eq_some.1 hd))

theorem parsed?_congr (h : entry.Sees db other) (h' : entry.Sees other db) :
    entry.parsed? other = entry.parsed? db :=
  Option.ext fun _ => ⟨h'.parsed?, h.parsed?⟩

/-! ### What it leaves -/

/-- The database after the struct is built, with a yes to the question that may be asked. -/
def bring? (entry : StructSchema) (db : Database) : Option Database :=
  match (Id.run (build (Confirmer.fixed .yes) entry.name entry.fields db)).value with
  | (.ok _, after) => some after
  | (.error _, _) => none

/-- The database after has what the descriptor makes of what was stored under its name, and all else
as it was. -/
structure Brought (entry : StructSchema) (d : Descriptor) (db : Database) (n : Nat)
    (after : Database) : Prop where
  sound : after.Sound
  spare : after.Spare n
  pointerSize : after.pointerSize = db.pointerSize
  own : after.contents? entry.name = some (d.settled (db.contents? entry.name))
  others : ∀ {name}, name ≠ entry.name → after.contents? name = db.contents? name

theorem brought_kept {s : StoredStruct} (h : db.Sound) (hspare : db.Spare (entry.ids + n))
    (hname : d.name = entry.name) (hs : db.findByName? d.name = some s) (hd : s.IsDeclared d) :
    Brought entry d db n db := by
  have hown : db.contents? entry.name = some s.contents := by
    rw [Database.contents?, ← hname, hs]
    rfl
  refine ⟨h, hspare.mono (Nat.le_add_left _ _), rfl, ?_, fun _ => rfl⟩
  rw [hown, settled, if_pos ((StoredStruct.isDeclared_iff_ranges hd.name).1 hd)]

theorem brought_made {s : StoredStruct} (hspare : db.Spare (entry.ids + n))
    (hname : d.name = entry.name) (hlength : d.layout.members.length + 1 = entry.ids)
    (hother : ∀ s, db.findByName? d.name = some s → ¬s.IsDeclared d) (hmade : d.Made db s after) :
    Brought entry d db n after := by
  rw [← hlength] at hspare
  refine ⟨hmade.touched.sound, hmade.touched.spare hspare, hmade.touched.pointerSize, ?_,
    fun hne => Database.contents?_congr (hmade.touched.others (hname ▸ hne))⟩
  have hown : after.contents? entry.name = some d.contents := by
    rw [Database.contents?, ← hname, hmade.stored, Option.map_some, hmade.contents]
  rw [hown, Database.contents?, ← hname]
  cases hold : db.findByName? d.name with
  | none => rfl
  | some old =>
    obtain ⟨-, hold'⟩ := Database.mem_of_findByName? hold
    rw [Option.map_some, settled,
      if_neg (mt (StoredStruct.isDeclared_iff_ranges hold').2 (hother old hold))]

theorem bring?_cases (h : db.Sound) (hspare : db.Spare (entry.ids + n)) :
    (entry.parsed? db = none ∧ entry.bring? db = none) ∨
      ∃ d after, entry.parsed? db = some d ∧ entry.bring? db = some after ∧
        entry.Brought d db n after := by
  rcases build_materialization h (hspare.mono (Nat.le_add_right _ _)) (Confirmer.fixed .yes) with
    ⟨e, d, hparse, hbuild⟩ | ⟨d, ran, hparse, hname, hran, hok, hbuild⟩
  · left
    unfold parsed? bring?
    rw [hparse, hbuild]
    exact ⟨rfl, rfl⟩
  · right
    obtain ⟨outcome, houtcome⟩ := hok fun _ => rfl
    obtain ⟨⟨result, d'⟩, after⟩ := ran
    obtain rfl : result = .ok outcome := houtcome
    have hlength : d.layout.members.length + 1 = entry.ids := by
      rw [(parse_ok hparse).2.2, ids]
    refine ⟨d, after, parsed?_eq_some.2 hparse, ?_, ?_⟩
    · unfold bring?
      rw [hbuild]
      rfl
    · cases hran with
      | kept s _ hs hd => exact brought_kept h hspare hname hs hd
      | made _ s _ _ hother _ hmade => exact brought_made hspare hname hlength hother hmade

end StructSchema

/-! ### All structs -/

/-- The database after the structs are built in order, with a yes to every question. -/
def bringAll? (structs : List StructSchema) (db : Database) : Option Database :=
  structs.foldlM (fun db entry => entry.bring? db) db

/-- Where the answer is always yes a sync is these builds. -/
theorem syncAll_fixed {τ : Type}
    (tell : StructSchema → Logged (Except SyncError (Descriptor × Outcome)) → StateM τ Unit)
    (structs : List StructSchema) (db : Database) (t : τ) :
    (∃ after t', bringAll? structs db = some after ∧
      (syncAll (Confirmer.fixed .yes) tell structs db).run t = ((.ok (), after), t')) ∨
    ∃ e after t', bringAll? structs db = none ∧
      (syncAll (Confirmer.fixed .yes) tell structs db).run t = ((.error e, after), t') := by
  induction structs generalizing db t with
  | nil => exact .inl ⟨db, t, rfl, rfl⟩
  | cons entry rest ih =>
    have hbuild := Descriptor.Call.value_build_state (Confirmer.fixed .yes) entry.name
      entry.fields db t
    rw [bringAll?, List.foldlM_cons, run_syncAll_cons]
    rcases hrun : (Descriptor.build (Confirmer.fixed .yes : Confirmer (StateM τ)) entry.name
      entry.fields db).run t with ⟨⟨⟨result, middle⟩, log⟩, t₁⟩
    rw [hrun] at hbuild
    have hbring : entry.bring? db = match result with
        | .ok _ => some middle
        | .error _ => none := by
      unfold StructSchema.bring?
      rw [show (Id.run (Descriptor.build (Confirmer.fixed .yes) entry.name entry.fields db)).value =
        (result, middle) from hbuild.symm]
      cases result <;> rfl
    rw [hbring]
    cases result with
    | error e => exact .inr ⟨e, middle, _, rfl, rfl⟩
    | ok built => exact ih middle _

end StructSync
