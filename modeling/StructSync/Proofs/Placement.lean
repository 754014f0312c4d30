import Mathlib
import StructSync.Proofs.Parse
import StructSync.Proofs.Validation
import StructSync.Database

/-!
# Where fields are put

`Field.Placed` says where a field is put among those before it, and when it can be: it has a name
that is not blank and not given before, a declaration that the host resolves to a type with a size,
and bytes in the range of addresses that no field before it has. `Field.Fault` says what is wrong
with a field that cannot be put anywhere. Main statement (`Descriptor.parse_places`): a schema is
parsed exactly if its fields can be placed one after the other (`Placeable`), and then the members
are these placements in order; otherwise the error is that of the first field that cannot.
-/

namespace StructSync

/-- A type under a name, from an offset on. -/
structure Placement where
  name : String
  offset : Nat
  text : String
  type : CType

namespace Placement

/-- The offset behind the last byte. -/
def stop (p : Placement) : Nat := p.offset + p.type.size.toNat

/-- The two share no byte. -/
def Disjoint (p q : Placement) : Prop := p.stop ≤ q.offset ∨ q.stop ≤ p.offset

instance (p q : Placement) : Decidable (p.Disjoint q) :=
  inferInstanceAs (Decidable (_ ∨ _))

/-- The largest end, zero if nothing is placed. -/
def reach (ps : List Placement) : Nat := (ps.map stop).max?.getD 0

theorem stop_le_reach {p : Placement} {ps : List Placement} (h : p ∈ ps) : p.stop ≤ reach ps :=
  List.le_max?_getD_of_mem (List.mem_map_of_mem h)

end Placement

namespace Field

/-- The name of a field: its own or, if it has none, one made of its offset. -/
inductive Named (field : Field) : String → Prop
  | own {name : String} : field.name = some name → Named field name
  | made {offset : UInt64} : field.name = none → field.offset = some offset →
    Named field ("field_" ++ Text.hexLower offset.toNat)

/-- The field has a name, and the host a type for it. -/
structure Typed {σ : Type} [Host σ] (host : σ) (field : Field) (name text : String)
    (type : CType) : Prop where
  named : field.Named name
  notBlank : Text.isBlankText name = false
  declared : field.type = some text
  resolved : Host.parseType host text = .ok type

/-- What the field asks for, behind fields that reach that far. -/
structure Wants {σ : Type} [Host σ] (host : σ) (reach : Nat) (field : Field) (p : Placement) :
    Prop where
  typed : field.Typed host p.name p.text p.type
  sized : 0 < p.type.size
  offset : p.offset = (field.offset.map UInt64.toNat).getD reach

/-- The field is placed there, behind the earlier ones or between them. -/
structure Placed {σ : Type} [Host σ] (host : σ) (earlier : List Placement) (field : Field)
    (p : Placement) : Prop where
  wants : field.Wants host (Placement.reach earlier) p
  inRange : p.stop ≤ 2 ^ 64 - 1
  fresh : ∀ q ∈ earlier, q.name ≠ p.name
  disjoint : ∀ q ∈ earlier, q.Disjoint p

/-- What is wrong with a field whatever stands before it. -/
inductive Unplaceable {σ : Type} [Host σ] (host : σ) (struct : String) (index reach : Nat)
    (field : Field) : SyncError → Prop
  | missingName : (∀ name, ¬field.Named name) →
    Unplaceable host struct index reach field (.missingName struct index)
  | blankName {name : String} : field.Named name → Text.isBlankText name = true →
    Unplaceable host struct index reach field (.emptyName struct index)
  | missingType {name : String} : field.Named name → Text.isBlankText name = false →
    field.type = none → Unplaceable host struct index reach field (.missingType struct name)
  | unresolved {name text : String} {source : HostError} : field.Named name →
    Text.isBlankText name = false → field.type = some text →
    Host.parseType host text = .error source →
    Unplaceable host struct index reach field (.unresolvedType (struct ++ "." ++ name) text source)
  | unsized {name text : String} {type : CType} : field.Typed host name text type →
    type.size = 0 →
    Unplaceable host struct index reach field
      (.unresolvedType (struct ++ "." ++ name) text (.declaration text .noSize))
  | outOfRange {p : Placement} : field.Wants host reach p → 2 ^ 64 ≤ p.stop →
    Unplaceable host struct index reach field (.offsetOverflow struct p.name)

/-- What is wrong with a field behind the earlier ones. -/
inductive Fault {σ : Type} [Host σ] (host : σ) (struct : String) (index : Nat)
    (earlier : List Placement) (field : Field) : SyncError → Prop
  | own {e : SyncError} : field.Unplaceable host struct index (Placement.reach earlier) e →
    Fault host struct index earlier field e
  | nameTaken {p q : Placement} : field.Wants host (Placement.reach earlier) p →
    p.stop < 2 ^ 64 → q ∈ earlier → q.name = p.name →
    Fault host struct index earlier field (.duplicateMember struct p.name)
  /-- The earliest field that it shares a byte with is the one reported. -/
  | bytesTaken {p q : Placement} {before after : List Placement} :
    field.Wants host (Placement.reach earlier) p → p.stop < 2 ^ 64 →
    (∀ r ∈ earlier, r.name ≠ p.name) → earlier = before ++ q :: after →
    (∀ r ∈ before, r.Disjoint p) → ¬q.Disjoint p →
    Fault host struct index earlier field (.overlappingMember struct p.name q.name)

end Field

/-- The fields can be put there one after the other. -/
inductive Placeable {σ : Type} [Host σ] (host : σ) : List Field → List Placement → Prop
  | nil : Placeable host [] []
  | snoc {fields : List Field} {field : Field} {ps : List Placement} {p : Placement} :
    Placeable host fields ps → field.Placed host ps p →
    Placeable host (fields ++ [field]) (ps ++ [p])

/-- The fields can be put there one after the other, where the earlier ones leave room. -/
inductive PlaceableBehind {σ : Type} [Host σ] (host : σ) (earlier : List Placement) :
    List Field → List Placement → Prop
  | nil : PlaceableBehind host earlier [] []
  | snoc {fields : List Field} {field : Field} {ps : List Placement} {p : Placement} :
    PlaceableBehind host earlier fields ps → field.Placed host (earlier ++ ps) p →
    PlaceableBehind host earlier (fields ++ [field]) (ps ++ [p])

variable {σ : Type} [Host σ] {host : σ} {struct : String} {index : Nat} {field : Field}
  {fields : List Field} {e : SyncError} {m : Member} {l l' : Layout}

theorem placeableBehind_nil {ps : List Placement} :
    PlaceableBehind host [] fields ps ↔ Placeable host fields ps := by
  constructor <;> intro h <;> induction h with
  | nil => exact .nil
  | snoc _ hp ih => exact ih.snoc hp

theorem Field.named_iff {name : String} : field.Named name ↔ field.memberName? = some name := by
  unfold Field.memberName?
  constructor
  · rintro (h | ⟨hnone, h⟩)
    · simp [h]
    · simp [hnone, h]
  · cases hname : field.name with
    | some own =>
      intro h
      obtain rfl : own = name := by simpa using h
      exact .own hname
    | none =>
      intro h
      obtain ⟨offset, hoffset, rfl⟩ := Option.map_eq_some_iff.1 (by simpa using h)
      exact .made hname hoffset

/-- A field asks for a place in the range of addresses or is at fault itself. -/
theorem Field.wants_or_unplaceable (host : σ) (struct : String) (index reach : Nat)
    (field : Field) : (∃ p, field.Wants host reach p ∧ p.stop < 2 ^ 64) ∨
      ∃ e, field.Unplaceable host struct index reach e := by
  by_cases hnamed : ∃ name, field.Named name
  · obtain ⟨name, hnamed⟩ := hnamed
    cases hblank : Text.isBlankText name with
    | true => exact .inr ⟨_, .blankName hnamed hblank⟩
    | false =>
      cases htext : field.type with
      | none => exact .inr ⟨_, .missingType hnamed hblank htext⟩
      | some text =>
        cases htype : Host.parseType host text with
        | error source => exact .inr ⟨_, .unresolved hnamed hblank htext htype⟩
        | ok type =>
          have htyped : field.Typed host name text type := ⟨hnamed, hblank, htext, htype⟩
          by_cases hsize : type.size = 0
          · exact .inr ⟨_, .unsized htyped hsize⟩
          · have hwants : field.Wants host reach
                ⟨name, (field.offset.map UInt64.toNat).getD reach, text, type⟩ :=
              ⟨htyped, UInt64.pos_iff_ne_zero.2 hsize, rfl⟩
            rcases Nat.lt_or_ge (Placement.stop _) (2 ^ 64) with hrange | hrange
            · exact .inl ⟨_, hwants, hrange⟩
            · exact .inr ⟨_, .outOfRange hwants hrange⟩
  · exact .inr ⟨_, .missingName fun name h => hnamed ⟨name, h⟩⟩

namespace Member

/-- The member without its struct. -/
def placement (m : Member) : Placement := ⟨m.name, m.offset.toNat, m.type.text, m.type.type⟩

theorem stop_placement (m : Member) : m.placement.stop = m.stop.toNat := m.toNat_stop.symm

variable {size : UInt64} {name text : String} {type : CType}

theorem value_ofField_of_typed (struct : String) (index : Nat) (size : UInt64)
    (h : field.Typed host name text type) (hsized : type.size ≠ 0) :
    (ofField host struct index size field).value =
      if fits : (field.offset.getD size).toNat + type.size.toNat < UInt64.size then
        .ok { struct, name, offset := field.offset.getD size, type := ⟨text, type, hsized⟩, fits }
      else .error (.offsetOverflow struct name) := by
  rw [value_ofField, Field.named_iff.1 h.named]
  simp only [h.notBlank, h.declared, DeclaredType.value_resolve, h.resolved]
  simp only [Bool.false_eq_true, ↓reduceIte, ne_eq, hsized, not_false_eq_true, ↓reduceDIte]
  rfl

theorem toNat_getD (offset : Option UInt64) (size : UInt64) :
    (offset.getD size).toNat = (offset.map UInt64.toNat).getD size.toNat := by
  cases offset <;> rfl

theorem ofField_of_wants {p : Placement} (struct : String) (index : Nat)
    (h : field.Wants host size.toNat p) (hrange : p.stop < 2 ^ 64) :
    ∃ m, (ofField host struct index size field).value = .ok m ∧ m.struct = struct ∧
      m.placement = p := by
  obtain ⟨htyped, hsized, hoffset⟩ := h
  rw [← toNat_getD] at hoffset
  rw [value_ofField_of_typed _ _ _ htyped (UInt64.pos_iff_ne_zero.1 hsized), dif_pos]
  · refine ⟨_, rfl, rfl, ?_⟩
    unfold placement
    rw [← hoffset]
  · rw [← hoffset]
    exact hrange

theorem ofField_of_unplaceable (h : field.Unplaceable host struct index size.toNat e) :
    (ofField host struct index size field).value = .error e := by
  cases h with
  | missingName hname =>
    have hnone : field.memberName? = none :=
      Option.eq_none_iff_forall_ne_some.2 fun name h => hname name (Field.named_iff.2 h)
    rw [value_ofField, hnone]
  | blankName hnamed hblank =>
    rw [value_ofField, Field.named_iff.1 hnamed]
    simp only [hblank, ↓reduceIte]
  | missingType hnamed hblank htext =>
    rw [value_ofField, Field.named_iff.1 hnamed]
    simp only [hblank, htext, Bool.false_eq_true, ↓reduceIte]
  | unresolved hnamed hblank htext htype =>
    rw [value_ofField, Field.named_iff.1 hnamed]
    simp only [hblank, htext, DeclaredType.value_resolve, htype, Bool.false_eq_true, ↓reduceIte]
  | unsized htyped hsize =>
    rw [value_ofField, Field.named_iff.1 htyped.named]
    simp only [htyped.notBlank, htyped.declared, DeclaredType.value_resolve, htyped.resolved,
      hsize, Bool.false_eq_true, ↓reduceIte, ne_eq, not_true_eq_false, ↓reduceDIte]
  | outOfRange hwants hrange =>
    obtain ⟨htyped, hsized, hoffset⟩ := hwants
    rw [← toNat_getD] at hoffset
    rw [value_ofField_of_typed _ _ _ htyped (UInt64.pos_iff_ne_zero.1 hsized), dif_neg]
    rw [← hoffset]
    exact Nat.not_lt.2 hrange

end Member

namespace Layout

/-- Where the members are. -/
def placements (l : Layout) : List Placement := l.members.map Member.placement

theorem toNat_foldl_stop (ms : List Member) (size : UInt64) :
    (ms.foldl (fun size m => max size m.stop) size).toNat =
      ((ms.map Member.placement).map Placement.stop).foldl max size.toNat := by
  induction ms generalizing size with
  | nil => rfl
  | cons m rest ih =>
    simp only [List.foldl_cons, List.map_cons]
    rw [ih, UInt64.toNat_max, m.stop_placement]

theorem toNat_size (l : Layout) : l.size.toNat = Placement.reach l.placements := by
  rw [size, toNat_foldl_stop, List.foldl_max]
  exact Nat.zero_max _

theorem not_overlaps_iff {other : Member} :
    m.overlaps other = false ↔ other.placement.Disjoint m.placement := by
  rw [Placement.Disjoint, Member.stop_placement, Member.stop_placement]
  simp only [Member.overlaps, Bool.and_eq_false_iff, decide_eq_false_iff_not, UInt64.not_lt,
    UInt64.le_iff_toNat_le]
  exact or_comm

theorem find?_name_eq_none {name : String} :
    l.find? name = none ↔ ∀ q ∈ l.placements, q.name ≠ name := by
  rw [find?_eq_none, placements, List.forall_mem_map]
  rfl

theorem find?_overlaps_eq_none :
    l.members.find? m.overlaps = none ↔ ∀ q ∈ l.placements, q.Disjoint m.placement := by
  rw [List.find?_eq_none, placements, List.forall_mem_map]
  exact forall₂_congr fun other _ => by rw [Bool.not_eq_true, not_overlaps_iff]

theorem add_of_free (hname : ∀ q ∈ l.placements, q.name ≠ m.name)
    (hrange : ∀ q ∈ l.placements, q.Disjoint m.placement) :
    ∃ l', l.add m = .ok l' ∧ l'.members = l.members ++ [m] := by
  unfold add
  split
  · next h => simp [find?_name_eq_none.2 hname] at h
  · split
    · next h => simp [find?_overlaps_eq_none.2 hrange] at h
    · exact ⟨_, rfl, rfl⟩

theorem add_of_taken {q : Placement} (hq : q ∈ l.placements) (hname : q.name = m.name) :
    l.add m = .error (.duplicateMember m.struct m.name) := by
  unfold add
  split
  · rfl
  · next h => exact absurd hname (find?_name_eq_none.1 h q hq)

theorem add_of_overlap {q : Placement} {before after : List Placement}
    (hname : ∀ q ∈ l.placements, q.name ≠ m.name) (hl : l.placements = before ++ q :: after)
    (hbefore : ∀ r ∈ before, r.Disjoint m.placement) (hq : ¬q.Disjoint m.placement) :
    l.add m = .error (.overlappingMember m.struct m.name q.name) := by
  obtain ⟨front, back, hmembers, rfl, hback⟩ := List.map_eq_append_iff.1 hl
  obtain ⟨other, rest, rfl, rfl, rfl⟩ := List.map_eq_cons_iff.1 hback
  have hfind : l.members.find? m.overlaps = some other := by
    refine List.find?_eq_some_iff_append.2 ⟨?_, front, rest, hmembers, fun r hr => ?_⟩
    · exact Bool.of_not_eq_false fun h => hq (not_overlaps_iff.1 h)
    · rw [not_overlaps_iff.2 (hbefore _ (List.mem_map_of_mem hr))]
      rfl
  unfold add
  split
  · next h => simp [find?_name_eq_none.2 hname] at h
  · split
    · next h =>
      obtain rfl := Option.some.inj (hfind.symm.trans h)
      rfl
    · next h => simp [hfind] at h

theorem addField_of_placed {p : Placement} (struct : String) (index : Nat)
    (h : field.Placed host l.placements p) :
    ∃ m l', (l.addFields host struct index [field]).value = (.ok (), l') ∧
      l'.members = l.members ++ [m] ∧ m.struct = struct ∧ m.placement = p := by
  obtain ⟨m, hm, rfl, rfl⟩ :=
    Member.ofField_of_wants struct index (l.toNat_size ▸ h.wants)
      (Nat.lt_of_le_sub_one (by decide) h.inRange)
  obtain ⟨l', hl', hmembers⟩ := add_of_free h.fresh h.disjoint
  refine ⟨m, l', ?_, hmembers, rfl, rfl⟩
  rw [value_addFields_cons, hm]
  dsimp only
  rw [hl']
  rfl

theorem addField_of_fault (h : field.Fault host struct index l.placements e) (after : List Field) :
    (l.addFields host struct index (field :: after)).value = (.error e, l) := by
  rw [value_addFields_cons]
  cases h with
  | own h =>
    rw [Member.ofField_of_unplaceable (l.toNat_size ▸ h)]
  | nameTaken hwants hrange hq hname =>
    obtain ⟨m, hm, rfl, rfl⟩ :=
      Member.ofField_of_wants struct index (l.toNat_size ▸ hwants) hrange
    rw [hm]
    dsimp only
    rw [add_of_taken hq hname]
    rfl
  | bytesTaken hwants hrange hfresh hsplit hbefore hq =>
    obtain ⟨m, hm, rfl, rfl⟩ :=
      Member.ofField_of_wants struct index (l.toNat_size ▸ hwants) hrange
    rw [hm]
    dsimp only
    rw [add_of_overlap hfresh hsplit hbefore hq]
    rfl

theorem addFields_append (host : σ) (struct : String) (index : Nat) (l : Layout)
    (before after : List Field) :
    (l.addFields host struct index (before ++ after)).value =
      match (l.addFields host struct index before).value with
      | (.error e, l) => (.error e, l)
      | (.ok (), l) => (l.addFields host struct (index + before.length) after).value := by
  induction before generalizing index l with
  | nil => rfl
  | cons field before ih =>
    rw [List.cons_append, value_addFields_cons, value_addFields_cons]
    cases (Member.ofField host struct index l.size field).value with
    | error e => rfl
    | ok m =>
      dsimp only
      cases l.add m with
      | error e => rfl
      | ok l =>
        dsimp only
        rw [ih, List.length_cons, Nat.add_right_comm, Nat.add_assoc]

/-- The other layout has members of the struct at these places behind the members of this one. -/
def Extends (l l' : Layout) (struct : String) (ps : List Placement) : Prop :=
  ∃ ms, l'.members = l.members ++ ms ∧ ms.map Member.placement = ps ∧ ∀ m ∈ ms, m.struct = struct

theorem Extends.placements_eq {ps : List Placement} (h : l.Extends l' struct ps) :
    l'.placements = l.placements ++ ps := by
  obtain ⟨ms, hmembers, rfl, -⟩ := h
  rw [placements, hmembers, List.map_append, placements]

theorem addFields_of_behind {ps : List Placement} (struct : String) (index : Nat)
    (h : PlaceableBehind host l.placements fields ps) :
    ∃ l', (l.addFields host struct index fields).value = (.ok (), l') ∧
      l.Extends l' struct ps := by
  induction h with
  | nil => exact ⟨l, rfl, [], (List.append_nil _).symm, rfl, nofun⟩
  | @snoc fields field ps p _ hp ih =>
    obtain ⟨l₁, hl₁, hextends⟩ := ih
    rw [← hextends.placements_eq] at hp
    obtain ⟨m, l₂, hl₂, hmembers₂, rfl, rfl⟩ :=
      addField_of_placed struct (index + fields.length) hp
    obtain ⟨ms, hmembers₁, rfl, hstruct⟩ := hextends
    refine ⟨l₂, ?_, ms ++ [m], ?_, List.map_append, ?_⟩
    · rw [addFields_append, hl₁]
      exact hl₂
    · rw [hmembers₂, hmembers₁, List.append_assoc]
    · exact List.forall_mem_append.2 ⟨hstruct, by simp⟩

theorem addFields_of_fault_behind {before : List Field} {ps : List Placement}
    (h : PlaceableBehind host l.placements before ps)
    (hfault : field.Fault host struct before.length (l.placements ++ ps) e) (after : List Field) :
    ∃ l', (l.addFields host struct 0 before).value = (.ok (), l') ∧
      (l.addFields host struct 0 (before ++ field :: after)).value = (.error e, l') ∧
      l.Extends l' struct ps := by
  obtain ⟨l', hl', hextends⟩ := addFields_of_behind struct 0 h
  refine ⟨l', hl', ?_, hextends⟩
  rw [← hextends.placements_eq] at hfault
  rw [addFields_append, hl']
  dsimp only
  rw [Nat.zero_add, addField_of_fault hfault]

theorem addFields_of_placeable {ps : List Placement} (struct : String)
    (h : Placeable host fields ps) :
    ∃ l, (Layout.empty.addFields host struct 0 fields).value = (.ok (), l) ∧ l.placements = ps ∧
      ∀ m ∈ l.members, m.struct = struct := by
  obtain ⟨l, hl, hextends⟩ :=
    addFields_of_behind (l := .empty) struct 0 (placeableBehind_nil.2 h)
  refine ⟨l, hl, hextends.placements_eq, ?_⟩
  obtain ⟨ms, hmembers, -, hstruct⟩ := hextends
  rwa [hmembers]

theorem addFields_of_fault {before : List Field} {ps : List Placement}
    (h : Placeable host before ps) (hfault : field.Fault host struct before.length ps e)
    (after : List Field) :
    ∃ l, (Layout.empty.addFields host struct 0 (before ++ field :: after)).value =
      (.error e, l) := by
  obtain ⟨l, -, hl, -⟩ :=
    addFields_of_fault_behind (l := .empty) (placeableBehind_nil.2 h) hfault after
  exact ⟨l, hl⟩

end Layout

namespace Field

/-- Behind the end of all earlier fields no byte is taken. -/
theorem Wants.disjoint_of_offset_none {earlier : List Placement} {p : Placement}
    (h : field.Wants host (Placement.reach earlier) p) (hoffset : field.offset = none) :
    ∀ q ∈ earlier, q.Disjoint p := by
  intro q hq
  have hp : p.offset = Placement.reach earlier := by simpa [hoffset] using h.offset
  exact .inl (hp ▸ Placement.stop_le_reach hq)

theorem Fault.ne_overlapping {earlier : List Placement}
    (h : field.Fault host struct index earlier e) (hoffset : field.offset = none)
    (s name other : String) : e ≠ .overlappingMember s name other := by
  rintro rfl
  cases h with
  | own h => cases h
  | bytesTaken hwants hrange hfresh hsplit hbefore hq =>
    exact hq (hwants.disjoint_of_offset_none hoffset _ (by simp [hsplit]))

theorem Fault.not_placed (h : field.Fault host struct index l.placements e) :
    ¬∃ p, field.Placed host l.placements p := by
  rintro ⟨p, hp⟩
  obtain ⟨m, l', hl', -⟩ := Layout.addField_of_placed struct index hp
  rw [Layout.addField_of_fault h] at hl'
  cases hl'

theorem placed_or_fault (host : σ) (struct : String) (index : Nat) (earlier : List Placement)
    (field : Field) :
    (∃ p, field.Placed host earlier p) ∨ ∃ e, field.Fault host struct index earlier e := by
  rcases field.wants_or_unplaceable host struct index (Placement.reach earlier) with
    ⟨p, hp, hrange⟩ | ⟨e, he⟩
  · by_cases htaken : ∃ q ∈ earlier, q.name = p.name
    · obtain ⟨q, hq, hname⟩ := htaken
      exact .inr ⟨_, .nameTaken hp hrange hq hname⟩
    · have hfresh : ∀ q ∈ earlier, q.name ≠ p.name := fun q hq hname => htaken ⟨q, hq, hname⟩
      cases hfind : earlier.find? (¬ ·.Disjoint p) with
      | none =>
        have hdisjoint : ∀ q ∈ earlier, q.Disjoint p := by simpa using hfind
        exact .inl ⟨p, hp, Nat.le_sub_one_of_lt hrange, hfresh, hdisjoint⟩
      | some q =>
        obtain ⟨hq, before, after, rfl, hbefore⟩ := List.find?_eq_some_iff_append.1 hfind
        have hbefore : ∀ r ∈ before, r.Disjoint p := by simpa using hbefore
        exact .inr ⟨_, .bytesTaken hp hrange hfresh rfl hbefore (by simpa using hq)⟩
  · exact .inr ⟨e, .own he⟩

end Field

theorem behind_or_fault (host : σ) (struct : String) (earlier : List Placement)
    (fields : List Field) :
    (∃ ps, PlaceableBehind host earlier fields ps) ∨ ∃ before field after ps e,
      fields = before ++ field :: after ∧ PlaceableBehind host earlier before ps ∧
        field.Fault host struct before.length (earlier ++ ps) e := by
  induction fields using List.reverseRecOn with
  | nil => exact .inl ⟨[], .nil⟩
  | append_singleton fields field ih =>
    rcases ih with ⟨ps, hps⟩ | ⟨before, first, after, ps, e, rfl, hps, he⟩
    · rcases field.placed_or_fault host struct fields.length (earlier ++ ps) with
        ⟨p, hp⟩ | ⟨e, he⟩
      · exact .inl ⟨ps ++ [p], hps.snoc hp⟩
      · exact .inr ⟨fields, field, [], ps, e, rfl, hps, he⟩
    · exact .inr ⟨before, first, after ++ [field], ps, e, by simp, hps, he⟩

theorem placeable_or_fault (host : σ) (struct : String) (fields : List Field) :
    (∃ ps, Placeable host fields ps) ∨ ∃ before field after ps e,
      fields = before ++ field :: after ∧ Placeable host before ps ∧
        field.Fault host struct before.length ps e := by
  have h := behind_or_fault host struct [] fields
  simpa only [placeableBehind_nil, List.nil_append] using h

namespace Descriptor

/-- Fields are laid out exactly if they can be placed in order, and then as they are placed. Else
the first one that cannot is reported; it gives its offset if its bytes are taken. -/
theorem parse_places (host : σ) (name : String) (fields : List Field) :
    (((ofName name).parse host fields).value.1 = .ok () ↔ ∃ ps, Placeable host fields ps) ∧
    (∀ ps, Placeable host fields ps → ∃ d,
      ((ofName name).parse host fields).value = (.ok (), d) ∧
      d.layout.members.map Member.placement = ps ∧ (∀ m ∈ d.layout.members, m.struct = name) ∧
      d.size.toNat = Placement.reach ps ∧ d.name = name ∧ d.state = .schemaParsed) ∧
    ∀ e, ((ofName name).parse host fields).value.1 = .error e ↔
      ∃ before field after ps, fields = before ++ field :: after ∧ Placeable host before ps ∧
        (¬∃ p, field.Placed host ps p) ∧ field.Fault host name before.length ps e ∧
        (field.offset = none → ∀ struct member other,
          e ≠ .overlappingMember struct member other) := by
  have hvalue : ((ofName name).parse host fields).value =
      match (Layout.empty.addFields host name 0 fields).value with
      | (.error e, layout) => (.error e, { ofName name with layout })
      | (.ok (), layout) => (.ok (), { ofName name with layout, state := .schemaParsed }) :=
    value_parse rfl host fields
  have hplaced : ∀ ps, Placeable host fields ps → ∃ d,
      ((ofName name).parse host fields).value = (.ok (), d) ∧
      d.layout.members.map Member.placement = ps ∧ (∀ m ∈ d.layout.members, m.struct = name) ∧
      d.size.toNat = Placement.reach ps ∧ d.name = name ∧ d.state = .schemaParsed := by
    intro ps hps
    obtain ⟨l, hl, rfl, hstruct⟩ := Layout.addFields_of_placeable name hps
    rw [hvalue, hl]
    exact ⟨_, rfl, rfl, hstruct, l.toNat_size, rfl, rfl⟩
  have hfault : ∀ before field after ps e, fields = before ++ field :: after →
      Placeable host before ps → field.Fault host name before.length ps e →
      ((ofName name).parse host fields).value.1 = .error e := by
    rintro before field after ps e rfl hps he
    obtain ⟨l, hl⟩ := Layout.addFields_of_fault hps he after
    rw [hvalue, hl]
  refine ⟨⟨fun hok => ?_, fun ⟨ps, hps⟩ => ?_⟩, hplaced, fun e => ⟨fun herror => ?_, ?_⟩⟩
  · rcases placeable_or_fault host name fields with hps | ⟨before, field, after, ps, e, h, hps, he⟩
    · exact hps
    · exact absurd ((hfault before field after ps e h hps he).symm.trans hok) nofun
  · obtain ⟨d, hd, -⟩ := hplaced ps hps
    rw [hd]
  · rcases placeable_or_fault host name fields with
      ⟨ps, hps⟩ | ⟨before, field, after, ps, e', h, hps, he⟩
    · obtain ⟨d, hd, -⟩ := hplaced ps hps
      rw [hd] at herror
      cases herror
    · have hsame := (hfault before field after ps e' h hps he).symm.trans herror
      obtain rfl := Except.error.inj hsame
      refine ⟨before, field, after, ps, h, hps, ?_, he, fun hoffset => he.ne_overlapping hoffset⟩
      obtain ⟨l, -, rfl, -⟩ := Layout.addFields_of_placeable name hps
      exact he.not_placed
  · rintro ⟨before, field, after, ps, h, hps, -, he, -⟩
    exact hfault before field after ps e h hps he

/-- A name made of an offset can be one that is given. -/
example : ((ofName "s").parse (Database.empty 8)
    [.atOffset 8 "int", .named "next" "void *", (Field.named "head" "char[8]").withOffset 0,
      .named "field_8" "char"]).value.1 = .error (.duplicateMember "s" "field_8") := by
  decide +kernel

end Descriptor

end StructSync
