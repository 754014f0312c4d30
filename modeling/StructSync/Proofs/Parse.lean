import Mathlib
import StructSync.Descriptor

/-!
# Parsing against another host

Parsing asks a host for nothing but the types of the declared fields. Main statements: fields that
are parsed give the same layout on every host that resolves their types alike
(`Descriptor.parse_agrees`), and one member each (`Descriptor.parse_ok`).
-/

namespace StructSync

variable {σ τ : Type} [Host σ] [Host τ] {host : σ} {other : τ}

/-- The other host gives the same type wherever the host gives one to the field. -/
def Field.Agrees (field : Field) (host : σ) (other : τ) : Prop :=
  ∀ text type, field.type = some text → Host.parseType host text = .ok type →
    Host.parseType other text = .ok type

theorem DeclaredType.value_resolve (host : σ) (text : String) :
    (resolve host text).value =
      match Host.parseType host text with
      | .error e => .error e
      | .ok type =>
        if sized : type.size ≠ 0 then .ok { text, type, sized }
        else .error (.declaration text .noSize) := by
  unfold resolve
  cases Host.parseType host text with
  | error e => rfl
  | ok type =>
    dsimp only
    split <;> rfl

theorem DeclaredType.resolve_eq_ok {text : String} {type : DeclaredType} :
    (resolve host text).value = .ok type ↔
      type.text = text ∧ Host.parseType host text = .ok type.type := by
  rw [value_resolve]
  cases Host.parseType host text with
  | error e => simp
  | ok found =>
    dsimp only
    constructor
    · intro h
      split at h
      · cases h
        exact ⟨rfl, rfl⟩
      · cases h
    · rintro ⟨rfl, hfound⟩
      cases hfound
      exact dif_pos type.sized

namespace Member

theorem value_ofField (host : σ) (struct : String) (index : Nat) (size : UInt64) (field : Field) :
    (ofField host struct index size field).value =
      match field.memberName? with
      | none => .error (.missingName struct index)
      | some name =>
        if Text.isBlankText name then .error (.emptyName struct index)
        else
          match field.type with
          | none => .error (.missingType struct name)
          | some text =>
            match (DeclaredType.resolve host text).value with
            | .error source => .error (.unresolvedType (struct ++ "." ++ name) text source)
            | .ok type =>
              if fits : (field.offset.getD size).toNat + type.size.toNat < UInt64.size then
                .ok { struct, name, offset := field.offset.getD size, type, fits }
              else .error (.offsetOverflow struct name) := by
  unfold ofField
  rw [Logged.value_bind]
  cases field.memberName? with
  | none => rfl
  | some name =>
    dsimp only
    split
    · rfl
    · cases field.type with
      | none => rfl
      | some text =>
        dsimp only
        rw [Logged.value_bind]
        cases (DeclaredType.resolve host text).value with
        | error source => rfl
        | ok type =>
          dsimp only
          split <;> rfl

theorem ofField_eq_ok {struct : String} {index : Nat} {size : UInt64} {field : Field} {m : Member} :
    (ofField host struct index size field).value = .ok m ↔
      ∃ name text type, ∃ fits : (field.offset.getD size).toNat + type.size.toNat < UInt64.size,
        field.memberName? = some name ∧ Text.isBlankText name = false ∧ field.type = some text ∧
          (DeclaredType.resolve host text).value = .ok type ∧
          m = { struct, name, offset := field.offset.getD size, type, fits } := by
  rw [value_ofField]
  constructor
  · intro hm
    cases hname : field.memberName? with
    | none => simp [hname] at hm
    | some name =>
      cases hblank : Text.isBlankText name with
      | true => simp [hname, hblank] at hm
      | false =>
        cases htype : field.type with
        | none => simp [hname, hblank, htype] at hm
        | some text =>
          simp only [hname, hblank, htype, Bool.false_eq_true, ↓reduceIte] at hm
          cases hresolve : (DeclaredType.resolve host text).value with
          | error source => simp [hresolve] at hm
          | ok type =>
            rw [hresolve] at hm
            dsimp only at hm
            split at hm
            · cases hm
              exact ⟨name, text, type, ‹_›, rfl, hblank, rfl, hresolve, rfl⟩
            · cases hm
  · rintro ⟨name, text, type, fits, hname, hblank, htype, hresolve, rfl⟩
    simp only [hname, hblank, htype, hresolve, Bool.false_eq_true, ↓reduceIte, dif_pos fits]

variable {struct : String} {index : Nat} {size : UInt64} {field : Field} {m : Member}

theorem ofField_agrees (h : field.Agrees host other)
    (hm : (ofField host struct index size field).value = .ok m) :
    (ofField other struct index size field).value = .ok m := by
  obtain ⟨name, text, type, fits, hname, hblank, htype, hresolve, rfl⟩ := ofField_eq_ok.1 hm
  obtain ⟨htext, hparse⟩ := DeclaredType.resolve_eq_ok.1 hresolve
  have hresolve' : (DeclaredType.resolve other text).value = .ok type :=
    DeclaredType.resolve_eq_ok.2 ⟨htext, h text _ htype hparse⟩
  exact ofField_eq_ok.2 ⟨name, text, type, fits, hname, hblank, htype, hresolve', rfl⟩

theorem ofField_type (hm : (ofField host struct index size field).value = .ok m) :
    field.type = some m.type.text ∧ Host.parseType host m.type.text = .ok m.type.type := by
  obtain ⟨name, text, type, fits, -, -, htype, hresolve, rfl⟩ := ofField_eq_ok.1 hm
  obtain ⟨rfl, hparse⟩ := DeclaredType.resolve_eq_ok.1 hresolve
  exact ⟨htype, hparse⟩

end Member

namespace Layout

theorem value_addFields_cons (host : σ) (struct : String) (index : Nat) (l : Layout) (field : Field)
    (fields : List Field) :
    (l.addFields host struct index (field :: fields)).value =
      match (Member.ofField host struct index l.size field).value with
      | .error e => (.error e, l)
      | .ok m =>
        match l.add m with
        | .error e => (.error e, l)
        | .ok l => (l.addFields host struct (index + 1) fields).value := by
  rw [addFields, Logged.value_bind]
  cases (Member.ofField host struct index l.size field).value with
  | error e => rfl
  | ok m =>
    dsimp only
    cases l.add m <;> rfl

variable {struct : String} {index : Nat} {l l' : Layout} {field : Field} {fields : List Field}

theorem members_add {m : Member} (h : l.add m = .ok l') : l'.members = l.members ++ [m] := by
  unfold add at h
  split at h
  · cases h
  · split at h <;> cases h
    rfl

theorem addFields_cons_eq_ok :
    (l.addFields host struct index (field :: fields)).value = (.ok (), l') ↔
      ∃ m l₁, (Member.ofField host struct index l.size field).value = .ok m ∧ l.add m = .ok l₁ ∧
        (l₁.addFields host struct (index + 1) fields).value = (.ok (), l') := by
  rw [value_addFields_cons]
  cases (Member.ofField host struct index l.size field).value with
  | error e => simp
  | ok m =>
    cases hadd : l.add m <;> simp [hadd]

theorem addFields_agrees (hfields : ∀ field ∈ fields, field.Agrees host other)
    (h : (l.addFields host struct index fields).value = (.ok (), l')) :
    (l.addFields other struct index fields).value = (.ok (), l') := by
  induction fields generalizing index l with
  | nil => exact h
  | cons field fields ih =>
    obtain ⟨hfield, hfields⟩ := List.forall_mem_cons.1 hfields
    obtain ⟨m, l₁, hm, hadd, hrest⟩ := addFields_cons_eq_ok.1 h
    exact addFields_cons_eq_ok.2 ⟨m, l₁, Member.ofField_agrees hfield hm, hadd, ih hfields hrest⟩

theorem length_addFields (h : (l.addFields host struct index fields).value = (.ok (), l')) :
    l'.members.length = l.members.length + fields.length := by
  induction fields generalizing index l with
  | nil =>
    cases h
    rfl
  | cons field fields ih =>
    obtain ⟨m, l₁, -, hadd, hrest⟩ := addFields_cons_eq_ok.1 h
    rw [ih hrest, members_add hadd, List.length_append, List.length_singleton, List.length_cons]
    omega

theorem addFields_types (h : (l.addFields host struct index fields).value = (.ok (), l')) :
    ∀ field ∈ fields, ∃ text type, field.type = some text ∧
      Host.parseType host text = .ok type := by
  induction fields generalizing index l with
  | nil => exact nofun
  | cons field fields ih =>
    obtain ⟨m, l₁, hm, -, hrest⟩ := addFields_cons_eq_ok.1 h
    exact List.forall_mem_cons.2 ⟨⟨_, _, Member.ofField_type hm⟩, ih hrest⟩

end Layout

namespace Descriptor

variable {d d' : Descriptor} {fields : List Field} {name : String}

theorem value_parse (hd : d.state = .uninitialized) (host : σ) (fields : List Field) :
    (d.parse host fields).value =
      match (d.layout.addFields host d.name 0 fields).value with
      | (.error e, layout) => (.error e, { d with layout })
      | (.ok (), layout) => (.ok (), { d with layout, state := .schemaParsed }) := by
  unfold parse
  rw [if_neg (by simp [hd]), Logged.value_bind]
  rcases (d.layout.addFields host d.name 0 fields).value with ⟨e | _, layout⟩ <;> rfl

theorem value_parse_ofName (host : σ) (name : String) (fields : List Field) :
    ((ofName name).parse host fields).value =
      match (Layout.empty.addFields host name 0 fields).value with
      | (.error e, layout) => (.error e, { ofName name with layout })
      | (.ok (), layout) => (.ok (), { ofName name with layout, state := .schemaParsed }) :=
  value_parse rfl host fields

theorem parse_ofName_eq_ok :
    ((ofName name).parse host fields).value = (.ok (), d) ↔
      ∃ layout, (Layout.empty.addFields host name 0 fields).value = (.ok (), layout) ∧
        d = { ofName name with layout, state := .schemaParsed } := by
  rw [value_parse_ofName]
  rcases (Layout.empty.addFields host name 0 fields).value with ⟨e | _, layout⟩
  · simp
  · simpa using eq_comm

theorem parse_ok (h : ((ofName name).parse host fields).value = (.ok (), d)) :
    d.name = name ∧ d.state = .schemaParsed ∧ d.layout.members.length = fields.length := by
  obtain ⟨layout, hl, rfl⟩ := parse_ofName_eq_ok.1 h
  exact ⟨rfl, rfl, (Layout.length_addFields hl).trans (Nat.zero_add _)⟩

theorem parse_agrees (hfields : ∀ field ∈ fields, field.Agrees host other)
    (h : ((ofName name).parse host fields).value = (.ok (), d)) :
    ((ofName name).parse other fields).value = (.ok (), d) := by
  obtain ⟨layout, hl, rfl⟩ := parse_ofName_eq_ok.1 h
  exact parse_ofName_eq_ok.2 ⟨layout, Layout.addFields_agrees hfields hl, rfl⟩

theorem parse_types (h : ((ofName name).parse host fields).value = (.ok (), d)) :
    ∀ field ∈ fields, ∃ text type, field.type = some text ∧
      Host.parseType host text = .ok type := by
  obtain ⟨layout, hl, -⟩ := parse_ofName_eq_ok.1 h
  exact Layout.addFields_types hl

end Descriptor

end StructSync
