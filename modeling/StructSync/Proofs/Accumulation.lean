import Mathlib
import StructSync.Proofs.LifeCycle
import StructSync.Proofs.Placement

/-!
# Parses that fail

A parse that fails leaves the descriptor where it was, with the members of the fields before the
faulty one behind those that it had. So the next parse goes on where this one has stopped. Main
statement (`Descriptor.parse_accumulates`): the fields of both, the faulty one and those after it
left out, give in one parse what they give in two, numbers of fields in messages apart
(`SyncError.shift`).
-/

namespace StructSync

/-- The error for fields that stand that many places further back. -/
def SyncError.shift (n : Nat) : SyncError → SyncError
  | missingName struct index => missingName struct (index + n)
  | emptyName struct index => emptyName struct (index + n)
  | e => e

/-- What comes of fields that stand that many places further back. -/
def SyncError.shiftResult {α : Type} (n : Nat) :
    Except SyncError Unit × α → Except SyncError Unit × α
  | (.error e, a) => (.error (e.shift n), a)
  | (.ok (), a) => (.ok (), a)

open SyncError (shiftResult)

variable {σ : Type} [Host σ] {host : σ} {struct : String} {fields before : List Field}

theorem Member.ofField_shift (host : σ) (struct : String) (index n : Nat) (size : UInt64)
    (field : Field) :
    (ofField host struct (index + n) size field).value =
      (ofField host struct index size field).value.mapError (·.shift n) := by
  rw [value_ofField, value_ofField]
  cases field.memberName? with
  | none => rfl
  | some name =>
    dsimp only
    split
    · rfl
    · cases field.type with
      | none => rfl
      | some text =>
        dsimp only
        cases (DeclaredType.resolve host text).value with
        | error source => rfl
        | ok type =>
          dsimp only
          split <;> rfl

namespace Layout

variable {l l' : Layout}

theorem add_shift {m : Member} {e : SyncError} (h : l.add m = .error e) (n : Nat) :
    e.shift n = e := by
  unfold add at h
  split at h
  · cases h
    rfl
  · split at h <;> cases h
    rfl

theorem addFields_shift (host : σ) (struct : String) (index n : Nat) (l : Layout)
    (fields : List Field) :
    (l.addFields host struct (index + n) fields).value =
      shiftResult n (l.addFields host struct index fields).value := by
  induction fields generalizing index l with
  | nil => rfl
  | cons field fields ih =>
    rw [value_addFields_cons, value_addFields_cons, Member.ofField_shift]
    cases (Member.ofField host struct index l.size field).value with
    | error e => rfl
    | ok m =>
      dsimp only [Except.mapError]
      cases hadd : l.add m with
      | error e =>
        dsimp only [shiftResult]
        rw [add_shift hadd n]
      | ok l' =>
        dsimp only
        rw [Nat.add_right_comm, ih]

theorem placements_apart (l : Layout) :
    l.placements.Pairwise fun p q => p.name ≠ q.name ∧ p.Disjoint q := by
  refine List.pairwise_map.2 (l.apart.imp fun {a b} h => ⟨h.1, ?_⟩)
  rw [Placement.Disjoint, Member.stop_placement, Member.stop_placement]
  exact h.2.imp UInt64.le_iff_toNat_le.1 UInt64.le_iff_toNat_le.1

theorem stop_placements_le (l : Layout) : ∀ p ∈ l.placements, p.stop ≤ 2 ^ 64 - 1 := by
  intro p hp
  obtain ⟨m, -, rfl⟩ := List.mem_map.1 hp
  rw [m.stop_placement]
  exact Nat.le_pred_of_lt m.stop.toNat_lt

end Layout

namespace Descriptor

variable {d d' : Descriptor}

/-- The members are those that a fresh descriptor gets from the fields. -/
def Holds (d : Descriptor) (host : σ) (fields : List Field) : Prop :=
  ((ofName d.name).parse host fields).value =
    (.ok (), { ofName d.name with layout := d.layout, state := .schemaParsed })

/-- The descriptor without the ids of its members. -/
def unbound (d : Descriptor) : Descriptor := { d with bindings := [] }

theorem holds_iff : d.Holds host fields ↔
    (Layout.empty.addFields host d.name 0 fields).value = (.ok (), d.layout) := by
  rw [Holds, parse_ofName_eq_ok]
  constructor
  · rintro ⟨layout, hl, hd⟩
    obtain rfl : d.layout = layout := congrArg Descriptor.layout hd
    exact hl
  · exact fun hl => ⟨d.layout, hl, rfl⟩

theorem parse_append {l : Layout} (hd : d.state = .uninitialized)
    (hbefore : (d.layout.addFields host d.name 0 before).value = (.ok (), l)) (later : List Field) :
    (d.parse host (before ++ later)).value =
      shiftResult before.length ({ d with layout := l }.parse host later).value := by
  rw [value_parse hd, value_parse (d := { d with layout := l }) hd, Layout.addFields_append,
    hbefore]
  dsimp only
  rw [Layout.addFields_shift]
  rcases (l.addFields host d.name 0 later).value with ⟨e | _, l'⟩ <;> rfl

theorem parse_unbound (hd : d.state = .uninitialized) (host : σ) (fields : List Field) :
    (d.unbound.parse host fields).value =
      ((d.parse host fields).value.1, (d.parse host fields).value.2.unbound) := by
  have hsame : d.unbound.layout.addFields host d.unbound.name 0 fields =
      d.layout.addFields host d.name 0 fields := rfl
  rw [value_parse hd, value_parse (d := d.unbound) hd, hsame]
  rcases (d.layout.addFields host d.name 0 fields).value with ⟨e | _, l⟩ <;> rfl

namespace Holds

/-- A descriptor goes on from its members as a fresh one does behind the fields that make them. -/
theorem parse (h : d.Holds host fields) (hd : d.state = .uninitialized) (later : List Field) :
    ((ofName d.name).parse host (fields ++ later)).value =
      shiftResult fields.length
        ((d.parse host later).value.1, (d.parse host later).value.2.unbound) := by
  have hself : { ofName d.name with layout := d.layout } = d.unbound := by
    simp [ofName, unbound, hd]
  have hfields : ((ofName d.name).layout.addFields host (ofName d.name).name 0 fields).value =
      (.ok (), d.layout) := holds_iff.1 h
  rw [parse_append rfl hfields, hself, parse_unbound hd]

theorem append {l : Layout} (h : d.Holds host fields)
    (hbefore : (d.layout.addFields host d.name 0 before).value = (.ok (), l)) :
    { d with layout := l }.Holds host (fields ++ before) := by
  refine holds_iff.2 ?_
  rw [Layout.addFields_append, holds_iff.1 h]
  dsimp only
  rw [Nat.zero_add, ← Nat.zero_add fields.length, Layout.addFields_shift, hbefore]
  rfl

end Holds

/-- A parse that fails leaves the members of the fields before the first faulty one. -/
theorem parse_fails {e : SyncError} (hd : d.state = .uninitialized)
    (hfails : (d.parse host fields).value.1 = .error e) :
    ∃ before field after ps l, fields = before ++ field :: after ∧
      PlaceableBehind host d.layout.placements before ps ∧
      field.Fault host d.name before.length (d.layout.placements ++ ps) e ∧
      (d.layout.addFields host d.name 0 before).value = (.ok (), l) ∧
      (d.parse host fields).value.2 = { d with layout := l } ∧
      d.layout.Extends l d.name ps := by
  rw [value_parse hd] at hfails ⊢
  rcases behind_or_fault host d.name d.layout.placements fields with
    ⟨ps, hps⟩ | ⟨before, field, after, ps, e', rfl, hps, he⟩
  · obtain ⟨l, hl, -⟩ := Layout.addFields_of_behind d.name 0 hps
    rw [hl] at hfails
    cases hfails
  · obtain ⟨l, hbefore, hl, hextends⟩ := Layout.addFields_of_fault_behind hps he after
    rw [hl] at hfails ⊢
    obtain rfl := Except.error.inj hfails
    exact ⟨before, field, after, ps, l, rfl, hps, he, hbefore, rfl, hextends⟩

/-- After parses on one host that have all failed, the members are those that a fresh descriptor
gets from some of the fields. -/
theorem exists_holds (name : String) (host : σ) (schemas : List (List Field))
    (hd : ((ofName name).takeAll (schemas.map (.parse host))).state = .uninitialized) :
    ∃ held, held.Sublist schemas.flatten ∧
      ((ofName name).takeAll (schemas.map (.parse host))).Holds host held := by
  induction schemas using List.reverseRecOn with
  | nil => exact ⟨[], .slnil, rfl⟩
  | append_singleton schemas fields ih =>
    rw [List.map_append, takeAll_append] at hd ⊢
    generalize (ofName name).takeAll (schemas.map (.parse host)) = d at hd ih ⊢
    -- a parse that succeeds is the last one
    have hstate : d.state = .uninitialized :=
      by_contra fun hstate => (take_of_parsed hstate (.parse host fields)).1 hd
    cases hresult : (d.parse host fields).value.1 with
    | ok _ => exact absurd (hd.symm.trans (parse_ok_state hresult)) (by simp)
    | error e =>
      obtain ⟨held, hsublist, hheld⟩ := ih hstate
      obtain ⟨before, field, after, -, l, rfl, -, -, hbefore, hl, -⟩ := parse_fails hstate hresult
      refine ⟨held ++ before, ?_, ?_⟩
      · rw [List.flatten_append, List.flatten_singleton]
        exact hsublist.append (List.sublist_append_left _ _)
      · change (d.parse host _).value.2.Holds host _
        rw [hl]
        exact hheld.append hbefore

theorem parse_extends (hd : d.state = .uninitialized) (host : σ) (fields : List Field) :
    ∃ ps, d.layout.Extends (d.parse host fields).value.2.layout d.name ps := by
  rw [value_parse hd]
  rcases behind_or_fault host d.name d.layout.placements fields with
    ⟨ps, hps⟩ | ⟨before, field, after, ps, e, rfl, hps, he⟩
  · obtain ⟨l, hl, hextends⟩ := Layout.addFields_of_behind d.name 0 hps
    rw [hl]
    exact ⟨ps, hextends⟩
  · obtain ⟨l, -, hl, hextends⟩ := Layout.addFields_of_fault_behind hps he after
    rw [hl]
    exact ⟨ps, hextends⟩

/-- A descriptor's name stays, and its members are members of the struct of that name. -/
theorem takeAll_ofName (name : String) (turns : List Turn) :
    ((ofName name).takeAll turns).name = name ∧
      ∀ m ∈ ((ofName name).takeAll turns).layout.members, m.struct = name := by
  refine takeAll_induction (P := fun x => x.name = name ∧ ∀ m ∈ x.layout.members, m.struct = name)
    (fun x turn ⟨hname, hmembers⟩ => ⟨(take_name x turn).trans hname, ?_⟩)
    ⟨rfl, fun _ hm => absurd hm List.not_mem_nil⟩ turns
  by_cases hx : x.state = .uninitialized
  · cases turn with
    | parse host fields =>
      obtain ⟨_, ms, hms, -, hstruct⟩ := parse_extends hx host fields
      rw [take, hms, ← hname]
      exact List.forall_mem_append.2 ⟨hname ▸ hmembers, hstruct⟩
    | validate host id =>
      obtain ⟨bindings, h⟩ := validate_name host id x
      rw [take, h]
      exact hmembers
    | call host c =>
      rw [take, (c.run_alike x host).2]
      exact hmembers
  · rw [(take_of_parsed hx turn).2]
    exact hmembers

/-- A parse that fails leaves the descriptor uninitialized. Behind the members that were there it
has those of the fields before the first faulty one. On the same host the next parse gives what the
descriptor would have given for the fields that made members and the next ones in one parse, and
what a fresh descriptor gives for the fields that made its members and the next ones, if there are
such fields: there are if all parses were on this host. -/
theorem parse_accumulates (name : String) (turns : List Turn) (host : σ) (fields : List Field)
    (e : SyncError) (hd : ((ofName name).takeAll turns).state = .uninitialized)
    (hfails : (((ofName name).takeAll turns).parse host fields).value.1 = .error e) :
    let d := (ofName name).takeAll turns
    let d' := (d.parse host fields).value.2
    ∃ before field after ps, fields = before ++ field :: after ∧
      PlaceableBehind host d.layout.placements before ps ∧
      (¬∃ p, field.Placed host (d.layout.placements ++ ps) p) ∧
      field.Fault host name before.length (d.layout.placements ++ ps) e ∧
      d'.state = .uninitialized ∧
      d'.layout.placements = d.layout.placements ++ ps ∧
      (∀ m ∈ d'.layout.members, m.struct = name) ∧
      d'.size.toNat = Placement.reach d'.layout.placements ∧
      d'.layout.placements.Pairwise (fun p q => p.name ≠ q.name ∧ p.Disjoint q) ∧
      (∀ p ∈ d'.layout.placements, p.stop ≤ 2 ^ 64 - 1) ∧
      (∀ schemas : List (List Field), turns = schemas.map (.parse host) →
        ∃ held, held.Sublist schemas.flatten ∧ d.Holds host held) ∧
      ∀ later : List Field,
        (d.parse host (before ++ later)).value =
          shiftResult before.length (d'.parse host later).value ∧
        ∀ held : List Field, d.Holds host held → d'.Holds host (held ++ before) ∧
          ((ofName name).parse host (held ++ before ++ later)).value =
            shiftResult (held ++ before).length
              ((d'.parse host later).value.1, (d'.parse host later).value.2.unbound) := by
  intro d d'
  have hname : d.name = name := (takeAll_ofName name turns).1
  have hstruct : ∀ m ∈ d'.layout.members, m.struct = name := by
    have := (takeAll_ofName name (turns ++ [.parse host fields])).2
    rwa [takeAll_append] at this
  obtain ⟨before, field, after, ps, l, hfields, hps, he, hbefore, hl, hextends⟩ :=
    parse_fails hd hfails
  have hd' : d' = { d with layout := l } := hl
  have hplacements : d'.layout.placements = d.layout.placements ++ ps := by
    rw [hd']
    exact hextends.placements_eq
  have hunplaced : ¬∃ p, field.Placed host (d.layout.placements ++ ps) p := by
    rw [← hextends.placements_eq] at he ⊢
    exact he.not_placed
  refine ⟨before, field, after, ps, hfields, hps, hunplaced, hname ▸ he, by rw [hd']; exact hd,
    hplacements, hstruct, d'.layout.toNat_size, d'.layout.placements_apart,
    d'.layout.stop_placements_le, ?_, fun later => ⟨?_, fun held hheld => ?_⟩⟩
  · rintro schemas rfl
    exact exists_holds name host schemas hd
  · rw [hd']
    exact parse_append hd hbefore later
  · have hheld' : d'.Holds host (held ++ before) := by
      rw [hd']
      exact hheld.append hbefore
    have hname' : d'.name = name := by rw [hd']; exact hname
    refine ⟨hheld', ?_⟩
    rw [← hname']
    exact hheld'.parse (by rw [hd']; exact hd) later

/-- After two parses that fail the next one goes on from the members of both. -/
theorem parse_accumulates_twice :
    let db := Database.empty 8
    let untyped : Field := ⟨some "rest", none, none⟩
    let d := (ofName "pair").takeAll [.parse db [.named "a" "int", untyped]]
    let d' := (d.parse db [.named "b" "int", untyped]).value.2
    d.state = .uninitialized ∧
      (d.parse db [.named "b" "int", untyped]).value.1 = .error (.missingType "pair" "rest") ∧
      d.Holds db [.named "a" "int"] ∧ d'.size = 8 ∧
      ∃ before field after, [.named "b" "int", untyped] = before ++ field :: after ∧
        ∀ later : List Field,
          ((ofName "pair").parse db ([.named "a" "int"] ++ before ++ later)).value =
            shiftResult ([.named "a" "int"] ++ before).length
              ((d'.parse db later).value.1, (d'.parse db later).value.2.unbound) := by
  intro db untyped d d'
  have hd : d.state = .uninitialized := by decide +kernel
  have hfails : (d.parse db [.named "b" "int", untyped]).value.1 =
      .error (.missingType "pair" "rest") := by decide +kernel
  have hheld : d.Holds db [.named "a" "int"] := by
    unfold Holds
    decide +kernel
  obtain ⟨before, field, after, -, hfields, -, -, -, -, -, -, -, -, -, -, hlater⟩ :=
    parse_accumulates "pair" [.parse db [.named "a" "int", untyped]] db
      [.named "b" "int", untyped] _ hd hfails
  exact ⟨hd, hfails, hheld, by decide +kernel, before, field, after, hfields,
    fun later => ((hlater later).2 _ hheld).2⟩

/-- So members can be there that no field of the last parse has made. -/
theorem parse_keeps_earlier_members :
    let db := Database.empty 8
    let untyped : Field := ⟨some "rest", none, none⟩
    let d := (ofName "pair").takeAll [.parse db [.named "a" "int", untyped]]
    let d' := (d.parse db [.named "b" "int", untyped]).value.2
    d.state = .uninitialized ∧
      (d.parse db [.named "b" "int", untyped]).value.1 = .error (.missingType "pair" "rest") ∧
      d'.layout ≠ ((ofName "pair").parse db [.named "b" "int"]).value.2.layout ∧
      (d'.parse db [.named "c" "int"]).value.2.layout ≠
        ((ofName "pair").parse db [.named "b" "int", .named "c" "int"]).value.2.layout := by
  decide +kernel

end Descriptor

end StructSync
