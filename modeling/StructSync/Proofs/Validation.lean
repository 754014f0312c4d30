import Mathlib
import StructSync.Descriptor
import StructSync.Proofs.Work

/-!
# What a validation finds

`Descriptor.differences` lists what `Descriptor.validate` puts into its report, without the log.
Main statement (`differences_eq_nil_iff`): there is no difference exactly if the host gives the
declared size and its members are, in some order, the declared ones with their names and ranges.
-/

namespace StructSync

/-- Name, first byte and end of a member, as a host reports them. -/
def HostMember.range (m : HostMember) : String × UInt64 × UInt64 := (m.name, m.start, m.stop)

/-- Name, first byte and end of a declared member. -/
def Member.range (m : Member) : String × UInt64 × UInt64 := (m.name, m.offset, m.stop)

namespace Layout

variable {l : Layout} {m : Member} {name : String}

theorem names_nodup (l : Layout) : (l.members.map (·.name)).Nodup :=
  List.pairwise_map.2 (l.apart.imp fun h => h.1)

theorem find?_eq_some : l.find? name = some m ↔ m ∈ l.members ∧ m.name = name := by
  constructor
  · intro h
    exact ⟨List.mem_of_find?_eq_some h, by simpa using List.find?_some h⟩
  · rintro ⟨hm, hname⟩
    cases h : l.find? name with
    | none => exact absurd (by simpa using hname) (List.find?_eq_none.1 h m hm)
    | some x =>
      have hx : x.name = name := by simpa using List.find?_some h
      have := List.inj_on_of_nodup_map l.names_nodup (List.mem_of_find?_eq_some h) hm
        (hx.trans hname.symm)
      rw [this]

theorem find?_eq_none : l.find? name = none ↔ ∀ m ∈ l.members, m.name ≠ name := by
  simp [find?]

/-- What is found for one reported member. -/
def comparison (l : Layout) (stored : HostMember) : List Mismatch :=
  match l.find? stored.name with
  | none => [.unexpectedMember stored.name stored.start]
  | some m => m.mismatches stored

/-- The binding that one reported member makes. -/
def binding (l : Layout) (stored : HostMember) : Bindings :=
  match l.find? stored.name with
  | none => []
  | some m => if (m.mismatches stored).isEmpty then [(m.name, stored.id)] else []

end Layout

namespace Member

variable {m : Member} {stored : HostMember}

theorem mismatches_eq_nil : m.mismatches stored = [] ↔ stored.range = m.range := by
  have hstop := m.toNat_stop
  have hlt := UInt64.lt_iff_toNat_lt.1 m.offset_lt_stop
  have hsize : stored.start = m.offset → (stored.size = m.size ↔ stored.stop = m.stop) := by
    intro hstart
    rw [HostMember.size, ← UInt64.toNat_inj, ← UInt64.toNat_inj, toNat_subClamped, hstart]
    omega
  unfold mismatches HostMember.range range
  by_cases hname : stored.name = m.name
  · by_cases hstart : stored.start = m.offset
    · simp [hname, hstart, hsize hstart]
    · simp [hstart]
  · simp [hname]

end Member

theorem Report.isMatch_iff {report : Report} : report.isMatch = true ↔ report.mismatches = [] :=
  List.isEmpty_iff

namespace Descriptor

/-- What a validation finds: the size, the reported members one by one, their number, and the
declared members that are not reported. -/
def differences (d : Descriptor) (size : UInt64) (stored : List HostMember) : List Mismatch :=
  (if size = d.size then [] else [.structSize d.size size])
    ++ stored.flatMap d.layout.comparison
    ++ (if stored.length = d.layout.members.length then []
        else [.memberCount d.layout.members.length stored.length])
    ++ missing d.layout stored

/-- The bindings that a validation leaves. -/
def bound (d : Descriptor) (size : UInt64) (stored : List HostMember) : Bindings :=
  if (d.differences size stored).isEmpty then
    stored.reverse.flatMap d.layout.binding ++ d.bindings
  else []

theorem value_compare (l : Layout) (report : Report) (bindings : Bindings) (stored : HostMember) :
    (compare l (report, bindings) stored).value =
      ({ report with mismatches := report.mismatches ++ l.comparison stored },
        l.binding stored ++ bindings) := by
  unfold compare Layout.comparison Layout.binding
  cases l.find? stored.name with
  | none => rfl
  | some m =>
    simp only [Logged.value_bind, Member.value_validate]
    by_cases hm : (m.mismatches stored).isEmpty = true
    · rw [List.isEmpty_iff.1 hm, List.append_nil]
      rfl
    · simp only [hm, Bool.false_eq_true, ↓reduceIte, Logged.value_bind, Report.value_extend,
        Logged.value_pure, List.nil_append]

theorem foldl_compare (l : Layout) (report : Report) (bindings : Bindings)
    (stored : List HostMember) :
    stored.foldl (fun found s => (compare l found s).value) (report, bindings) =
      ({ report with mismatches := report.mismatches ++ stored.flatMap l.comparison },
        stored.reverse.flatMap l.binding ++ bindings) := by
  induction stored generalizing report bindings with
  | nil => simp
  | cons s stored ih =>
    rw [List.foldl_cons, value_compare, ih]
    simp

theorem value_validate {σ : Type} [Host σ] (host : σ) (id : StructId) (d : Descriptor) :
    (d.validate host id).value =
      match Host.structSize host id, Host.members host id with
      | .error e, _ => (.error (.host e), d)
      | .ok _, .error e => (.error (.host e), d)
      | .ok size, .ok stored =>
        (.ok ⟨d.name, d.differences size stored⟩, { d with bindings := d.bound size stored }) := by
  unfold validate
  cases Host.structSize host id with
  | error e => rfl
  | ok size =>
    simp only [Logged.value_bind]
    cases Host.members host id with
    | error e => rfl
    | ok stored =>
      simp only [Logged.value_bind, Report.value_extend, Logged.value_foldlM, foldl_compare,
        Logged.value_pure, List.nil_append]
      rfl

theorem validate_name {σ : Type} [Host σ] (host : σ) (id : StructId) (d : Descriptor) :
    ∃ bindings, (d.validate host id).value.2 = { d with bindings } := by
  rw [value_validate]
  rcases Host.structSize host id with _ | size
  · exact ⟨_, rfl⟩
  · rcases Host.members host id with _ | stored
    · exact ⟨_, rfl⟩
    · exact ⟨_, rfl⟩

variable {d : Descriptor} {size : UInt64} {stored : List HostMember}

theorem comparison_eq_nil {l : Layout} {s : HostMember} :
    l.comparison s = [] ↔ ∃ m ∈ l.members, s.range = m.range := by
  unfold Layout.comparison
  cases h : l.find? s.name with
  | none =>
    simp only [reduceCtorEq, false_iff, not_exists, not_and]
    intro m hm hrange
    exact Layout.find?_eq_none.1 h m hm (congrArg Prod.fst hrange).symm
  | some m =>
    have hm := Layout.find?_eq_some.1 h
    rw [Member.mismatches_eq_nil]
    constructor
    · intro hrange
      exact ⟨m, hm.1, hrange⟩
    · rintro ⟨x, hx, hrange⟩
      have hfind : l.find? s.name = some x :=
        Layout.find?_eq_some.2 ⟨hx, (congrArg Prod.fst hrange).symm⟩
      rw [h] at hfind
      exact Option.some.inj hfind ▸ hrange

theorem missing_eq_nil {l : Layout} :
    missing l stored = [] ↔ ∀ m ∈ l.members, m.name ∈ stored.map (·.name) := by
  have hany (m : Member) :
      ¬(!stored.any (·.name == m.name)) = true ↔ m.name ∈ stored.map (·.name) := by
    simp
  rw [missing, List.map_eq_nil_iff, List.filter_eq_nil_iff]
  exact forall₂_congr fun m _ => hany m

/-- If every reported member is a declared one, every declared name is reported and the numbers
agree, then nothing is reported twice. -/
theorem ranges_perm {l : Layout} (hfound : ∀ s ∈ stored, ∃ m ∈ l.members, s.range = m.range)
    (hlength : stored.length = l.members.length)
    (hnames : ∀ m ∈ l.members, m.name ∈ stored.map (·.name)) :
    (stored.map HostMember.range).Perm (l.members.map Member.range) := by
  have hsub : l.members.map (·.name) ⊆ stored.map (·.name) := by
    intro name hname
    obtain ⟨m, hm, rfl⟩ := List.mem_map.1 hname
    exact hnames m hm
  have hperm : (l.members.map (·.name)).Perm (stored.map (·.name)) :=
    (l.names_nodup.subperm hsub).perm_of_length_le (by simp [hlength])
  -- both lists of ranges are read off the names in the same way
  let rangeOf (name : String) : String × UInt64 × UInt64 :=
    ((l.find? name).map Member.range).getD (name, 0, 0)
  have hof : ∀ m ∈ l.members, rangeOf m.name = m.range := by
    intro m hm
    simp [rangeOf, Layout.find?_eq_some.2 ⟨hm, rfl⟩]
  have hdeclared : l.members.map Member.range = (l.members.map (·.name)).map rangeOf := by
    rw [List.map_map]
    exact List.map_congr_left fun m hm => (hof m hm).symm
  have hstored : stored.map HostMember.range = (stored.map (·.name)).map rangeOf := by
    rw [List.map_map]
    refine List.map_congr_left fun s hs => ?_
    obtain ⟨m, hm, hrange⟩ := hfound s hs
    have hname : s.name = m.name := congrArg Prod.fst hrange
    rw [Function.comp_apply, hname, hof m hm, hrange]
  rw [hdeclared, hstored]
  exact (hperm.map rangeOf).symm

/-- There is no difference exactly if the size is the declared one and the reported members are the
declared ones in some order. -/
theorem differences_eq_nil_iff :
    d.differences size stored = [] ↔
      size = d.size ∧ (stored.map HostMember.range).Perm (d.layout.members.map Member.range) := by
  have hall : d.differences size stored = [] ↔
      size = d.size ∧ (∀ s ∈ stored, ∃ m ∈ d.layout.members, s.range = m.range) ∧
        stored.length = d.layout.members.length ∧
        ∀ m ∈ d.layout.members, m.name ∈ stored.map (·.name) := by
    simp only [differences, List.append_eq_nil_iff, List.flatMap_eq_nil_iff, comparison_eq_nil,
      missing_eq_nil, and_assoc]
    by_cases hsize : size = d.size <;>
      by_cases hlength : stored.length = d.layout.members.length <;> simp [hsize, hlength]
  rw [hall]
  refine and_congr_right fun _ => ⟨?_, fun hperm => ⟨?_, ?_, ?_⟩⟩
  · rintro ⟨hfound, hlength, hnames⟩
    exact ranges_perm hfound hlength hnames
  · intro s hs
    have hmem := hperm.mem_iff.1 (List.mem_map_of_mem hs)
    obtain ⟨m, hm, hrange⟩ := List.mem_map.1 hmem
    exact ⟨m, hm, hrange.symm⟩
  · simpa using hperm.length_eq
  · intro m hm
    have hmem := hperm.mem_iff.2 (List.mem_map_of_mem hm)
    obtain ⟨s, hs, hrange⟩ := List.mem_map.1 hmem
    exact List.mem_map.2 ⟨s, hs, congrArg Prod.fst hrange⟩

end Descriptor

end StructSync
