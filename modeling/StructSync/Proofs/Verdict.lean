import Mathlib
import StructSync.Proofs.Database.Identity
import StructSync.Proofs.Declared

/-!
# What a report says

A report gives each reported member whose name is not declared, once each declared member that is
not reported, and never finds a name wrong. Main statement (`Descriptor.validate_verdict`): whatever
the host answers, the report is empty exactly if the size is the declared one and the reported
ranges are the declared ones in some order; a database made by requests reports its members in order
of their offsets, so there the two lists are equal.
-/

namespace StructSync

open Database (Reachable)

def Mismatch.isUnexpected : Mismatch → Bool
  | unexpectedMember .. => true
  | _ => false

namespace Layout

variable {l : Layout} {stored : HostMember} {x : Mismatch}

/-- A reported member is unexpected, or its offset or size is found wrong: members are compared
under one name, so the name is never. -/
theorem mem_comparison (h : x ∈ l.comparison stored) :
    (l.find? stored.name = none ∧ x = .unexpectedMember stored.name stored.start) ∨
      (∃ expected found, x = .memberOffset stored.name expected found) ∨
      ∃ expected found, x = .memberSize stored.name expected found := by
  unfold comparison at h
  cases hfind : l.find? stored.name with
  | none =>
    rw [hfind] at h
    exact .inl ⟨rfl, List.mem_singleton.1 h⟩
  | some m =>
    rw [hfind] at h
    dsimp only at h
    obtain ⟨-, hname⟩ := find?_eq_some.1 hfind
    rw [Member.mismatches, if_pos hname.symm, List.nil_append, hname] at h
    rcases List.mem_append.1 h with h | h
    · split at h
      · cases h
      · exact .inr (.inl ⟨_, _, List.mem_singleton.1 h⟩)
    · split at h
      · cases h
      · exact .inr (.inr ⟨_, _, List.mem_singleton.1 h⟩)

theorem filter_comparison : (l.comparison stored).filter Mismatch.isUnexpected =
    if stored.name ∈ l.members.map (·.name) then []
    else [.unexpectedMember stored.name stored.start] := by
  cases hfind : l.find? stored.name with
  | none =>
    have hname : stored.name ∉ l.members.map (·.name) := by
      intro hmem
      obtain ⟨m, hm, hname⟩ := List.mem_map.1 hmem
      exact find?_eq_none.1 hfind m hm hname
    rw [if_neg hname, comparison, hfind]
    rfl
  | some m =>
    obtain ⟨hm, hname⟩ := find?_eq_some.1 hfind
    rw [if_pos (hname ▸ List.mem_map_of_mem hm), List.filter_eq_nil_iff]
    intro x hx
    rcases mem_comparison hx with ⟨hnone, -⟩ | ⟨_, _, rfl⟩ | ⟨_, _, rfl⟩
    · exact absurd (hfind.symm.trans hnone) nofun
    all_goals simp [Mismatch.isUnexpected]

end Layout

namespace Descriptor

variable {d : Descriptor} {size : UInt64} {stored : List HostMember} {l : Layout} {name : String}
  {x : Mismatch}

theorem mem_missing : .missingMember name ∈ missing l stored ↔
    name ∈ l.members.map (·.name) ∧ name ∉ stored.map (·.name) := by
  simp only [missing, List.mem_map, List.mem_filter, Bool.not_eq_true', List.any_eq_false,
    Mismatch.missingMember.injEq]
  constructor
  · rintro ⟨m, ⟨hm, habsent⟩, rfl⟩
    refine ⟨⟨m, hm, rfl⟩, ?_⟩
    rintro ⟨s, hs, hname⟩
    exact habsent s hs (by simpa using hname)
  · rintro ⟨⟨m, hm, rfl⟩, habsent⟩
    exact ⟨m, ⟨hm, fun s hs hname => habsent ⟨s, hs, by simpa using hname⟩⟩, rfl⟩

theorem nodup_missing (l : Layout) (stored : List HostMember) : (missing l stored).Nodup := by
  have hnames : ((l.members.filter fun m => !stored.any (·.name == m.name)).map (·.name)).Nodup :=
    l.names_nodup.sublist (List.filter_sublist.map _)
  have hinj : Function.Injective Mismatch.missingMember := fun _ _ h => Mismatch.missingMember.inj h
  have hmap := hnames.map hinj
  rwa [List.map_map] at hmap

theorem filter_flatMap_comparison : (stored.flatMap l.comparison).filter Mismatch.isUnexpected =
    (stored.filter fun s => s.name ∉ l.members.map (·.name)).map fun s =>
      .unexpectedMember s.name s.start := by
  induction stored with
  | nil => rfl
  | cons s rest ih =>
    rw [List.flatMap_cons, List.filter_append, ih, Layout.filter_comparison]
    by_cases hname : s.name ∈ l.members.map (·.name)
    · rw [if_pos hname, List.filter_cons_of_neg (by simpa using hname), List.nil_append]
    · rw [if_neg hname, List.filter_cons_of_pos (by simpa using hname), List.map_cons,
        List.singleton_append]

/-! ### Which names a report gives -/

/-- What is found before the members that are missed. -/
def findings (d : Descriptor) (size : UInt64) (stored : List HostMember) : List Mismatch :=
  (if size = d.size then [] else [.structSize d.size size])
    ++ stored.flatMap d.layout.comparison
    ++ (if stored.length = d.layout.members.length then []
        else [.memberCount d.layout.members.length stored.length])

theorem differences_eq : d.differences size stored =
    d.findings size stored ++ missing d.layout stored := rfl

theorem findings_ne (h : x ∈ d.findings size stored) :
    (∀ expected found, x ≠ .memberName expected found) ∧ ∀ name, x ≠ .missingMember name := by
  simp only [findings, List.mem_append, List.mem_flatMap] at h
  rcases h with (h | ⟨s, -, h⟩) | h
  · split at h
    · cases h
    · obtain rfl := List.mem_singleton.1 h
      exact ⟨nofun, nofun⟩
  · rcases Layout.mem_comparison h with ⟨-, rfl⟩ | ⟨_, _, rfl⟩ | ⟨_, _, rfl⟩
    all_goals exact ⟨nofun, nofun⟩
  · split at h
    · cases h
    · obtain rfl := List.mem_singleton.1 h
      exact ⟨nofun, nofun⟩

theorem memberName_notMem_differences (expected found : String) :
    .memberName expected found ∉ d.differences size stored := by
  rw [differences_eq, List.mem_append]
  rintro (h | h)
  · exact (findings_ne h).1 expected found rfl
  · simp [missing] at h

theorem count_missingMember :
    (d.differences size stored).count (.missingMember name) =
      if name ∈ d.layout.members.map (·.name) ∧ name ∉ stored.map (·.name) then 1 else 0 := by
  have hfindings : .missingMember name ∉ d.findings size stored := fun h =>
    (findings_ne h).2 name rfl
  rw [differences_eq, List.count_append, List.count_eq_zero.2 hfindings, Nat.zero_add,
    (nodup_missing _ _).count]
  simp only [mem_missing]

theorem filter_isUnexpected :
    (d.differences size stored).filter Mismatch.isUnexpected =
      (stored.filter fun s => s.name ∉ d.layout.members.map (·.name)).map fun s =>
        .unexpectedMember s.name s.start := by
  have hsize : (if size = d.size then [] else [Mismatch.structSize d.size size]).filter
      Mismatch.isUnexpected = [] := by
    split <;> rfl
  have hcount : (if stored.length = d.layout.members.length then []
      else [Mismatch.memberCount d.layout.members.length stored.length]).filter
      Mismatch.isUnexpected = [] := by
    split <;> rfl
  have hmissing : (missing d.layout stored).filter Mismatch.isUnexpected = [] := by
    rw [missing, List.filter_map]
    exact List.map_eq_nil_iff.2 (List.filter_eq_nil_iff.2 fun _ _ => Bool.false_ne_true)
  simp only [differences, List.filter_append, hsize, hcount, hmissing, filter_flatMap_comparison,
    List.nil_append, List.append_nil]

/-! ### The verdict -/

/-- Whatever a host answers, the report of a validation is empty exactly if the size is the declared
one and the reported ranges are the declared ones in some order. It finds no name wrong, each
declared name that is not reported is missing in it once, and each reported member whose name is not
declared is unexpected in it, in the order of the answers. In a database made by requests the report
is empty exactly if the ranges are the declared ones in order of their offsets. -/
theorem validate_verdict (d : Descriptor) :
    (∀ (σ : Type) [Host σ] (host : σ) (id : StructId) (size : UInt64) (stored : List HostMember),
      Host.structSize host id = .ok size → Host.members host id = .ok stored →
      ∃ report, (d.validate host id).value.1 = .ok report ∧
        (report.isMatch = true ↔ size = d.size ∧
          (stored.map fun m => (m.name, m.start, m.stop)).Perm
            (d.layout.members.map fun m => (m.name, m.offset, m.stop))) ∧
        (∀ expected found, .memberName expected found ∉ report.mismatches) ∧
        (∀ name, report.mismatches.count (.missingMember name) =
          if name ∈ d.layout.members.map (·.name) ∧ name ∉ stored.map (·.name) then 1 else 0) ∧
        report.mismatches.filter Mismatch.isUnexpected =
          (stored.filter fun m => m.name ∉ d.layout.members.map (·.name)).map fun m =>
            .unexpectedMember m.name m.start) ∧
    ∀ (db : Database) (id : StructId) (s : StoredStruct), Reachable db → db.get? id = some s →
      ∃ report, (d.validate db id).value.1 = .ok report ∧
        (report.isMatch = true ↔
          s.members.map (fun m => (m.name, m.offset, m.stop)) =
            d.layout.byOffset.map fun m => (m.name, m.offset, m.stop)) := by
  constructor
  · intro σ _ host id size stored hsize hmembers
    refine ⟨⟨d.name, d.differences size stored⟩, ?_, ?_, ?_, ?_, ?_⟩
    · rw [value_validate, hsize, hmembers]
    · rw [Report.isMatch_iff]
      exact differences_eq_nil_iff
    · exact memberName_notMem_differences
    · intro name
      exact count_missingMember
    · exact filter_isUnexpected
  · -- the answers of a database come from its store, so the size follows from the members
    intro db id s hreachable hs
    have hsize : Host.structSize db id = .ok s.size := Database.structSize_eq_ok.2 ⟨s, hs, rfl⟩
    have hmembers : Host.members db id = .ok (Database.reported s) :=
      Database.members_eq_ok.2 ⟨s, hs, rfl⟩
    refine ⟨⟨d.name, d.differences s.size (Database.reported s)⟩, ?_, ?_⟩
    · rw [value_validate, hsize, hmembers]
    · rw [Report.isMatch_iff]
      exact (hreachable.sound.members hs).differences_eq_nil_iff

theorem validate_verdict_pair :
    Reachable .twoIntegers ∧
      (∃ report, (pair.validate Database.twoIntegers ⟨0xFF000000⟩).value.1 = .ok report ∧
        report.isMatch = true) ∧
      ∃ report, (pair.validate (Request.perform (.createStruct "pair") (Database.empty 8))
        ⟨0xFF000000⟩).value.1 = .ok report ∧
          report.mismatches.count (.missingMember "first") = 1 := by
  have hreachable : Reachable .twoIntegers :=
    (Reachable.empty 8).performAll (by unfold Database.Spare; decide)
  have hstored : Database.twoIntegers.get? ⟨0xFF000000⟩ = some ⟨⟨0xFF000000⟩, "pair",
      [⟨⟨0xFF000002⟩, "first", 0, 4, ⟨0⟩, none⟩, ⟨⟨0xFF000001⟩, "second", 4, 4, ⟨0⟩, none⟩]⟩ := by
    decide +kernel
  have hsorted : [("first", 0, 4), ("second", 4, 8)] =
      pair.layout.byOffset.map fun m => (m.name, m.offset, m.stop) := by
    simp [pair, Layout.byOffset, List.mergeSort, Member.stop, Member.size, DeclaredType.size]
  obtain ⟨report, hreport, hmatch⟩ := (validate_verdict pair).2 _ _ _ hreachable hstored
  obtain ⟨empty, hempty, -, -, hmissing, -⟩ :=
    (validate_verdict pair).1 Database (Request.perform (.createStruct "pair") (.empty 8))
      ⟨0xFF000000⟩ 0 [] (by decide +kernel) (by decide +kernel)
  refine ⟨hreachable, ⟨report, hreport, hmatch.2 hsorted⟩, empty, hempty, ?_⟩
  rw [hmissing]
  decide

end Descriptor

end StructSync
