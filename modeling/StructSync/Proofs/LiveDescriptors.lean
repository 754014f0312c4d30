import Mathlib
import StructSync.Proofs.Materialization
import StructSync.Proofs.Registry
import StructSync.Proofs.Untouched

/-!
# Which descriptors of a registry are live

A registry knows its descriptors by the paths of their types, and a database its structs by their
names, which drop modules and arguments: two types may stand for one struct. A descriptor is live
(`Descriptor.Live`) while the struct of its id is stored as it declares it. Main statement
(`live_iff_confirmed`): in a run on one database a descriptor of the registry is live exactly if all
that entered after it under its name declare the same ranges. Otherwise its id is that of no struct,
and somebody has said yes.
-/

namespace StructSync

open Work

namespace Descriptor

/-- The struct of the descriptor's id is stored as the descriptor declares it. -/
def Live (d : Descriptor) (db : Database) : Prop :=
  ∃ id s, d.state = .materialized id ∧ db.get? id = some s ∧ s.IsDeclared d

variable {db after : Database} {d new : Descriptor} {s : StoredStruct} {n : Nat}

theorem Live.stored (h : d.Live db) (hdb : db.Sound) :
    ∃ s, db.findByName? d.name = some s ∧ d.state = .materialized s.id ∧ s.IsDeclared d := by
  obtain ⟨id, s, hstate, hs, hd⟩ := h
  have hid := hdb.get?_id hs
  exact ⟨s, hdb.findByName?_of_get? hs hd.name, hid.symm ▸ hstate, hd⟩

theorem live_of_stored (hdb : db.Sound) (hs : db.findByName? d.name = some s)
    (hstate : d.state = .materialized s.id) (hd : s.IsDeclared d) : d.Live db :=
  ⟨s.id, s, hstate, (hdb.findByName?_eq_some.1 hs).1, hd⟩

theorem not_live_of_gone {id : StructId} (hstate : d.state = .materialized id)
    (hgone : db.get? id = none) : ¬d.Live db := by
  rintro ⟨id', s, hstate', hs, -⟩
  obtain rfl := State.materialized.inj (hstate.symm.trans hstate')
  rw [hgone] at hs
  cases hs

/-- What touches another name leaves a descriptor live, or not. -/
theorem live_touched (h : db.Sound) (htouched : db.Touched new.name n after)
    (hname : d.name ≠ new.name) : d.Live after ↔ d.Live db := by
  have hothers := (htouched.sameButFor h).others
  constructor
  · rintro ⟨id, s, hstate, hs, hd⟩
    exact ⟨id, s, hstate, (hothers id s (hd.name ▸ hname)).1 hs, hd⟩
  · rintro ⟨id, s, hstate, hs, hd⟩
    exact ⟨id, s, hstate, (hothers id s (hd.name ▸ hname)).2 hs, hd⟩

/-- The new struct takes the id that comes next, and no earlier id is taken anew. -/
theorem Made.stored_before (h : new.Made db s after) (hdb : db.Sound) {id : StructId}
    (hid : id.value.toNat < db.nextId.toNat) {t : StoredStruct} (ht : after.get? id = some t) :
    t.name ≠ new.name ∧ db.get? id = some t := by
  have hname : t.name ≠ new.name := by
    intro hname
    have hfound := h.touched.sound.findByName?_of_get? ht hname
    obtain rfl := Option.some.inj (h.stored.symm.trans hfound)
    have hnext := h.touched.sound.get?_id ht
    rw [h.next] at hnext
    rw [← hnext] at hid
    exact Nat.lt_irrefl _ hid
  exact ⟨hname, ((h.touched.sameButFor hdb).others id t hname).1 ht⟩

theorem Made.not_live (h : new.Made db s after) (hdb : db.Sound) {id : StructId}
    (hstate : d.state = .materialized id) (hid : id.value.toNat < db.nextId.toNat)
    (hname : d.name = new.name) : ¬d.Live after := by
  rintro ⟨id', t, hstate', ht, hd⟩
  obtain rfl : id = id' := State.materialized.inj (hstate.symm.trans hstate')
  exact (h.stored_before hdb hid ht).1 (hd.name.trans hname)

/-- A live descriptor declares what the stored struct of its name is. -/
theorem Live.ranges_eq_iff (h : d.Live db) (hdb : db.Sound) (hname : d.name = new.name)
    (hs : db.findByName? new.name = some s) : new.ranges = d.ranges ↔ s.IsDeclared new := by
  obtain ⟨t, ht, -, hd⟩ := h.stored hdb
  rw [hname, hs] at ht
  obtain rfl := Option.some.inj ht
  constructor
  · intro hranges
    have heq : s.members.map StoredMember.range = new.layout.byOffset.map Member.range :=
      hd.ranges.trans hranges.symm
    exact ⟨hd.name.trans hname, StoredStruct.size_eq_of_ranges heq, heq⟩
  · intro hnew
    exact hnew.ranges.symm.trans hd.ranges

end Descriptor

namespace Registry

/-! ### Runs -/

/-- A call for a definition, with the one who is asked. -/
structure Use where
  definition : Definition
  confirm : Confirmer Id

namespace Use

/-- The struct that the definition declares. -/
def entry (u : Use) : StructSchema := ⟨u.definition.structName, u.definition.fields⟩

/-- The registry and the database after the call. -/
def run (u : Use) (r : Registry) (db : Database) : Registry × Database :=
  let used := (Id.run (r.getOrMaterialize u.confirm u.definition db)).value
  (used.1.2, used.2)

end Use

/-- The registry and the database after all calls. -/
def runAll (uses : List Use) (r : Registry) (db : Database) : Registry × Database :=
  uses.foldl (fun held u => u.run held.1 held.2) (r, db)

variable {r : Registry} {db after : Database} {u : Use}

/-- A call leaves registry and database as they are, or materializes a descriptor that the registry
keeps. -/
theorem run_cases (h : db.Sound) (hspare : db.Spare u.entry.ids) :
    u.run r db = (r, db) ∨
      ∃ d outcome d' after, d.name = u.entry.name ∧ d.layout.members.length + 1 = u.entry.ids ∧
        Descriptor.Materialization u.confirm d db ((.ok outcome, d'), after) ∧
        u.run r db = (r.keep u.definition.typePath d', after) := by
  cases hget : r.get? u.definition.typePath with
  | some d =>
    left
    rw [Use.run, getOrMaterialize_of_some u.confirm db hget]
    rfl
  | none =>
    rw [Use.run, value_getOrMaterialize u.confirm db hget]
    rcases Descriptor.build_materialization h hspare u.confirm with
      ⟨e, d, -, hbuild⟩ | ⟨d, ran, hparse, hname, hran, -, hbuild⟩
    · left
      rw [show (Id.run (Descriptor.build u.confirm u.definition.structName u.definition.fields
        db)).value = _ from hbuild]
    · have hlength := (Descriptor.parse_ok hparse).2.2
      rw [show (Id.run (Descriptor.build u.confirm u.definition.structName u.definition.fields
        db)).value = _ from hbuild]
      rcases ran with ⟨⟨e | outcome, d'⟩, after⟩
      · left
        cases hran
        rfl
      · right
        exact ⟨d, outcome, d', after, hname, by rw [hlength]; rfl, hran, rfl⟩

/-- All that entered the registry later under the same name declare the same ranges. -/
def Confirmed (d : Descriptor) (later : List (String × Descriptor)) : Prop :=
  ∀ other ∈ later, other.2.name = d.name → other.2.ranges = d.ranges

theorem confirmed_concat {d : Descriptor} {later : List (String × Descriptor)}
    {other : String × Descriptor} : Confirmed d (later ++ [other]) ↔
      Confirmed d later ∧ (other.2.name = d.name → other.2.ranges = d.ranges) := by
  simp only [Confirmed, List.forall_mem_append, List.forall_mem_singleton]

/-- Which descriptors of the registry are live in the database. -/
structure Standing (r : Registry) (db : Database) : Prop where
  sound : db.Sound
  given : ∀ entry ∈ r.entries, ∃ id, entry.2.state = .materialized id ∧
    id.value.toNat < db.nextId.toNat
  lost : ∀ entry ∈ r.entries, ∀ id, entry.2.state = .materialized id →
    entry.2.Live db ∨ db.get? id = none
  live_iff : ∀ before entry later, r.entries = before ++ entry :: later →
    (entry.2.Live db ↔ Confirmed entry.2 later)

namespace Standing

variable {d d' : Descriptor} {typePath : String} {s : StoredStruct}

theorem empty (h : db.Sound) : Standing empty db :=
  ⟨h, nofun, nofun, fun before entry later heq => by simp [Registry.empty] at heq⟩

theorem keep_cases {before later : List (String × Descriptor)} {entry : String × Descriptor}
    (heq : (r.keep typePath d).entries = before ++ entry :: later) :
    entry = (typePath, d) ∧ later = [] ∨
      ∃ earlier, later = earlier ++ [(typePath, d)] ∧ r.entries = before ++ entry :: earlier := by
  rw [keep] at heq
  rcases List.eq_nil_or_concat later with rfl | ⟨earlier, last, rfl⟩
  · obtain ⟨-, hlast⟩ := List.append_inj' heq rfl
    exact .inl ⟨(List.singleton_inj.1 hlast).symm, rfl⟩
  · rw [List.concat_eq_append, ← List.cons_append, ← List.append_assoc] at heq
    obtain ⟨hearlier, hlast⟩ := List.append_inj' heq rfl
    obtain rfl := List.singleton_inj.1 hlast
    exact .inr ⟨earlier, List.concat_eq_append, hearlier⟩

/-- What has to hold of the entries of before when the registry keeps one more that is live. -/
theorem keep {id : StructId} (hsound : after.Sound) (hstate : d.state = .materialized id)
    (hlt : id.value.toNat < after.nextId.toNat) (hlive : d.Live after)
    (hgiven : ∀ entry ∈ r.entries, ∃ id, entry.2.state = .materialized id ∧
      id.value.toNat < after.nextId.toNat)
    (hlost : ∀ entry ∈ r.entries, ∀ id, entry.2.state = .materialized id →
      entry.2.Live after ∨ after.get? id = none)
    (hbefore : ∀ before entry earlier, r.entries = before ++ entry :: earlier →
      (entry.2.Live after ↔
        Confirmed entry.2 earlier ∧ (d.name = entry.2.name → d.ranges = entry.2.ranges))) :
    (r.keep typePath d).Standing after where
  sound := hsound
  given entry hentry := by
    rcases List.mem_append.1 hentry with hentry | hentry
    · exact hgiven entry hentry
    · obtain rfl := List.mem_singleton.1 hentry
      exact ⟨id, hstate, hlt⟩
  lost entry hentry id hid := by
    rcases List.mem_append.1 hentry with hentry | hentry
    · exact hlost entry hentry id hid
    · obtain rfl := List.mem_singleton.1 hentry
      exact .inl hlive
  live_iff before entry later heq := by
    rcases keep_cases heq with ⟨rfl, rfl⟩ | ⟨earlier, rfl, hentries⟩
    · exact ⟨fun _ => nofun, fun _ => hlive⟩
    · rw [confirmed_concat]
      exact hbefore before entry earlier hentries

theorem kept (h : r.Standing db) (hs : db.findByName? d.name = some s) (hd : s.IsDeclared d)
    (hstate : d.state = .materialized s.id) : (r.keep typePath d).Standing db := by
  have hget := (h.sound.findByName?_eq_some.1 hs).1
  refine keep h.sound hstate (h.sound.lt_next hget)
    (Descriptor.live_of_stored h.sound hs hstate hd) h.given h.lost
    fun before entry earlier hentries => ?_
  rw [← h.live_iff before entry earlier hentries]
  refine ⟨fun hentry => ⟨hentry, fun hname => ?_⟩, And.left⟩
  exact (hentry.ranges_eq_iff h.sound hname.symm hs).2 hd

theorem lost_of_made (h : r.Standing db) (hmade : d.Made db s after) {entry : String × Descriptor}
    (hentry : entry ∈ r.entries) {id : StructId} (hid : entry.2.state = .materialized id) :
    entry.2.Live after ∨ after.get? id = none := by
  obtain ⟨id', hid', hlt⟩ := h.given entry hentry
  obtain rfl := Descriptor.State.materialized.inj (hid'.symm.trans hid)
  rw [or_iff_not_imp_right, ← ne_eq, Option.ne_none_iff_exists']
  rintro ⟨t, ht⟩
  -- what is stored under an earlier id has another name and was there before
  obtain ⟨hname, hbefore⟩ := hmade.stored_before h.sound hlt ht
  rcases h.lost entry hentry id' hid with hentry | hnone
  · obtain ⟨id, u, hu, hget, hdeclared⟩ := hentry
    obtain rfl := Descriptor.State.materialized.inj (hid.symm.trans hu)
    obtain rfl := Option.some.inj (hbefore.symm.trans hget)
    exact ⟨id', t, hid, ht, hdeclared⟩
  · rw [hnone] at hbefore
    cases hbefore

theorem made (h : r.Standing db) (hmade : d.Made db s after)
    (hother : ∀ s, db.findByName? d.name = some s → ¬s.IsDeclared d)
    (hstate : d.state = .materialized s.id) : (r.keep typePath d).Standing after := by
  have hsound := hmade.touched.sound
  have hnext : db.nextId.toNat < after.nextId.toNat := by
    have hlt := hsound.lt_next (hsound.findByName?_eq_some.1 hmade.stored).1
    rwa [hmade.next] at hlt
  refine keep hsound hstate (by rw [hmade.next]; exact hnext)
    (Descriptor.live_of_stored hsound hmade.stored hstate hmade.isDeclared)
    (fun entry hentry => ?_) (fun entry hentry id hid => h.lost_of_made hmade hentry hid)
    fun before entry earlier hentries => ?_
  · obtain ⟨id, hid, hlt⟩ := h.given entry hentry
    exact ⟨id, hid, hlt.trans hnext⟩
  · have hmem : entry ∈ r.entries := by rw [hentries]; simp
    obtain ⟨id, hid, hlt⟩ := h.given entry hmem
    have hbefore := h.live_iff before entry earlier hentries
    by_cases hname : entry.2.name = d.name
    · -- the struct of the entry is not the new one, and was not as it is declared now
      refine iff_of_false (hmade.not_live h.sound hid hlt hname) ?_
      rintro ⟨hearlier, hranges⟩
      have hentry := hbefore.2 hearlier
      obtain ⟨t, ht, -⟩ := hentry.stored h.sound
      rw [hname] at ht
      exact hother t ht ((hentry.ranges_eq_iff h.sound hname ht).1 (hranges hname.symm))
    · rw [Descriptor.live_touched h.sound hmade.touched hname, hbefore]
      exact ⟨fun hearlier => ⟨hearlier, fun hsame => absurd hsame.symm hname⟩, And.left⟩

theorem run (h : r.Standing db) (hspare : db.Spare u.entry.ids) :
    (u.run r db).1.Standing (u.run r db).2 := by
  rcases run_cases (r := r) h.sound hspare with hsame | ⟨d, outcome, d', after, -, -, hcase, hrun⟩
  · rw [hsame]
    exact h
  · rw [hrun]
    cases hcase with
    | kept s _ hs hd halike hstate =>
      exact h.kept (halike.1.symm ▸ hs) (hd.alike ⟨halike.1.symm, halike.2.symm⟩) hstate
    | made _ s _ _ hother hconsent hmade hmutation hid halike hstate =>
      refine h.made (hmade.alike ⟨halike.1.symm, halike.2.symm⟩) (fun t ht hdeclared => ?_) hstate
      exact hother t (halike.1 ▸ ht) (hdeclared.alike halike)

theorem run_declined (h : r.Standing db) (hspare : db.Spare u.entry.ids)
    (hno : ∀ prompt, (Id.run (u.confirm prompt)).value ≠ .yes)
    (hall : ∀ entry ∈ r.entries, entry.2.Live db) :
    ∀ entry ∈ (u.run r db).1.entries, entry.2.Live (u.run r db).2 := by
  have hrun := h.run hspare
  rcases run_cases (r := r) h.sound hspare with hsame | ⟨d, outcome, d', after, -, -, hcase, heq⟩
  · rw [hsame]
    exact hall
  · rw [heq] at hrun ⊢
    intro entry hentry
    rcases List.mem_append.1 hentry with hearlier | hnew
    · cases hcase with
      | kept => exact hall entry hearlier
      | made _ s _ _ hother hconsent hmade =>
        have hfree : db.findByName? d.name = none :=
          hconsent.resolve_right fun ⟨prompt, hyes⟩ => hno prompt hyes
        obtain ⟨t, ht, -⟩ := (hall entry hearlier).stored h.sound
        refine (Descriptor.live_touched h.sound hmade.touched fun hname => ?_).2
          (hall entry hearlier)
        rw [hname, hfree] at ht
        cases ht
    · obtain rfl := List.mem_singleton.1 hnew
      exact (hrun.live_iff r.entries _ [] rfl).2 nofun

end Standing

theorem spare_run {n : Nat} (h : db.Sound) (hspare : db.Spare (u.entry.ids + n)) :
    (u.run r db).2.Spare n := by
  rcases run_cases (r := r) h (hspare.mono (Nat.le_add_right _ _)) with
    hsame | ⟨d, outcome, d', after, -, hids, hcase, hrun⟩
  · rw [hsame]
    exact hspare.mono (Nat.le_add_left _ _)
  · rw [hrun]
    cases hcase with
    | kept => exact hspare.mono (Nat.le_add_left _ _)
    | made _ s _ _ hother hconsent hmade => exact hmade.touched.spare (hids ▸ hspare)

theorem Standing.runAll {uses : List Use} (h : r.Standing db)
    (hspare : db.Spare (uses.map fun u => u.entry.ids).sum) :
    (Registry.runAll uses r db).1.Standing (Registry.runAll uses r db).2 ∧
      ((∀ u ∈ uses, ∀ prompt, (Id.run (u.confirm prompt)).value ≠ .yes) →
        (∀ entry ∈ r.entries, entry.2.Live db) →
        ∀ entry ∈ (Registry.runAll uses r db).1.entries,
          entry.2.Live (Registry.runAll uses r db).2) := by
  induction uses generalizing r db with
  | nil => exact ⟨h, fun _ hall => hall⟩
  | cons u uses ih =>
    rw [List.map_cons, List.sum_cons] at hspare
    have hfirst := hspare.mono (Nat.le_add_right _ _)
    obtain ⟨hstanding, hdeclined⟩ := ih (h.run hfirst) (spare_run h.sound hspare)
    refine ⟨hstanding, fun hno hall => ?_⟩
    obtain ⟨hu, huses⟩ := List.forall_mem_cons.1 hno
    exact hdeclined huses (h.run_declined hfirst hu hall)

/-- Two types of one name that declare different structs. -/
def cells : List Use :=
  [⟨⟨"grid::Cell<Small>", none, [.named "value" "short"]⟩, .fixed .yes⟩,
    ⟨⟨"grid::Cell<Large>", none, [.named "value" "long long"]⟩, .fixed .yes⟩]

/-- The descriptor of the first type is kept although its struct is gone. -/
theorem overwritten_not_live : (Database.empty 8).Reachable ∧
    ∃ entry ∈ (runAll cells empty (Database.empty 8)).1.entries,
      entry.1 = "grid::Cell<Small>" ∧
        ¬entry.2.Live (runAll cells empty (Database.empty 8)).2 := by
  have hfirst : ((runAll cells empty (Database.empty 8)).1.entries.head?.map fun entry =>
      (entry.1, entry.2.state, (runAll cells empty (Database.empty 8)).2.get? ⟨0xFF000000⟩)) =
      some ("grid::Cell<Small>", .materialized ⟨0xFF000000⟩, none) := by decide +kernel
  obtain ⟨entry, hentry, heq⟩ := Option.map_eq_some_iff.1 hfirst
  simp only [Prod.mk.injEq] at heq
  obtain ⟨hpath, hstate, hgone⟩ := heq
  exact ⟨.empty 8, entry, List.mem_of_head? hentry, hpath, Descriptor.not_live_of_gone hstate hgone⟩

/-- In a run of calls on one database a descriptor of the registry is live exactly if all that
entered after it under its name declare the same ranges. One that is not live has an id under which
nothing is stored. As long as nobody says yes all are live. -/
theorem live_iff_confirmed (uses : List Use) (hdb : db.Reachable)
    (hspare : db.Spare (uses.map fun u => u.entry.ids).sum) :
    let held := runAll uses empty db
    (∀ before entry later, held.1.entries = before ++ entry :: later →
      (entry.2.Live held.2 ↔ Confirmed entry.2 later) ∧
      (¬entry.2.Live held.2 → ∃ id, entry.2.state = .materialized id ∧ held.2.get? id = none)) ∧
    ((∀ u ∈ uses, ∀ prompt, (Id.run (u.confirm prompt)).value ≠ .yes) →
      ∀ entry ∈ held.1.entries, entry.2.Live held.2) := by
  intro held
  obtain ⟨hstanding, hdeclined⟩ := (Standing.empty hdb.sound).runAll hspare
  refine ⟨fun before entry later heq => ⟨hstanding.live_iff before entry later heq, fun hnot => ?_⟩,
    fun hno => hdeclined hno nofun⟩
  have hmem : entry ∈ held.1.entries := by rw [heq]; simp
  obtain ⟨id, hid, -⟩ := hstanding.given entry hmem
  exact ⟨id, hid, (hstanding.lost entry hmem id hid).resolve_left hnot⟩

/-- The first of the two types has lost its struct to the second. -/
theorem live_iff_confirmed_cells :
    let held := runAll cells empty (Database.empty 8)
    ∃ small large, held.1.entries = [small, large] ∧ ¬Confirmed small.2 [large] ∧
      (∃ id, small.2.state = .materialized id ∧ held.2.get? id = none) ∧ large.2.Live held.2 := by
  intro held
  have hlength : held.1.entries.length = 2 := by decide +kernel
  obtain ⟨small, large, hentries⟩ := List.length_eq_two.1 hlength
  have hdeclared : held.1.entries.map (fun entry => (entry.2.name, entry.2.ranges)) =
      [("Cell", [("value", 0, 2)]), ("Cell", [("value", 0, 8)])] := by decide +kernel
  rw [hentries] at hdeclared
  simp only [List.map_cons, List.map_nil, List.cons.injEq, Prod.mk.injEq, and_true] at hdeclared
  obtain ⟨⟨hsmall, hshort⟩, hlarge, hlong⟩ := hdeclared
  have hreplaced : ¬Confirmed small.2 [large] := by
    intro hconfirmed
    have hranges := hconfirmed large (by simp) (hlarge.trans hsmall.symm)
    rw [hshort, hlong] at hranges
    exact absurd hranges (by decide)
  obtain ⟨hlive, -⟩ := live_iff_confirmed cells (Database.Reachable.empty 8)
    (by unfold Database.Spare; decide)
  obtain ⟨hiff, hgone⟩ := hlive [] small [large] hentries
  exact ⟨small, large, hentries, hreplaced, hgone (mt hiff.1 hreplaced),
    (hlive [small] large [] hentries).1.2 nofun⟩

end Registry

end StructSync
