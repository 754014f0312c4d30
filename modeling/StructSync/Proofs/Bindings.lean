import Mathlib
import StructSync.Proofs.LifeCycle
import StructSync.Proofs.Trace

/-!
# The ids of the members

A descriptor binds its members to the ids that they have in the host, one by one while it validates
or creates. Main statement (`bindings_follow`): a validation ends with all members bound or with
none; between parsing, reconciling and resolving, all members are bound exactly while the descriptor
is materialized; and in a database made by requests they are bound to different members of the
struct, each of the same name and range.
-/

namespace StructSync

open Work

theorem lookup_eq_some_of_nodup {α β : Type} [BEq α] [LawfulBEq α] {entries : List (α × β)}
    {key : α} {value : β} (hnodup : (entries.map Prod.fst).Nodup)
    (hmem : (key, value) ∈ entries) : entries.lookup key = some value := by
  obtain ⟨before, after, rfl⟩ := List.append_of_mem hmem
  refine List.lookup_eq_some_iff.2 ⟨before, after, rfl, fun entry hentry => ?_⟩
  rw [List.map_append, List.map_cons] at hnodup
  have hne := (List.nodup_append.1 hnodup).2.2 entry.1 (List.mem_map_of_mem hentry) key
    List.mem_cons_self
  exact bne_iff_ne.2 hne.symm

namespace Descriptor

/-! ### Validating -/

section
variable {d : Descriptor} {m : Member} {size : UInt64} {stored : List HostMember}

theorem flatMap_binding {l : Layout} (h : ∀ x ∈ stored, l.comparison x = []) :
    stored.flatMap l.binding = stored.map fun x => (x.name, x.id) := by
  induction stored with
  | nil => rfl
  | cons x rest ih =>
    obtain ⟨hx, hrest⟩ := List.forall_mem_cons.1 h
    rw [List.flatMap_cons, List.map_cons, ih hrest]
    obtain ⟨m, hm, hrange⟩ := comparison_eq_nil.1 hx
    have hname : x.name = m.name := congrArg Prod.fst hrange
    have hfind : l.find? x.name = some m := Layout.find?_eq_some.2 ⟨hm, hname.symm⟩
    rw [Layout.binding, hfind]
    dsimp only
    rw [Member.mismatches_eq_nil.2 hrange, hname]
    rfl

/-- If nothing differs the host has one member of every declared name, and to that one the declared
member is bound. -/
theorem bound_of_match (h : d.differences size stored = []) (hm : m ∈ d.layout.members) :
    (stored.map (·.name)).count m.name = 1 ∧
      ∃ x ∈ stored, x.range = m.range ∧ (d.bound size stored).lookup m.name = some x.id := by
  obtain ⟨-, hperm⟩ := differences_eq_nil_iff.1 h
  -- the reported names are the declared ones in some order, so each is reported once
  have hnames : (stored.map (·.name)).Nodup := by
    have hsame := hperm.map Prod.fst
    rw [List.map_map, List.map_map] at hsame
    exact hsame.nodup_iff.2 d.layout.names_nodup
  obtain ⟨x, hx, hrange⟩ := List.mem_map.1 (hperm.mem_iff.2 (List.mem_map_of_mem hm))
  have hname : x.name = m.name := congrArg Prod.fst hrange
  have hnone : ∀ y ∈ stored.reverse, d.layout.comparison y = [] := by
    intro y hy
    have hmem := hperm.mem_iff.1 (List.mem_map_of_mem (List.mem_reverse.1 hy))
    obtain ⟨n, hn, hyn⟩ := List.mem_map.1 hmem
    exact comparison_eq_nil.2 ⟨n, hn, hyn.symm⟩
  refine ⟨List.count_eq_one_of_mem hnames (hname ▸ List.mem_map_of_mem hx), x, hx, hrange, ?_⟩
  have hkeys : ((stored.reverse.map fun y => (y.name, y.id)).map Prod.fst).Nodup := by
    rw [List.map_map, List.map_reverse]
    exact List.nodup_reverse.2 hnames
  have hbound : (m.name, x.id) ∈ stored.reverse.map fun y => (y.name, y.id) :=
    List.mem_map.2 ⟨x, List.mem_reverse.2 hx, by rw [hname]⟩
  rw [bound, if_pos (List.isEmpty_iff.2 h), flatMap_binding hnone, List.lookup_append,
    lookup_eq_some_of_nodup hkeys hbound, Option.some_or]

theorem bound_of_differ (h : d.differences size stored ≠ []) : d.bound size stored = [] :=
  if_neg fun hnone => h (List.isEmpty_iff.1 hnone)

theorem validate_binds {σ : Type} [Host σ] {host : σ} {id : StructId} {report : Report}
    (h : (d.validate host id).value.1 = .ok report) :
    ∃ stored, Host.members host id = .ok stored ∧
      (report.isMatch = true → ∀ m ∈ d.layout.members, (stored.map (·.name)).count m.name = 1 ∧
        ∃ x ∈ stored, x.name = m.name ∧
          (d.validate host id).value.2.memberId? m.name = some x.id) ∧
      (report.isMatch = false → ∀ m ∈ d.layout.members,
        (d.validate host id).value.2.memberId? m.name = none) := by
  rw [value_validate] at h ⊢
  rcases hsize : Host.structSize host id with e | size
  · rw [hsize] at h
    cases h
  · rcases hmembers : Host.members host id with e | stored
    · rw [hsize, hmembers] at h
      cases h
    · rw [hsize, hmembers] at h
      obtain rfl := Except.ok.inj h
      refine ⟨stored, rfl, fun hmatch m hm => ?_, fun hdiffer m hm => ?_⟩
      · obtain ⟨hone, x, hx, hrange, hlookup⟩ := bound_of_match (Report.isMatch_iff.1 hmatch) hm
        exact ⟨hone, x, hx, congrArg Prod.fst hrange, hlookup⟩
      · have hne : d.differences size stored ≠ [] := fun hnone => by
          rw [Report.isMatch_iff.2 hnone] at hdiffer
          cases hdiffer
        show (d.bound size stored).lookup m.name = none
        rw [bound_of_differ hne]
        rfl

end

/-! ### Runs without a validation -/

section
variable {σ : Type} [Host σ] {d : Descriptor}

/-- The members are bound while the descriptor is materialized, and else there are no bindings. -/
structure Follows (d : Descriptor) : Prop where
  bound : ∀ id, d.state = .materialized id → ∀ m ∈ d.layout.members, (d.memberId? m.name).isSome
  unbound : (∀ id, d.state ≠ .materialized id) → d.bindings = []

theorem Follows.of_bound {bindings : Bindings} {id : StructId}
    (h : ∀ m ∈ d.layout.members, (bindings.lookup m.name).isSome) :
    Follows { d with bindings, state := .materialized id } :=
  ⟨fun _ _ => h, fun hne => absurd rfl (hne id)⟩

theorem Follows.of_nil {state : State} (hstate : ∀ id, state ≠ .materialized id) :
    Follows { d with bindings := [], state } :=
  ⟨fun id hid => absurd hid (hstate id), fun _ => rfl⟩

theorem map_fst_createMembers {id : StructId} {members : List Member} {host after : σ}
    {bindings : Bindings} (h : value (createMembers id members) host = (.ok bindings, after)) :
    bindings.map Prod.fst = members.map (·.name) := by
  induction members generalizing host bindings with
  | nil =>
    cases h
    rfl
  | cons m rest ih =>
    rw [value_createMembers_cons] at h
    rcases hm : value (m.materialize id) host with ⟨e | member, host'⟩
    · rw [hm] at h
      cases h
    · rw [hm] at h
      dsimp only at h
      rcases hrest : value (createMembers id rest) host' with ⟨e | others, host''⟩
      · rw [hrest] at h
        cases h
      · rw [hrest] at h
        cases h
        rw [List.map_cons, List.map_cons, ih hrest]

theorem create_follows (h : d.Follows) (hd : ∀ id, d.state ≠ .materialized id) (host : σ) :
    (value d.create host).1.2.Follows := by
  have hcases := creation d host
  generalize value d.create host = r at hcases
  cases hcases with
  | refused => exact h
  | complete id bindings begun after hcreate hmembers =>
    refine .of_bound fun m hm => ?_
    have hnames := map_fst_createMembers hmembers
    have hmem : m.name ∈ bindings.map Prod.fst := by
      rw [hnames]
      exact List.mem_map_of_mem hm
    rw [Option.isSome_iff_ne_none, ne_eq, List.lookup_eq_none_iff]
    intro hnone
    obtain ⟨entry, hentry, hname⟩ := List.mem_map.1 hmem
    exact bne_iff_ne.1 (hnone entry hentry) hname.symm
  | undone => exact .of_nil hd

theorem reconcile_follows (h : d.Follows) (host : σ) :
    (value d.reconcile host).1.2.Follows := by
  have hcases := reconciliation d host
  generalize value d.reconcile host = r at hcases
  cases hcases with
  | outOfTurn => exact h
  | creates result d' after hstate hfind hcreate =>
    have hd' := create_follows h (by simp [hstate]) host
    rw [hcreate] at hd'
    exact hd'
  | unreadable => exact h
  | accepts existing size stored hstate hfind hsize hmembers hmatch =>
    refine .of_bound fun m hm => ?_
    obtain ⟨-, x, -, -, hlookup⟩ := bound_of_match hmatch hm
    rw [hlookup]
    rfl
  | asks => exact .of_nil nofun

theorem resolve_follows (h : d.Follows) (decision : Decision) (host : σ) :
    (value (d.resolve decision) host).1.2.Follows := by
  have hcases := resolution decision d host
  generalize value (d.resolve decision) host = r at hcases
  have hdropped {existing : StructId} {report : Report}
      (hstate : d.state = .awaitingConfirmation existing report) :
      Follows { d with state := .schemaParsed } :=
    ⟨nofun, fun _ => h.unbound (by simp [hstate])⟩
  cases hcases with
  | notAsked => exact h
  | stopped e existing report hstate => exact hdropped hstate
  | kept e existing report after hstate => exact hdropped hstate
  | replaces existing report freed result d' after hstate hdecision hdelete hcreate =>
    have hd' := create_follows (hdropped hstate) nofun freed
    rw [hcreate] at hd'
    exact hd'

theorem call_follows (h : d.Follows) (c : Call) (host : σ) : (c.run d host).1.2.Follows := by
  cases c with
  | reconcile => exact reconcile_follows h host
  | resolve decision => exact resolve_follows h decision host
  | materialize confirm =>
    rcases Call.run_materialize_cases confirm d host with hsame | ⟨report, asking, hasks, hsame⟩
    · rw [hsame]
      exact reconcile_follows h host
    · have hasking := reconcile_follows h host
      rw [show value d.reconcile host = _ from hasks] at hasking
      rw [hsame]
      exact resolve_follows hasking _ host

theorem parse_follows (h : d.Follows) (host : σ) (fields : List Field) :
    (d.parse host fields).value.2.Follows := by
  by_cases hd : d.state = .uninitialized
  · have hnone := h.unbound (by simp [hd])
    rw [value_parse hd]
    rcases (d.layout.addFields host d.name 0 fields).value with ⟨e | _, layout⟩
    · exact ⟨fun id hid => absurd (hd.symm.trans hid) nofun, fun _ => hnone⟩
    · exact ⟨nofun, fun _ => hnone⟩
  · rw [parse_of_ne hd]
    exact h

end

/-- The turn is not a validation. -/
def Turn.Acts : Turn → Prop
  | @Turn.validate _ _ _ _ => False
  | _ => True

theorem takeAll_follows (name : String) {turns : List Turn} (hturns : ∀ turn ∈ turns, turn.Acts) :
    ((ofName name).takeAll turns).Follows := by
  induction turns using List.reverseRecOn with
  | nil => exact ⟨nofun, fun _ => rfl⟩
  | append_singleton turns turn ih =>
    rw [takeAll_append]
    have hbefore := ih fun t ht => hturns t (List.mem_append_left _ ht)
    have hacts : turn.Acts := hturns turn (by simp)
    cases turn with
    | parse host fields => exact parse_follows hbefore host fields
    | validate host id => exact hacts.elim
    | call host c => exact call_follows hbefore c host

/-! ### In a guarded database -/

/-- Every member is bound to a member of the struct with its name and its range. -/
def BoundTo (d : Descriptor) (s : StoredStruct) : Prop :=
  ∀ m ∈ d.layout.members, ∃ x ∈ s.members, d.memberId? m.name = some x.id ∧ x.name = m.name ∧
    x.offset = m.offset ∧ x.size = m.size

section
variable {db : Database} {fault? : Request → Option HostError} {d d' : Descriptor}
  {id : StructId} {after : Guarded Database} {s : StoredStruct}

theorem BoundTo.nodup (h : d.BoundTo s) (hs : s.Sound) :
    (d.layout.members.map fun m => d.memberId? m.name).Nodup := by
  refine (d.layout.names_nodup.of_map _).map_on fun a ha b hb hab => ?_
  obtain ⟨x, hx, hxid, hxname, -⟩ := h a ha
  obtain ⟨y, hy, hyid, hyname, -⟩ := h b hb
  have hid : x.id = y.id := Option.some.inj (hxid.symm.trans (hab.trans hyid))
  obtain rfl := List.inj_on_of_nodup_map hs.ids hx hy hid
  exact List.inj_on_of_nodup_map d.layout.names_nodup ha hb (hxname.symm.trans hyname)

theorem createStruct_taken (fault? : Request → Option HostError) {name : String}
    (hs : db.findByName? name = some s) :
    ∃ e, Host.createStruct name (⟨db, fault?⟩ : Guarded Database) =
      (.error e, ⟨db, fault?⟩) := by
  cases hfault : fault? (.createStruct name) with
  | some e => exact ⟨e, Guarded.pass_of_fault hfault⟩
  | none =>
    have htaken : db.createStruct name = .error (.nameCollision name) := by
      rw [Database.createStruct, hs]
      rfl
    exact ⟨_, Guarded.pass_of_none hfault (congrArg db.settle htaken)⟩

theorem create_bound (h : db.Sound) (hspare : db.Spare (d.layout.members.length + 1))
    (hcreate : value d.create (⟨db, fault?⟩ : Guarded Database) = ((.ok id, d'), after)) :
    ∃ s, after.host.get? id = some s ∧ s.Sound ∧ d'.BoundTo s := by
  cases hfree : db.findByName? d.name with
  | some taken =>
    obtain ⟨e, he⟩ := createStruct_taken fault? hfree
    rw [value_create, he] at hcreate
    cases hcreate
  | none =>
    obtain ⟨result, d'', after', calls, hvalue, -, htrace⟩ := create_traced h hspare hfree fault?
    obtain ⟨⟨rfl, -⟩, -⟩ : (result = .ok id ∧ d'' = d') ∧ ⟨after', fault?⟩ = after := by
      simpa using hvalue.symm.trans hcreate
    -- of the ways a creation can end, the one that succeeds has passed all requests on
    cases htrace with
    | complete hpassed =>
      obtain ⟨built, t, hbuilt, hgrown, hperm, -⟩ := create_passed h hspare hfree hpassed
      rw [hbuilt] at hcreate
      cases hcreate
      refine ⟨t, hgrown.get?, hgrown.sound.members hgrown.get?, fun m hm => ?_⟩
      have hnumbered := map_fst_numbered (db.nextId + 1) d.layout.members
      rw [← hnumbered] at hm
      obtain ⟨⟨n, member⟩, hmem, rfl⟩ := List.mem_map.1 hm
      refine ⟨n.stored member, hperm.mem_iff.2 (List.mem_map_of_mem hmem), ?_, rfl, rfl, rfl⟩
      refine lookup_eq_some_of_nodup ?_ (List.mem_map_of_mem hmem)
      have hnames := d.layout.names_nodup
      rw [← hnumbered, List.map_map] at hnames
      rw [List.map_map]
      exact hnames

theorem accept_bound (h : db.Sound) (hs : db.get? id = some s) {bindings : Bindings}
    (hbound : bindings = d.bound s.size (Database.reported s))
    (hmatch : d.differences s.size (Database.reported s) = []) {state : State} :
    BoundTo { d with bindings, state } s := by
  intro m hm
  obtain ⟨-, x, hx, hrange, hlookup⟩ := bound_of_match hmatch hm
  obtain ⟨y, hy, rfl⟩ := List.mem_map.1 hx
  have hname : y.name = m.name := congrArg Prod.fst hrange
  have hoffset : y.offset = m.offset := congrArg (·.2.1) hrange
  have hstop : y.stop = m.stop := congrArg (·.2.2) hrange
  refine ⟨y, hy, by rw [hbound]; exact hlookup, hname, hoffset, ?_⟩
  have hyfits := ((h.members hs).fits y hy).toNat_stop
  rw [hstop, m.toNat_stop, StoredMember.stopNat, hoffset] at hyfits
  exact UInt64.toNat_inj.1 (Nat.add_left_cancel hyfits.symm)

/-- The struct of that id is stored and sound, and the members are bound to its members. -/
def Stands (d : Descriptor) (db : Database) : Prop :=
  ∀ id, d.state = .materialized id → ∃ s, db.get? id = some s ∧ s.Sound ∧ d.BoundTo s

theorem create_stands (fault? : Request → Option HostError) (h : db.Sound)
    (hspare : db.Spare (d.layout.members.length + 1)) (hd : ∀ id, d.state ≠ .materialized id) :
    (value d.create (⟨db, fault?⟩ : Guarded Database)).1.2.Stands
      (value d.create (⟨db, fault?⟩ : Guarded Database)).2.host := by
  intro id hid
  rcases hcreate : value d.create (⟨db, fault?⟩ : Guarded Database) with ⟨⟨e | created, d'⟩, after⟩
  · rw [hcreate] at hid
    exact absurd ((create_error_state hcreate).symm.trans hid) (hd id)
  · have hstate := create_ok_state (congrArg (·.1.1) hcreate)
    obtain rfl := State.materialized.inj (hstate.symm.trans hid)
    exact create_bound h hspare hcreate

theorem reconcile_stands (fault? : Request → Option HostError) (h : db.Sound)
    (hspare : db.Spare (d.layout.members.length + 1)) (hd : ∀ id, d.state ≠ .materialized id) :
    (value d.reconcile (⟨db, fault?⟩ : Guarded Database)).1.2.Stands
      (value d.reconcile (⟨db, fault?⟩ : Guarded Database)).2.host := by
  have hcases := reconciliation d (⟨db, fault?⟩ : Guarded Database)
  generalize value d.reconcile (⟨db, fault?⟩ : Guarded Database) = r at hcases
  cases hcases with
  | outOfTurn => exact fun id hid => absurd hid (hd id)
  | creates result d' after hstate hfind hcreate =>
    have hstands := create_stands fault? h hspare hd
    rw [hcreate] at hstands
    exact hstands
  | unreadable => exact fun id hid => absurd hid (hd id)
  | accepts existing size stored hstate hfind hsize hmembers hmatch =>
    intro id hid
    obtain rfl := State.materialized.inj hid
    obtain ⟨s, -, -, -, rfl, rfl, hget⟩ := found_stored h hfind hsize hmembers
    exact ⟨s, hget, h.members hget, accept_bound h hget rfl hmatch⟩
  | asks => exact nofun

theorem resolve_stands (fault? : Request → Option HostError) (h : db.Sound)
    (hspare : db.Spare (d.layout.members.length + 1))
    (hd : ∀ id, d.state ≠ .materialized id) (decision : Decision) :
    (value (d.resolve decision) (⟨db, fault?⟩ : Guarded Database)).1.2.Stands
      (value (d.resolve decision) (⟨db, fault?⟩ : Guarded Database)).2.host := by
  have hcases := resolution decision d (⟨db, fault?⟩ : Guarded Database)
  generalize value (d.resolve decision) (⟨db, fault?⟩ : Guarded Database) = r at hcases
  cases hcases with
  | notAsked => exact fun id hid => absurd hid (hd id)
  | stopped => exact nofun
  | kept => exact nofun
  | replaces existing report freed result d' after hstate hdecision hdelete hcreate =>
    obtain ⟨-, freed, hfreed, rfl⟩ := Guarded.pass_eq_ok hdelete
    obtain ⟨hsound, hnext⟩ := host_deleteStruct_ok h hfreed
    have hstands := create_stands fault? (d := { d with state := .schemaParsed })
      hsound (hspare.of_next_eq hnext) nofun
    rw [hcreate] at hstands
    exact hstands

theorem call_stands (fault? : Request → Option HostError) (h : db.Sound)
    (hspare : db.Spare (d.layout.members.length + 1))
    (hd : ∀ id, d.state ≠ .materialized id) (c : Call) :
    (c.run d (⟨db, fault?⟩ : Guarded Database)).1.2.Stands
      (c.run d (⟨db, fault?⟩ : Guarded Database)).2.host := by
  cases c with
  | reconcile => exact reconcile_stands fault? h hspare hd
  | resolve decision => exact resolve_stands fault? h hspare hd decision
  | materialize confirm =>
    rcases Call.run_materialize_cases confirm d (⟨db, fault?⟩ : Guarded Database) with
      hsame | ⟨report, asking, hasks, hsame⟩
    · rw [hsame]
      exact reconcile_stands fault? h hspare hd
    · obtain ⟨-, -, existing, -, -, hwaits, -⟩ :=
        Call.run_needsConfirmation (congrArg (·.1.1) hasks)
      have halike := Call.run_alike .reconcile d (⟨db, fault?⟩ : Guarded Database)
      rw [hasks] at hwaits halike
      rw [hsame]
      exact resolve_stands fault? h (by rw [halike.2]; exact hspare)
        (fun id hid => nomatch hwaits.symm.trans hid) _

end

/-! ### The bindings of a descriptor -/

/-- After a validation that gives a report, all members are bound to the one member of their name,
or none is bound, as the report says. Whatever parsing, reconciling, resolving and materializing
follow one another, on whatever hosts, the members are all bound while the descriptor is
materialized, and else all unbound. A call in a database made by requests, whatever its guard turns
down, that leaves the descriptor materialized leaves its members bound to different members of the
struct, each of the same name, offset and size. -/
theorem bindings_follow :
    (∀ (σ : Type) [Host σ] (host : σ) (id : StructId) (d : Descriptor) (report : Report),
      (d.validate host id).value.1 = .ok report →
        let validated := (d.validate host id).value.2
        ∃ stored, Host.members host id = .ok stored ∧
          (report.isMatch = true → ∀ m ∈ d.layout.members,
            (stored.map (·.name)).count m.name = 1 ∧
            ∃ x ∈ stored, x.name = m.name ∧ validated.memberId? m.name = some x.id) ∧
          (report.isMatch = false → ∀ m ∈ d.layout.members,
            validated.memberId? m.name = none)) ∧
    (∀ (name : String) (turns : List Turn), (∀ turn ∈ turns, turn.Acts) →
      let d := (ofName name).takeAll turns
      ∀ m ∈ d.layout.members, (d.memberId? m.name).isSome = d.isMaterialized) ∧
    (∀ (db : Database) (fault? : Request → Option HostError) (d : Descriptor) (c : Call)
      (id : StructId), db.Reachable → db.Spare (d.layout.members.length + 1) →
      (∀ id, d.state ≠ .materialized id) →
      let ran := c.run d (⟨db, fault?⟩ : Guarded Database)
      ran.1.2.state = .materialized id →
        (d.layout.members.map fun m => ran.1.2.memberId? m.name).Nodup ∧
        ∃ s, ran.2.host.get? id = some s ∧ ∀ m ∈ d.layout.members, ∃ x ∈ s.members,
          ran.1.2.memberId? m.name = some x.id ∧ x.name = m.name ∧ x.offset = m.offset ∧
          x.size = m.size) := by
  refine ⟨fun σ _ host id d report h => validate_binds h, ?_, ?_⟩
  · intro name turns hturns d m hm
    have hfollows := takeAll_follows name hturns
    rw [isMaterialized, structId?]
    cases hstate : d.state with
    | materialized id => exact hfollows.bound id hstate m hm
    | _ =>
      have hnone : d.bindings = [] := hfollows.unbound (by simp [d, hstate])
      rw [memberId?, hnone]
      rfl
  · intro db fault? d c id hdb hspare hd ran hid
    have hlayout : ran.1.2.layout = d.layout := (c.run_alike d _).2
    obtain ⟨s, hs, hsound, hbound⟩ := call_stands fault? hdb.sound hspare hd c id hid
    have hnodup := hbound.nodup hsound
    rw [BoundTo, show (c.run d (⟨db, fault?⟩ : Guarded Database)).1.2.layout = _ from hlayout]
      at hbound
    rw [show (c.run d (⟨db, fault?⟩ : Guarded Database)).1.2.layout = _ from hlayout] at hnodup
    exact ⟨hnodup, s, hs, hbound⟩

/-- A struct without members leaves a pair unbound, a run that replaces it in the end binds both
members, and a guard that turns nothing down lets them get different ids. -/
theorem bindings_follow_pair :
    let db := Request.perform (.createStruct "pair") (Database.empty 8)
    let fields : List Field :=
      [⟨some "second", some 4, some "int"⟩, ⟨some "first", some 0, some "int"⟩]
    let turns : List Turn := [.parse db fields, .call db (.materialize (.fixed .no)),
      .call db (.materialize (.fixed .yes))]
    let replaced := (ofName "pair").takeAll turns
    let ran := Call.run (.materialize (.fixed .yes)) pair (⟨db, fun _ => none⟩ : Guarded Database)
    (∀ m ∈ pair.layout.members,
      (pair.validate db ⟨Database.firstId⟩).value.2.memberId? m.name = none) ∧
    (∀ m ∈ replaced.layout.members, (replaced.memberId? m.name).isSome = true) ∧
    replaced.layout.members.length = 2 ∧
    (pair.layout.members.map fun m => ran.1.2.memberId? m.name).Nodup := by
  intro db fields turns replaced
  dsimp only
  obtain ⟨hvalidate, hrun, hcall⟩ := bindings_follow
  have hdb : db.Reachable :=
    .perform (.createStruct "pair") (.empty 8) (by unfold Database.Spare; decide)
  have hreport : (pair.validate db ⟨Database.firstId⟩).value.1 =
      .ok ⟨"pair", pair.differences 0 []⟩ := by decide +kernel
  have hmaterialized : replaced.isMaterialized = true := by decide +kernel
  obtain ⟨stored, -, -, hunbound⟩ := hvalidate Database db ⟨Database.firstId⟩ pair _ hreport
  refine ⟨hunbound (by decide +kernel), fun m hm => ?_, by decide +kernel, ?_⟩
  · have hbound := hrun "pair" turns (by simp [turns, Turn.Acts]) m hm
    exact hbound.trans hmaterialized
  · have hid : (Call.run (.materialize (.fixed .yes)) pair
        (⟨db, fun _ => none⟩ : Guarded Database)).1.2.state =
          .materialized ⟨Database.firstId + 1⟩ := by decide +kernel
    have hspare : db.Spare (pair.layout.members.length + 1) := by unfold Database.Spare; decide
    have hstate : ∀ id, pair.state ≠ .materialized id := by simp [pair]
    obtain ⟨hnodup, -⟩ := hcall db (fun _ => none) pair (.materialize (.fixed .yes))
      ⟨Database.firstId + 1⟩ hdb hspare hstate hid
    exact hnodup

end Descriptor

end StructSync
