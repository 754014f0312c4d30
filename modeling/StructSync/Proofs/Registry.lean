import Mathlib
import StructSync.Proofs.LifeCycle
import StructSync.Registry

/-!
# What a registry remembers

A registry is visited in any order, each time with the host, the fields and the one who answers as
they are at the time. Main statement (`memoised`): a type is present exactly if some visit for it
has given a descriptor; that descriptor is materialized and is given ever after, without a request
and without a question; a visit that fails leaves no trace, and what the next one gives is what a
build gives then.
-/

namespace StructSync

open Work

/-! ### Builds that succeed -/

namespace Descriptor

variable {σ : Type} [Host σ] {d : Descriptor}

theorem reconcile_ok_state {host : σ} {outcome : Outcome}
    (h : (value d.reconcile host).1.1 = .ok outcome) :
    (∃ report, outcome = .needsConfirmation report) ∨
      ∃ id, (value d.reconcile host).1.2.state = .materialized id := by
  have hcases := reconciliation d host
  generalize value d.reconcile host = r at hcases h
  cases hcases with
  | outOfTurn => cases h
  | creates result d' after hstate hfind hcreate =>
    rcases result with e | id
    · cases h
    · have hstate' := create_ok_state (congrArg (·.1.1) hcreate)
      rw [hcreate] at hstate'
      exact .inr ⟨id, hstate'⟩
  | unreadable => cases h
  | accepts existing => exact .inr ⟨existing, rfl⟩
  | asks => exact .inl ⟨_, (Except.ok.inj h).symm⟩

theorem resolve_ok_state {decision : Decision} {host : σ} {outcome : Outcome}
    (h : (value (d.resolve decision) host).1.1 = .ok outcome) :
    ∃ id, (value (d.resolve decision) host).1.2.state = .materialized id := by
  have hcases := resolution decision d host
  generalize value (d.resolve decision) host = r at hcases h
  cases hcases with
  | replaces existing report freed result d' after hstate hdecision hdelete hcreate =>
    rcases result with e | id
    · cases h
    · have hstate' := create_ok_state (congrArg (·.1.1) hcreate)
      rw [hcreate] at hstate'
      exact ⟨id, hstate'⟩
  | _ => cases h

theorem run_ok_state {c : Call} {host : σ} {outcome : Outcome}
    (h : (c.run d host).1.1 = .ok outcome) :
    (∃ report, outcome = .needsConfirmation report) ∨
      ∃ id, (c.run d host).1.2.state = .materialized id := by
  cases c with
  | reconcile => exact reconcile_ok_state h
  | resolve decision => exact .inr (resolve_ok_state h)
  | materialize confirm =>
    rcases Call.run_materialize_cases confirm d host with hsame | ⟨report, asking, hasks, hsame⟩
    · rw [hsame] at h ⊢
      exact reconcile_ok_state h
    · rw [hsame] at h ⊢
      exact .inr (resolve_ok_state h)

theorem build_ok_state {confirm : Confirmer Id} {name : String} {fields : List Field} {host : σ}
    {outcome : Outcome}
    (h : (Id.run (build confirm name fields host)).value.1 = .ok (d, outcome)) :
    ∃ id, d.state = .materialized id := by
  rw [Call.value_build] at h
  rcases hparse : ((ofName name).parse host fields).value with ⟨e | _, parsed⟩
  · rw [hparse] at h
    cases h
  · rw [hparse] at h
    dsimp only at h
    rcases hrun : (Call.materialize confirm).run parsed host with ⟨⟨e | found, last⟩, after⟩
    · rw [hrun] at h
      cases h
    · rw [hrun] at h
      cases h
      have hok : ((Call.materialize confirm).run parsed host).1.1 = .ok outcome := by rw [hrun]
      rcases run_ok_state hok with ⟨report, rfl⟩ | ⟨id, hid⟩
      · exact nomatch (Call.run_needsConfirmation hok).1
      · rw [hrun] at hid
        exact ⟨id, hid⟩

end Descriptor

namespace Registry

/-- The registry with one more descriptor. -/
def keep (r : Registry) (typePath : String) (d : Descriptor) : Registry :=
  ⟨r.entries ++ [(typePath, d)]⟩

section
variable {σ : Type} [Host σ] {r : Registry} {definition : Definition} {d : Descriptor}

theorem get?_eq_none {typePath : String} :
    r.get? typePath = none ↔ typePath ∉ r.entries.map Prod.fst := by
  rw [get?, List.lookup_eq_none_iff]
  simp only [bne_iff_ne, List.mem_map, not_exists, not_and]
  exact ⟨fun h entry hentry he => h entry hentry he.symm,
    fun h entry hentry he => h entry hentry he.symm⟩

theorem get?_keep_of_some {typePath other : String} {d' : Descriptor}
    (h : r.get? other = some d) : (r.keep typePath d').get? other = some d := by
  rw [get?] at h ⊢
  rw [keep, List.lookup_append, h, Option.some_or]

theorem get?_keep_self {typePath : String} (h : r.get? typePath = none) :
    (r.keep typePath d).get? typePath = some d := by
  rw [get?] at h ⊢
  rw [keep, List.lookup_append, h, Option.none_or, List.lookup_cons_self]

theorem mem_keys_keep {typePath other : String} :
    other ∈ (r.keep typePath d).entries.map Prod.fst ↔
      other ∈ r.entries.map Prod.fst ∨ other = typePath := by
  rw [keep, List.map_append, List.mem_append, List.map_singleton, List.mem_singleton]

theorem getOrMaterialize_of_some {m : Type → Type} [Monad m] (confirm : Confirmer m) (host : σ)
    (h : r.get? definition.typePath = some d) :
    r.getOrMaterialize confirm definition host = pure (pure ((.ok d, r), host)) := by
  rw [getOrMaterialize, h]

/-- What is not kept is built, and kept if that succeeds. -/
theorem value_getOrMaterialize (confirm : Confirmer Id) (host : σ)
    (h : r.get? definition.typePath = none) :
    (Id.run (r.getOrMaterialize confirm definition host)).value =
      match (Id.run (Descriptor.build confirm definition.structName definition.fields
        host)).value with
      | (.error e, host) => ((.error e, r), host)
      | (.ok (d, _), host) => ((.ok d, r.keep definition.typePath d), host) := by
  rw [getOrMaterialize, h]
  rcases hbuild : (Id.run (Descriptor.build confirm definition.structName definition.fields
    host)).value with ⟨e | ⟨d, outcome⟩, host'⟩
  all_goals
    rw [Id.run] at hbuild
    simp only [Id.run, bind, hbuild]
    rfl

end

/-! ### Visits -/

/-- A call on a registry: a definition as it is at the time, with the host that a build would change
and the one who would be asked, or a question. -/
inductive Visit : Type 1 where
  | getOrMaterialize {σ : Type} [Host σ] (host : σ) (confirm : Confirmer Id)
    (definition : Definition)
  | get (typePath : String)
  | contains (typePath : String)
  | size

/-- The registry after the visit; a question changes nothing. -/
def leave (r : Registry) : Visit → Registry
  | @Visit.getOrMaterialize _ _ host confirm definition =>
    (Id.run (r.getOrMaterialize confirm definition host)).value.1.2
  | _ => r

def leaveAll (r : Registry) (visits : List Visit) : Registry := visits.foldl leave r

/-- The visit is for a definition of that type and is given a descriptor. -/
def Gives (r : Registry) (typePath : String) : Visit → Prop
  | @Visit.getOrMaterialize _ _ host confirm definition => definition.typePath = typePath ∧
    ∃ d, (Id.run (r.getOrMaterialize confirm definition host)).value.1.1 = .ok d
  | _ => False

/-- One of the visits was given a descriptor of that type. -/
def Given (visits : List Visit) (typePath : String) : Prop :=
  ∃ before visit later, visits = before ++ visit :: later ∧
    (empty.leaveAll before).Gives typePath visit

theorem leaveAll_append (r : Registry) (visits later : List Visit) :
    r.leaveAll (visits ++ later) = (r.leaveAll visits).leaveAll later := List.foldl_append

theorem given_concat {visits : List Visit} {visit : Visit} {typePath : String} :
    Given (visits ++ [visit]) typePath ↔
      Given visits typePath ∨ (empty.leaveAll visits).Gives typePath visit := by
  constructor
  · rintro ⟨before, given, later, heq, hgives⟩
    rcases List.eq_nil_or_concat later with rfl | ⟨later, last, rfl⟩
    · obtain ⟨rfl, hlast⟩ := List.append_inj' heq rfl
      obtain rfl := List.singleton_inj.1 hlast
      exact .inr hgives
    · rw [List.concat_eq_append, ← List.cons_append, ← List.append_assoc] at heq
      obtain ⟨rfl, -⟩ := List.append_inj' heq rfl
      exact .inl ⟨before, given, later, rfl, hgives⟩
  · rintro (⟨before, given, later, rfl, hgives⟩ | hgives)
    · exact ⟨before, given, later ++ [visit], by simp, hgives⟩
    · exact ⟨visits, visit, [], rfl, hgives⟩

/-- A visit leaves a registry as it is, and gives what it has, or adds a descriptor of a type that
is not there yet. -/
theorem leave_cases (r : Registry) (visit : Visit) :
    (r.leave visit = r ∧ ∀ typePath, r.Gives typePath visit → (r.get? typePath).isSome) ∨
      ∃ typePath d id, r.get? typePath = none ∧ d.state = .materialized id ∧
        r.leave visit = r.keep typePath d ∧
        ∀ other, r.Gives other visit ↔ other = typePath := by
  cases visit with
  | getOrMaterialize host confirm definition =>
    cases hget : r.get? definition.typePath with
    | some d =>
      have hgiven := getOrMaterialize_of_some confirm host hget
      refine .inl ⟨by rw [leave, hgiven]; rfl, ?_⟩
      rintro typePath ⟨rfl, -⟩
      rw [hget]
      rfl
    | none =>
      have hvalue := value_getOrMaterialize confirm host hget
      rcases hbuild : (Id.run (Descriptor.build confirm definition.structName definition.fields
        host)).value with ⟨e | ⟨d, outcome⟩, host'⟩
      · rw [hbuild] at hvalue
        refine .inl ⟨by rw [leave, hvalue], ?_⟩
        rintro typePath ⟨-, d, hd⟩
        rw [hvalue] at hd
        cases hd
      · rw [hbuild] at hvalue
        obtain ⟨id, hid⟩ := Descriptor.build_ok_state (congrArg Prod.fst hbuild)
        refine .inr ⟨definition.typePath, d, id, hget, hid, by rw [leave, hvalue], fun other => ?_⟩
        constructor
        · rintro ⟨rfl, -⟩
          rfl
        · rintro rfl
          exact ⟨rfl, d, by rw [hvalue]⟩
  | _ => exact .inl ⟨rfl, fun _ h => h.elim⟩

/-! ### What a registry is -/

/-- Every type is there once, and its descriptor is materialized. -/
structure Sound (r : Registry) : Prop where
  keys : (r.entries.map Prod.fst).Nodup
  materialized : ∀ entry ∈ r.entries, ∃ id, entry.2.state = .materialized id

theorem Sound.leave {r : Registry} (h : r.Sound) (visit : Visit) : (r.leave visit).Sound := by
  rcases leave_cases r visit with ⟨hsame, -⟩ | ⟨typePath, d, id, habsent, hd, hkeep, -⟩
  · rw [hsame]
    exact h
  · rw [hkeep]
    constructor
    · rw [keep, List.map_append]
      refine h.keys.append (List.nodup_singleton _) ?_
      rintro key hkey hself
      obtain rfl : key = typePath := List.mem_singleton.1 hself
      exact get?_eq_none.1 habsent hkey
    · intro entry hentry
      rcases List.mem_append.1 hentry with hentry | hentry
      · exact h.materialized entry hentry
      · obtain rfl := List.mem_singleton.1 hentry
        exact ⟨id, hd⟩

theorem get?_leave {r : Registry} {typePath : String} {d : Descriptor}
    (h : r.get? typePath = some d) (visit : Visit) : (r.leave visit).get? typePath = some d := by
  rcases leave_cases r visit with ⟨hsame, -⟩ | ⟨other, new, id, -, -, hkeep, -⟩
  · rwa [hsame]
  · rw [hkeep]
    exact get?_keep_of_some h

theorem get?_leaveAll {r : Registry} {typePath : String} {d : Descriptor}
    (h : r.get? typePath = some d) (visits : List Visit) :
    (r.leaveAll visits).get? typePath = some d := by
  induction visits generalizing r with
  | nil => exact h
  | cons visit visits ih => exact ih (get?_leave h visit)

theorem sound_leaveAll (visits : List Visit) : (empty.leaveAll visits).Sound := by
  induction visits using List.reverseRecOn with
  | nil => exact ⟨List.nodup_nil, fun entry hentry => absurd hentry List.not_mem_nil⟩
  | append_singleton visits visit ih =>
    rw [leaveAll_append]
    exact ih.leave visit

theorem mem_keys_iff_given (visits : List Visit) (typePath : String) :
    typePath ∈ (empty.leaveAll visits).entries.map Prod.fst ↔ Given visits typePath := by
  induction visits using List.reverseRecOn with
  | nil => simp [leaveAll, empty, Given]
  | append_singleton visits visit ih =>
    rw [given_concat, ← ih, leaveAll_append]
    show typePath ∈ ((empty.leaveAll visits).leave visit).entries.map Prod.fst ↔ _
    rcases leave_cases (empty.leaveAll visits) visit with
      ⟨hsame, hgives⟩ | ⟨new, d, id, -, -, hkeep, hgives⟩
    · rw [hsame, or_iff_left_of_imp]
      intro hgiven
      by_contra habsent
      have hsome := hgives typePath hgiven
      rw [get?_eq_none.2 habsent] at hsome
      cases hsome
    · rw [hkeep, mem_keys_keep, hgives]

/-- Whatever visits follow one another, on whatever hosts, for definitions that may change: a type
is present exactly if a visit for it was given a descriptor, every descriptor is materialized, and
one that is present is given at every later visit for its type, without a request and without a
question. A visit for a type that is not there comes to what a build comes to at that time, whatever
has failed before, and leaves the registry as it is if that fails. The size is the number of types
that were given. -/
theorem memoised (visits : List Visit) :
    let r := empty.leaveAll visits
    (∀ typePath, r.contains typePath = true ↔ Given visits typePath) ∧
    (∀ entry ∈ r.entries, ∃ id, entry.2.state = .materialized id) ∧
    (∀ typePath d, r.get? typePath = some d → ∀ later : List Visit,
      (r.leaveAll later).get? typePath = some d ∧
      ∀ (σ : Type) [Host σ] (m : Type → Type) [Monad m] (host : σ) (confirm : Confirmer m)
        (definition : Definition), definition.typePath = typePath →
        (r.leaveAll later).getOrMaterialize confirm definition host =
          pure (pure ((.ok d, r.leaveAll later), host))) ∧
    (∀ (σ : Type) [Host σ] (host : σ) (confirm : Confirmer Id) (definition : Definition),
      r.get? definition.typePath = none →
        let visited := (Id.run (r.getOrMaterialize confirm definition host)).value
        match (Id.run (Descriptor.build confirm definition.structName definition.fields
          host)).value with
        | (.error e, host) => visited = ((.error e, r), host)
        | (.ok (d, _), host) => visited.1.1 = .ok d ∧ visited.2 = host ∧
          visited.1.2.get? definition.typePath = some d) ∧
    r.size = Set.ncard {typePath | Given visits typePath} := by
  intro r
  have hsound : r.Sound := sound_leaveAll visits
  have hkeys (typePath : String) : typePath ∈ r.entries.map Prod.fst ↔ Given visits typePath :=
    mem_keys_iff_given visits typePath
  refine ⟨fun typePath => ?_, hsound.materialized, fun typePath d hd later => ?_, ?_, ?_⟩
  · rw [← hkeys, contains, Option.isSome_iff_ne_none, ne_eq, get?_eq_none, not_not]
  · have hlater := get?_leaveAll hd later
    refine ⟨hlater, ?_⟩
    rintro σ _ m _ host confirm definition rfl
    exact getOrMaterialize_of_some confirm host hlater
  · intro σ _ host confirm definition habsent
    rw [value_getOrMaterialize confirm host habsent]
    rcases (Id.run (Descriptor.build confirm definition.structName definition.fields
      host)).value with ⟨e | ⟨d, outcome⟩, host'⟩
    · rfl
    · exact ⟨rfl, rfl, get?_keep_self habsent⟩
  · have hset : {typePath | Given visits typePath} = ((r.entries.map Prod.fst).toFinset : Set _) :=
      Set.ext fun typePath => by simp only [Set.mem_ofPred_eq, ← hkeys, List.coe_toFinset]
    rw [hset, Set.ncard_coe_finset, List.toFinset_card_of_nodup hsound.keys, List.length_map]
    rfl

/-- A definition whose fields clash fails, is mended and comes through; when it is broken again the
descriptor is still given. -/
theorem memoised_mended :
    let db := Database.empty 8
    let mended : Definition := ⟨"shapes::Pair", none, [⟨some "x", none, some "int"⟩]⟩
    let broken : Definition := { mended with fields := mended.fields ++ mended.fields }
    let visits : List Visit :=
      [.getOrMaterialize db (.fixed .yes) broken, .getOrMaterialize db (.fixed .yes) mended]
    let r := empty.leaveAll visits
    (empty.leaveAll (visits.take 1)).contains "shapes::Pair" = false ∧
    Given visits "shapes::Pair" ∧ Set.ncard {typePath | Given visits typePath} = 1 ∧
    ∃ d id, r.get? "shapes::Pair" = some d ∧ d.name = "Pair" ∧ d.state = .materialized id ∧
      r.getOrMaterialize Script.confirmer broken db = pure (pure ((.ok d, r), db)) := by
  intro db mended broken visits r
  obtain ⟨hpresent, hmaterialized, hgiven, -, hsize⟩ := memoised visits
  have hthere : r.contains "shapes::Pair" = true := by decide +kernel
  have hname : (r.get? "shapes::Pair").map (·.name) = some "Pair" := by decide +kernel
  obtain ⟨d, hd, hname⟩ := Option.map_eq_some_iff.1 hname
  obtain ⟨before, after, hentries, -⟩ := List.lookup_eq_some_iff.1 hd
  have hmem : ("shapes::Pair", d) ∈ r.entries := by rw [hentries]; simp
  obtain ⟨id, hid⟩ := hmaterialized _ hmem
  refine ⟨by decide +kernel, (hpresent _).1 hthere, hsize.symm.trans (by decide +kernel),
    d, id, hd, hname, hid, ?_⟩
  exact (hgiven _ d hd []).2 Database _ db Script.confirmer broken rfl

end Registry

end StructSync
