import Mathlib
import StructSync.Proofs.Database.Lineage
import StructSync.Proofs.Declared
import StructSync.Proofs.Run

/-!
# Answers that come late

Between a question and its answer anything may happen to the database. `Numbered` is a host together
with the ids that it gave out. Main statement (`World.late_answer`): no id is given out twice, by
whomever the database is changed; so an answer yes replaces the very struct that was compared when
the question was asked, or finds that it is gone and changes nothing.
-/

namespace StructSync

open Work

/-- A host, and the ids that it gave to structs and members so far, the latest last. -/
structure Numbered (σ : Type) where
  host : σ
  given : List UInt64

namespace Numbered

section
variable {α σ : Type}

/-- A request passed on to the host, and the ids of its answer kept. -/
def pass (ids : α → List UInt64) (change : σ → Except HostError α × σ) (n : Numbered σ) :
    Except HostError α × Numbered σ :=
  let (answer, host) := change n.host
  (answer, ⟨host, n.given ++ (answer.toOption.map ids).getD []⟩)

instance [Host σ] : Host (Numbered σ) where
  findStruct? n := Host.findStruct? n.host
  structSize n := Host.structSize n.host
  members n := Host.members n.host
  parseType n := Host.parseType n.host
  createStruct name := pass (fun id => [id.value]) (Host.createStruct name)
  deleteStruct id := pass (fun _ => []) (Host.deleteStruct id)
  createMember id name offset size flags :=
    pass (fun member => [member.value]) (Host.createMember id name offset size flags)
  setMemberType id member offset type :=
    pass (fun _ => []) (Host.setMemberType id member offset type)

variable [Host σ]

theorem morphism_host : Host.Morphism (Numbered.host : Numbered σ → σ) where
  findStruct _ _ := rfl
  structSize _ _ := rfl
  members _ _ := rfl
  createStruct _ _ := rfl
  deleteStruct _ _ := rfl
  createMember _ _ _ _ _ _ := rfl
  setMemberType _ _ _ _ _ := rfl

theorem host_perform (r : Request) (n : Numbered σ) : (r.perform n).host = r.perform n.host := by
  cases r <;> rfl

end

variable {n n' n'' : Numbered Database} {first : UInt64}

/-- What is passed on to a database leaves all as it is, or its ids are kept. -/
theorem pass_settle {α : Type} (ids : α → List UInt64)
    (change : Database → Except HostError (α × Database)) (n : Numbered Database) :
    (pass ids (fun db => db.settle (change db)) n).2 = n ∨
      ∃ a db, change n.host = .ok (a, db) ∧
        (pass ids (fun db => db.settle (change db)) n).2 = ⟨db, n.given ++ ids a⟩ := by
  rw [pass]
  rcases hdb : change n.host with e | ⟨a, db⟩
  · exact .inl (congrArg (Numbered.mk n.host) (List.append_nil n.given))
  · exact .inr ⟨a, db, rfl, rfl⟩

theorem given_perform (r : Request) (n : Numbered Database) :
    (r.perform n).given = n.given ∧ (r.perform n).host.nextId = n.host.nextId ∨
      (r.perform n).given = n.given ++ [n.host.nextId] ∧
        (r.perform n).host.nextId = n.host.nextId + 1 ∧ r.ids = 1 := by
  cases r with
  | createStruct name =>
    rcases pass_settle (fun id : StructId => [id.value]) (·.createStruct name) n with
      h | ⟨id, db, hdb, h⟩ <;> rw [show Request.perform (.createStruct name) n = _ from h]
    · exact .inl ⟨rfl, rfl⟩
    · obtain ⟨-, rfl, rfl⟩ := Database.createStruct_eq_ok.1 hdb
      exact .inr ⟨rfl, rfl, rfl⟩
  | deleteStruct id =>
    rcases pass_settle (fun _ : Unit => []) (fun db => (db.deleteStruct id).map ((), ·)) n with
      h | ⟨⟨⟩, db, hdb, h⟩ <;> rw [show Request.perform (.deleteStruct id) n = _ from h]
    · exact .inl ⟨rfl, rfl⟩
    · rcases hdelete : n.host.deleteStruct id with e | freed <;> rw [hdelete] at hdb <;> cases hdb
      obtain ⟨-, rfl⟩ := Database.deleteStruct_eq_ok.1 hdelete
      exact .inl ⟨List.append_nil _, rfl⟩
  | createMember id name offset size flags =>
    rcases pass_settle (fun member : MemberId => [member.value])
      (·.createMember id name offset size flags) n with h | ⟨member, db, hdb, h⟩ <;>
      rw [show Request.perform (.createMember id name offset size flags) n = _ from h]
    · exact .inl ⟨rfl, rfl⟩
    · obtain ⟨s, -, -, rfl, rfl⟩ := Database.createMember_eq_ok.1 hdb
      exact .inr ⟨rfl, rfl, rfl⟩
  | setMemberType id member offset type =>
    rcases pass_settle (fun _ : Unit => [])
      (fun db => (db.setMemberType id member offset type).map ((), ·)) n with
      h | ⟨⟨⟩, db, hdb, h⟩ <;>
      rw [show Request.perform (.setMemberType id member offset type) n = _ from h]
    · exact .inl ⟨rfl, rfl⟩
    · rcases htype : n.host.setMemberType id member offset type with e | typed <;>
        rw [htype] at hdb <;> cases hdb
      obtain ⟨s, m, -, -, -, -, rfl⟩ := Database.setMemberType_eq_ok.1 htype
      exact .inl ⟨List.append_nil _, rfl⟩

/-- The ids given are consecutive, from the first one up to where the counter is. -/
structure Consecutive (first : UInt64) (n : Numbered Database) : Prop where
  given : n.given.map UInt64.toNat = List.range' first.toNat n.given.length
  next : n.host.nextId.toNat = first.toNat + n.given.length

namespace Consecutive

theorem start (db : Database) : Consecutive db.nextId ⟨db, []⟩ := ⟨rfl, rfl⟩

theorem perform (h : Consecutive first n) (r : Request) (hspare : n.host.Spare r.ids) :
    Consecutive first (r.perform n) := by
  rcases given_perform r n with ⟨hgiven, hnext⟩ | ⟨hgiven, hnext, hids⟩
  · refine ⟨?_, ?_⟩ <;> rw [hgiven]
    · exact h.given
    · rw [hnext, h.next]
  · rw [hids] at hspare
    have hlength : (r.perform n).given.length = n.given.length + 1 := by simp [hgiven]
    refine ⟨?_, ?_⟩
    · rw [hlength, hgiven, List.map_append, h.given, List.range'_concat]
      simp [h.next]
    · rw [hnext, hspare.toNat_next, h.next, hlength, Nat.add_assoc]

theorem nodup (h : Consecutive first n) : n.given.Nodup :=
  List.Nodup.of_map UInt64.toNat (h.given ▸ List.nodup_range')

theorem first_le (h : Consecutive first n) {id : UInt64} (hid : id ∈ n.given) : first ≤ id := by
  have hmem : id.toNat ∈ List.range' first.toNat n.given.length := h.given ▸ List.mem_map_of_mem hid
  obtain ⟨i, -, hi⟩ := List.mem_range'.1 hmem
  exact UInt64.le_iff_toNat_le.2 (by omega)

/-- What is given behind the first ids lies at the counter of that time or above. -/
theorem next_le_of_mem_drop (h : Consecutive first n) (h' : Consecutive first n')
    {id : UInt64} (hid : id ∈ n'.given.drop n.given.length) :
    n.host.nextId.toNat ≤ id.toNat := by
  have hmem : id.toNat ∈ (n'.given.map UInt64.toNat).drop n.given.length := by
    rw [← List.map_drop]
    exact List.mem_map_of_mem hid
  rw [h'.given, List.drop_range'] at hmem
  obtain ⟨i, -, hi⟩ := List.mem_range'.1 hmem
  rw [h.next]
  omega

end Consecutive

/-- The second comes from the first by requests. -/
structure Follows (n n' : Numbered Database) : Prop where
  later : n.host.Later n'.host
  consecutive : ∀ {first}, Consecutive first n → Consecutive first n'

namespace Follows

theorem refl (n : Numbered Database) : Follows n n := ⟨.refl, id⟩

theorem trans (h : Follows n n') (h' : Follows n' n'') : Follows n n'' :=
  ⟨h.later.trans h'.later, fun hn => h'.consecutive (h.consecutive hn)⟩

theorem perform (r : Request) (hspare : n.host.Spare r.ids) : Follows n (r.perform n) := by
  refine ⟨?_, fun hn => hn.perform r hspare⟩
  rw [host_perform]
  exact .perform r .refl hspare

theorem performAll {requests : List Request}
    (hspare : n.host.Spare (Request.idsOfAll requests)) :
    Follows n (Request.performAll requests n) := by
  induction requests generalizing n with
  | nil => exact .refl n
  | cons r rest ih =>
    rw [Request.idsOfAll_cons] at hspare
    refine (perform r (hspare.mono (Nat.le_add_right _ _))).trans (ih ?_)
    rw [host_perform]
    exact hspare.perform

end Follows

end Numbered

/-! ### Runs on a database -/

namespace World

variable {db : Database} {acts : List (Act (Numbered Database))} {m n : Nat}

/-- All that happens to the database from outside are requests, and whatever an act may take of the
counter is left. -/
structure Requested (db : Database) (acts : List (Act (Numbered Database))) : Prop where
  outside : ∀ change, .outside change ∈ acts → ∃ r : Request, change = r.perform
  spare : ∀ n act, acts[n]? = some act →
    (after ⟨db, []⟩ acts n).host.host.Spare ((after ⟨db, []⟩ acts n).ids act)

theorem Requested.follows_step (h : Requested db acts) {act : Act (Numbered Database)}
    (hact : acts[n]? = some act) :
    (after ⟨db, []⟩ acts n).host.Follows (after ⟨db, []⟩ acts (n + 1)).host := by
  have hspare := h.spare n act hact
  rw [after_succ hact]
  rcases host_step (after ⟨db, []⟩ acts n) act with ⟨change, rfl, hhost⟩ | ⟨requests, hhost, hids⟩
  · obtain ⟨r, rfl⟩ := h.outside change (List.mem_of_getElem? hact)
    rw [hhost]
    refine .perform r (hspare.mono ?_)
    cases r <;> simp [Request.ids, ids]
  · rw [hhost]
    exact .performAll (hspare.mono hids)

theorem Requested.follows (h : Requested db acts) (hmn : m ≤ n) (hn : n ≤ acts.length) :
    (after ⟨db, []⟩ acts m).host.Follows (after ⟨db, []⟩ acts n).host := by
  induction n, hmn using Nat.le_induction with
  | base => exact .refl _
  | succ n _ ih =>
    exact (ih (Nat.le_of_succ_le hn)).trans (h.follows_step (List.getElem?_eq_getElem hn))

theorem Requested.consecutive (h : Requested db acts) (hn : n ≤ acts.length) :
    (after ⟨db, []⟩ acts n).host.Consecutive db.nextId :=
  (h.follows (Nat.zero_le n) hn).consecutive (.start db)

theorem Requested.reachable (h : Requested db acts) (hdb : db.Reachable) (hn : n ≤ acts.length) :
    (after ⟨db, []⟩ acts n).host.host.Reachable :=
  (h.follows (Nat.zero_le n) hn).later.reachable hdb

/-- What is stored under an id of then and under the same id now was stored there all the time. -/
theorem Requested.stored_between (h : Requested db acts) {k : Nat} (hkm : k ≤ m) (hmn : m ≤ n)
    (hn : n ≤ acts.length) {id : StructId} {s t : StoredStruct}
    (hlt : id.value.toNat < (after ⟨db, []⟩ acts k).host.host.nextId.toNat)
    (hs : (after ⟨db, []⟩ acts k).host.host.get? id = some s)
    (ht : (after ⟨db, []⟩ acts n).host.host.get? id = some t) :
    ∃ u, (after ⟨db, []⟩ acts m).host.host.get? id = some u ∧ u.name = s.name := by
  have hm : m ≤ acts.length := hmn.trans hn
  have hltm := hlt.trans_le (h.follows hkm hm).later.next_le
  obtain ⟨u, hu, -⟩ := (h.follows hmn hn).later.stored_before hltm ht
  obtain ⟨v, hv, hvname⟩ := (h.follows hkm hm).later.stored_before hlt hu
  obtain rfl := Option.some.inj (hv.symm.trans hs)
  exact ⟨u, hu, hvname.symm⟩

end World

/-! ### The answer yes -/

namespace Descriptor

variable {db : Database} {d : Descriptor} {id : StructId} {report : Report} {s : StoredStruct}

theorem resolve_yes_stored (h : db.Sound) (hspare : db.Spare (d.layout.members.length + 1))
    (hstate : d.state = .awaitingConfirmation id report) (hs : db.get? id = some s)
    (hname : s.name = d.name) :
    ∃ d' after, value (d.resolve .yes) db = ((.ok (.recreated id ⟨db.nextId⟩), d'), after) ∧
      d'.state = .materialized ⟨db.nextId⟩ ∧ after.get? id = none := by
  obtain ⟨freed, hdelete, hfree⟩ := host_deleteStruct_stored h hs
  have hdb := Database.host_deleteStruct_eq_ok.1 hdelete
  obtain ⟨hsound, hnext⟩ := host_deleteStruct_ok h hdelete
  have hspare' : freed.Spare (d.layout.members.length + 1) := hspare.of_next_eq hnext
  obtain ⟨bindings, after, t, hcreate, hgrown, -⟩ :=
    create_stored (d := { d with state := .schemaParsed }) hsound hspare' (hname ▸ hfree)
  rw [value_resolve_yes hstate, hdelete]
  dsimp only
  rw [hcreate, hnext]
  refine ⟨_, after, rfl, rfl, ?_⟩
  -- the id lies below the counter, so it is not the one that was given to the new struct
  obtain ⟨-, hfreed⟩ := Database.deleteStruct_eq_ok.1 hdb
  have hlt : id.value.toNat < db.nextId.toNat := h.lt_next hs
  have hne : id.value ≠ freed.nextId := fun he => by
    rw [hnext] at he
    exact Nat.lt_irrefl _ (he ▸ hlt)
  rw [Database.get?, hgrown.structs, WordMap.get?_insert, if_neg hne, hfreed,
    WordMap.get?_erase_self]

theorem resolve_yes_gone {n : Numbered Database}
    (hstate : d.state = .awaitingConfirmation id report) (hgone : n.host.get? id = none) :
    value (d.resolve .yes) n =
      ((.error (.host (.unknownStruct id)), { d with state := .schemaParsed }), n) := by
  have hdelete : Host.deleteStruct id n = (.error (.unknownStruct id), n) := by
    show Numbered.pass _ (fun db => db.settle ((db.deleteStruct id).map ((), ·))) n = _
    rw [Numbered.pass, Database.deleteStruct, Database.get, hgone]
    exact congrArg (fun given => (_, Numbered.mk n.host given)) (List.append_nil n.given)
  rw [value_resolve_yes hstate, hdelete]

end Descriptor

namespace World

open Descriptor

variable {db : Database} {acts : List (Act (Numbered Database))} {n i : Nat} {s : Slot}
  {id : StructId} {report : Report}

/-- Whatever happens to a database that requests have made, by descriptors and from outside: no id
is given out twice or again. If then a question about a struct is answered yes, it was asked in an
earlier act, when that struct was found under the name; the id was not given out since. And either
the struct is there, as it was all the time, and is replaced, or it is gone, the descriptor can be
reconciled again and the database stays as it is. -/
theorem late_answer (hdb : db.Reachable) (hacts : Requested db acts) :
    (∀ n ≤ acts.length, (after ⟨db, []⟩ acts n).host.given.Nodup ∧
      ∀ id ∈ (after ⟨db, []⟩ acts n).host.given, db.nextId ≤ id) ∧
    ∀ n i s id report, acts[n]? = some (.call i (.resolve .yes)) →
      (after ⟨db, []⟩ acts n).slots[i]? = some s → s.Waits id report →
      ∃ k < n, s.asked = some k ∧ AskedAt ⟨db, []⟩ acts k s.descriptor.name id report ∧
        id.value ∉ (after ⟨db, []⟩ acts n).host.given.drop
          (after ⟨db, []⟩ acts k).host.given.length ∧
        ((∃ d' after' created,
            (∀ m, k ≤ m → m ≤ n → ∃ t, (after ⟨db, []⟩ acts m).host.host.get? id = some t ∧
              t.name = s.descriptor.name) ∧
            (Call.resolve .yes).run s.descriptor (after ⟨db, []⟩ acts n).host =
              ((.ok (.recreated id created), d'), after') ∧
            d'.state = .materialized created ∧ after'.host.get? id = none) ∨
          (after ⟨db, []⟩ acts n).host.host.get? id = none ∧
            (Call.resolve .yes).run s.descriptor (after ⟨db, []⟩ acts n).host =
              ((.error (.host (.unknownStruct id)), { s.descriptor with state := .schemaParsed }),
                (after ⟨db, []⟩ acts n).host)) := by
  refine ⟨fun n hn => ?_, fun n i s id report hact hs hwaits => ?_⟩
  · have hconsecutive := hacts.consecutive hn
    exact ⟨hconsecutive.nodup, fun id hid => hconsecutive.first_le hid⟩
  have hn : n ≤ acts.length := (List.getElem?_eq_some_iff.1 hact).1.le
  obtain ⟨k, hk, hasked, hbefore⟩ := asked_before hn hs hwaits
  have hk' : k ≤ acts.length := hk.le.trans hn
  -- when it was asked the struct was found under the name, so its id lies below the counter
  have hsoundk := (hacts.reachable hdb hk').sound
  obtain ⟨asked, hget, hname⟩ := (findStruct_eq_some hsoundk).1 hbefore.found
  have hlt : id.value.toNat < (after ⟨db, []⟩ acts k).host.host.nextId.toNat := hsoundk.lt_next hget
  refine ⟨k, hk, hasked, hbefore, fun hgiven => ?_, ?_⟩
  · have := (hacts.consecutive hk').next_le_of_mem_drop (hacts.consecutive hn) hgiven
    omega
  have hsound := (hacts.reachable hdb hn).sound
  cases hstored : (after ⟨db, []⟩ acts n).host.host.get? id with
  | none =>
    exact .inr ⟨rfl, resolve_yes_gone hwaits hstored⟩
  | some t =>
    left
    have hall : ∀ m, k ≤ m → m ≤ n → ∃ t, (after ⟨db, []⟩ acts m).host.host.get? id = some t ∧
        t.name = s.descriptor.name := fun m hkm hmn =>
      hname ▸ hacts.stored_between hkm hmn hn hlt hget hstored
    obtain ⟨t', ht', hname'⟩ := hall n hk.le (Nat.le_refl n)
    have hspare := hacts.spare n _ hact
    rw [ids, hs] at hspare
    obtain ⟨d', after', hresolve, hd', hgone⟩ := resolve_yes_stored hsound hspare hwaits ht' hname'
    have hrun := Numbered.morphism_host.run (.resolve .yes) s.descriptor (after ⟨db, []⟩ acts n).host
    rw [show (Call.resolve .yes).run s.descriptor (after ⟨db, []⟩ acts n).host.host = _ from hresolve]
      at hrun
    obtain ⟨hanswer, hhost⟩ := Prod.mk.inj hrun
    refine ⟨d', _, _, hall, Prod.ext hanswer.symm rfl, hd', ?_⟩
    rw [← hhost]
    exact hgone

/-- A descriptor asks about a struct and is cloned. Then the struct is deleted, and another one of
the name is created: the answer yes to the clone comes too late, and does not reach the new one. -/
theorem late_answer_gone :
    let acts : List (Act (Numbered Database)) := [
      .outside (Request.perform (.createStruct "pair")),
      .outside (Request.perform (.createMember ⟨Database.firstId⟩ "first" 0 4 .data)),
      .start "pair", .parse 0 [], .call 0 .reconcile, .clone 0,
      .outside (Request.perform (.deleteStruct ⟨Database.firstId⟩)),
      .outside (Request.perform (.createStruct "pair")), .call 1 (.resolve .yes)]
    let world := after ⟨.empty 8, []⟩ acts
    Requested (.empty 8) acts ∧
      (world 8).host.given = [Database.firstId, Database.firstId + 1, Database.firstId + 2] ∧
      ((world 8).host.host.get? ⟨Database.firstId + 2⟩).isSome = true ∧
      ∃ s report, (world 8).slots[1]? = some s ∧ s.Waits ⟨Database.firstId⟩ report ∧
        (Call.resolve .yes).run s.descriptor (world 8).host =
          ((.error (.host (.unknownStruct ⟨Database.firstId⟩)),
            { s.descriptor with state := .schemaParsed }), (world 8).host) := by
  intro acts world
  have hrequested : Requested (.empty 8) acts := by
    refine ⟨fun change hmem => ?_, fun n act hact => ?_⟩
    · simp only [acts, List.mem_cons, List.not_mem_nil, reduceCtorEq, false_or, or_false,
        Act.outside.injEq] at hmem
      rcases hmem with rfl | rfl | rfl | rfl <;> exact ⟨_, rfl⟩
    · have hall : ∀ n < 9, ∀ act ∈ acts[n]?, (world n).host.host.Spare ((world n).ids act) := by
        unfold Database.Spare
        decide +kernel
      exact hall n (List.getElem?_eq_some_iff.1 hact).1 act hact
  have hgiven : (world 8).host.given =
      [Database.firstId, Database.firstId + 1, Database.firstId + 2] := by decide +kernel
  have hgone : (world 8).host.host.get? ⟨Database.firstId⟩ = none := by decide +kernel
  have hawaits : ((world 8).slots[1]?.bind (·.descriptor.awaited?)) = some ⟨Database.firstId⟩ := by
    decide +kernel
  obtain ⟨s, hs, hawaited⟩ := Option.bind_eq_some_iff.1 hawaits
  obtain ⟨report, hwaits⟩ := awaited?_eq_some.1 hawaited
  refine ⟨hrequested, hgiven, by decide +kernel, s, report, hs, hwaits, ?_⟩
  obtain ⟨k, hk, -, -, -, hanswer⟩ :=
    (late_answer (.empty 8) hrequested).2 8 1 s ⟨Database.firstId⟩ report rfl hs hwaits
  rcases hanswer with ⟨-, -, -, hthere, -⟩ | ⟨-, hrun⟩
  · obtain ⟨t, ht, -⟩ := hthere 8 hk.le (Nat.le_refl 8)
    exact nomatch hgone.symm.trans ht
  · exact hrun

end World

end StructSync
