import Mathlib
import StructSync.Proofs.Database.Sound
import StructSync.Refusal

/-!
# Databases made by requests

`Request` is a request to a host with all that goes into it, and `Database.Reachable` holds of the
databases that any requests in any order make out of an empty one, refused requests included. The
only condition is that the counter has an id left for each request that takes one. Every such
database is sound.
-/

namespace StructSync

/-- A request to a host. -/
inductive Request where
  | createStruct (name : String)
  | deleteStruct (id : StructId)
  | createMember (id : StructId) (name : String) (offset size : UInt64) (flags : DataFlags)
  | setMemberType (id : StructId) (member : MemberId) (offset : UInt64) (type : CType)
deriving DecidableEq

namespace Request

variable {σ : Type} [Host σ]

/-- The host after the request, refused or not. -/
def perform : Request → σ → σ
  | createStruct name, host => (Host.createStruct name host).2
  | deleteStruct id, host => (Host.deleteStruct id host).2
  | createMember id name offset size flags, host =>
    (Host.createMember id name offset size flags host).2
  | setMemberType id member offset type, host => (Host.setMemberType id member offset type host).2

/-- The number of ids that the request takes if it succeeds. -/
def ids : Request → Nat
  | createStruct _ | createMember .. => 1
  | deleteStruct _ | setMemberType .. => 0

/-- The name under which the request makes a struct, if it makes one. -/
def creates? : Request → Option String
  | createStruct name => some name
  | _ => none

theorem creates?_of_none {requests : List Request} {name : String}
    (h : ∀ r ∈ requests, r.creates? = none) :
    ∀ r ∈ requests, ∀ made ∈ r.creates?, made = name := by
  intro r hr made hmade
  rw [h r hr] at hmade
  cases hmade

/-- The host after the requests in order. -/
def performAll (requests : List Request) (host : σ) : σ :=
  requests.foldl (fun host r => r.perform host) host

/-- The number of ids that the requests take if they all succeed. -/
def idsOfAll (requests : List Request) : Nat := (requests.map ids).sum

@[simp] theorem performAll_nil (host : σ) : performAll [] host = host := rfl

@[simp] theorem performAll_cons (r : Request) (rest : List Request) (host : σ) :
    performAll (r :: rest) host = performAll rest (r.perform host) := rfl

theorem performAll_append (before after : List Request) (host : σ) :
    performAll (before ++ after) host = performAll after (performAll before host) :=
  List.foldl_append

@[simp] theorem idsOfAll_nil : idsOfAll [] = 0 := rfl

@[simp] theorem idsOfAll_cons (r : Request) (rest : List Request) :
    idsOfAll (r :: rest) = r.ids + idsOfAll rest := by simp [idsOfAll]

@[simp] theorem idsOfAll_append (before after : List Request) :
    idsOfAll (before ++ after) = idsOfAll before + idsOfAll after := by simp [idsOfAll]

end Request

namespace Database

variable {db : Database}

theorem settle_snd_eq {α : Type} (db : Database) (answer : Except HostError (α × Database)) :
    (db.settle answer).2 = db ∨ ∃ a db', answer = .ok (a, db') ∧ (db.settle answer).2 = db' := by
  cases answer with
  | error e => exact .inl rfl
  | ok pair => exact .inr ⟨pair.1, pair.2, rfl, rfl⟩

/-- A request leaves a database as it was, or does what it asks for. -/
theorem perform_cases (r : Request) (db : Database) :
    r.perform db = db ∨
      match r with
      | .createStruct name => ∃ id, db.createStruct name = .ok (id, r.perform db)
      | .deleteStruct id => db.deleteStruct id = .ok (r.perform db)
      | .createMember id name offset size flags =>
        ∃ member, db.createMember id name offset size flags = .ok (member, r.perform db)
      | .setMemberType id member offset type =>
        db.setMemberType id member offset type = .ok (r.perform db) := by
  cases r with
  | createStruct name =>
    rcases settle_snd_eq db (db.createStruct name) with h | ⟨id, db', hok, h⟩
    · exact .inl h
    · exact .inr ⟨id, by rw [hok]; exact congrArg (fun x => Except.ok (id, x)) h.symm⟩
  | deleteStruct id =>
    show ((db.settle ((db.deleteStruct id).map ((), ·))).2 = db) ∨
      db.deleteStruct id = .ok (db.settle ((db.deleteStruct id).map ((), ·))).2
    cases db.deleteStruct id with
    | error e => exact .inl rfl
    | ok db' => exact .inr rfl
  | createMember id name offset size flags =>
    rcases settle_snd_eq db (db.createMember id name offset size flags) with
      h | ⟨member, db', hok, h⟩
    · exact .inl h
    · exact .inr ⟨member, by rw [hok]; exact congrArg (fun x => Except.ok (member, x)) h.symm⟩
  | setMemberType id member offset type =>
    show ((db.settle ((db.setMemberType id member offset type).map ((), ·))).2 = db) ∨
      db.setMemberType id member offset type =
        .ok (db.settle ((db.setMemberType id member offset type).map ((), ·))).2
    cases db.setMemberType id member offset type with
    | error e => exact .inl rfl
    | ok db' => exact .inr rfl

theorem Sound.perform (h : db.Sound) (r : Request) (hspare : db.Spare r.ids) :
    (r.perform db).Sound := by
  rcases perform_cases r db with heq | hcase
  · rw [heq]
    exact h
  · cases r with
    | createStruct name => exact hcase.elim fun _ hdb => h.createStruct hspare hdb
    | deleteStruct id => exact h.deleteStruct hcase
    | createMember id name offset size flags =>
      exact hcase.elim fun _ hdb => h.createMember hspare hdb
    | setMemberType id member offset type => exact h.setMemberType hcase

theorem next_perform (r : Request) (hspare : db.Spare r.ids) :
    db.nextId.toNat ≤ (r.perform db).nextId.toNat ∧
      (r.perform db).nextId.toNat ≤ db.nextId.toNat + r.ids := by
  rcases perform_cases r db with heq | hcase
  · rw [heq]
    omega
  · cases r with
    | createStruct name =>
      obtain ⟨id, hdb⟩ := hcase
      obtain ⟨-, -, hdb⟩ := createStruct_eq_ok.1 hdb
      rw [hdb, hspare.toNat_next]
      exact ⟨Nat.le_succ _, Nat.le_refl _⟩
    | deleteStruct id =>
      obtain ⟨-, hdb⟩ := deleteStruct_eq_ok.1 hcase
      rw [hdb]
      exact ⟨Nat.le_refl _, Nat.le_refl _⟩
    | createMember id name offset size flags =>
      obtain ⟨member, hdb⟩ := hcase
      obtain ⟨s, -, -, -, hdb⟩ := createMember_eq_ok.1 hdb
      rw [hdb, hspare.toNat_next]
      exact ⟨Nat.le_succ _, Nat.le_refl _⟩
    | setMemberType id member offset type =>
      obtain ⟨s, m, -, -, -, -, hdb⟩ := setMemberType_eq_ok.1 hcase
      rw [hdb]
      exact ⟨Nat.le_refl _, Nat.le_refl _⟩

theorem Spare.perform {r : Request} {n : Nat} (h : db.Spare (r.ids + n)) :
    (r.perform db).Spare n := by
  have hnext := (next_perform r (h.mono (Nat.le_add_right _ _))).2
  unfold Spare at *
  omega

/-- The databases that requests make. -/
inductive Reachable : Database → Prop
  | empty (pointerSize : UInt64) : Reachable (.empty pointerSize)
  | perform {db : Database} (r : Request) : Reachable db → db.Spare r.ids →
    Reachable (r.perform db)
  | clearJournal {db : Database} : Reachable db → Reachable db.clearJournal

namespace Reachable

theorem sound (h : Reachable db) : db.Sound := by
  induction h with
  | empty pointerSize => exact .empty pointerSize
  | perform r _ hspare ih => exact ih.perform r hspare
  | clearJournal _ ih => exact ih.clearJournal

theorem performAll (h : Reachable db) {requests : List Request}
    (hspare : db.Spare (Request.idsOfAll requests)) :
    Reachable (Request.performAll requests db) := by
  induction requests generalizing db with
  | nil => exact h
  | cons r rest ih =>
    rw [Request.idsOfAll_cons] at hspare
    exact ih (h.perform r (hspare.mono (Nat.le_add_right _ _))) hspare.perform

end Reachable

end Database

end StructSync
