import Mathlib
import StructSync.Proofs.Replacing

/-!
# Structs in another order

Two structs stand apart (`StructSchema.Apart`) if neither refers to the other: neither embeds the
other, nor points to it by a name that is not stored yet. Neighbours that stand apart may change
places (`StructSchema.bring?_swap`). Main statement (`bringAll?_perm`): two orders of the same
structs both fail or end with the same contents, ids aside (`Alike`), if they agree on the order of
any two structs that do not stand apart.
-/

namespace StructSync

namespace StructSchema

variable {a b entry : StructSchema} {db other : Database} {n : Nat}

/-- The struct embeds the other one, or points to it by a name that is not stored yet. -/
def Refers (a b : StructSchema) (db : Database) : Prop :=
  b.name ∈ a.embedded ∨ b.name ∈ a.pointed ∧ db.findByName? b.name = none

instance : Decidable (a.Refers b db) := inferInstanceAs (Decidable (_ ∨ _ ∧ _))

/-- Two structs of different names of which neither refers to the other. -/
structure Apart (a b : StructSchema) (db : Database) : Prop where
  name : a.name ≠ b.name
  left : ¬a.Refers b db
  right : ¬b.Refers a db

theorem Apart.symm (h : a.Apart b db) : b.Apart a db := ⟨h.name.symm, h.right, h.left⟩

end StructSchema

/-- Two sound databases with the same contents, and ids to spare in both. -/
structure Database.Twins (n : Nat) (db other : Database) : Prop where
  left : db.Sound
  right : other.Sound
  spareLeft : db.Spare n
  spareRight : other.Spare n
  same : db.SameContents other

namespace Database

variable {db other third : Database} {n : Nat}

theorem SameContents.refl (db : Database) : db.SameContents db := ⟨rfl, fun _ => rfl⟩

theorem SameContents.symm (h : db.SameContents other) : other.SameContents db :=
  ⟨h.pointerSize.symm, fun name => (h.contents name).symm⟩

theorem SameContents.trans (h : db.SameContents other) (h' : other.SameContents third) :
    db.SameContents third :=
  ⟨h'.pointerSize.trans h.pointerSize, fun name => (h'.contents name).trans (h.contents name)⟩

namespace Twins

theorem refl (h : db.Sound) (hspare : db.Spare n) : Twins n db db :=
  ⟨h, h, hspare, hspare, .refl db⟩

theorem symm (h : Twins n db other) : Twins n other db :=
  ⟨h.right, h.left, h.spareRight, h.spareLeft, h.same.symm⟩

theorem trans (h : Twins n db other) (h' : Twins n other third) : Twins n db third :=
  ⟨h.left, h'.right, h.spareLeft, h'.spareRight, h.same.trans h'.same⟩

end Twins

end Database

/-- Both fail, or both end with the same contents. -/
def Alike (n : Nat) (x y : Option Database) : Prop := Option.Rel (Database.Twins n) x y

namespace Alike

variable {x y z : Option Database} {n : Nat}

theorem symm (h : Alike n x y) : Alike n y x := by
  cases h with
  | some h => exact .some h.symm
  | none => exact .none

theorem trans (h : Alike n x y) (h' : Alike n y z) : Alike n x z := by
  cases h with
  | some h =>
    cases h' with
    | some h' => exact .some (h.trans h')
  | none => exact h'

theorem sameContents (h : Alike n x y) : Option.Rel Database.SameContents x y := by
  cases h with
  | some h => exact .some h.same
  | none => exact .none

theorem bind {m : Nat} {f g : Database → Option Database} (h : Alike m x y)
    (hfg : ∀ db other, Database.Twins m db other → Alike n (f db) (g other)) :
    Alike n (x >>= f) (y >>= g) := by
  cases h with
  | some h => exact hfg _ _ h
  | none => exact .none

end Alike

namespace StructSchema

variable {a b entry : StructSchema} {d : Descriptor} {db other after after' : Database} {n : Nat}

/-! ### One struct -/

theorem Brought.twins (h : entry.Brought d db n after) (h' : entry.Brought d other n after')
    (hsame : db.SameContents other) : Database.Twins n after after' := by
  refine ⟨h.sound, h'.sound, h.spare, h'.spare,
    h'.pointerSize.trans (hsame.pointerSize.trans h.pointerSize.symm), fun name => ?_⟩
  by_cases hname : name = entry.name
  · rw [hname, h.own, h'.own, hsame.contents]
  · rw [h.others hname, h'.others hname, hsame.contents]

theorem bring?_alike (h : Database.Twins (entry.ids + n) db other) :
    Alike n (entry.bring? db) (entry.bring? other) := by
  have hparsed : entry.parsed? other = entry.parsed? db :=
    parsed?_congr (.of_sameContents h.same) (.of_sameContents h.same.symm)
  rcases bring?_cases h.left h.spareLeft with ⟨hnone, hfails⟩ | ⟨d, after, hd, hok, hbrought⟩
  · rcases bring?_cases h.right h.spareRight with ⟨-, hfails'⟩ | ⟨d', after', hd', -⟩
    · rw [hfails, hfails']
      exact .none
    · rw [hparsed, hnone] at hd'
      cases hd'
  · rcases bring?_cases h.right h.spareRight with ⟨hnone', -⟩ | ⟨d', after', hd', hok', hbrought'⟩
    · rw [hparsed, hd] at hnone'
      cases hnone'
    · rw [hparsed, hd] at hd'
      cases hd'
      rw [hok, hok']
      exact .some (hbrought.twins hbrought' h.same)

/-! ### Two structs -/

theorem Brought.isSome_own (h : entry.Brought d db n after) :
    (after.contents? entry.name).isSome := by
  rw [h.own]
  rfl

/-- What a struct takes from a database is not changed by one that it does not refer to. -/
theorem Apart.parsed?_eq (h : a.Apart b db) (hb : b.Brought d db n after) :
    a.parsed? after = a.parsed? db := by
  have hembedded : ∀ name ∈ a.embedded, after.contents? name = db.contents? name :=
    fun name hname => hb.others fun hb' => h.left (.inl (hb' ▸ hname))
  refine parsed?_congr ⟨hb.pointerSize, hembedded, fun name hname hsome => ?_⟩
    ⟨hb.pointerSize.symm, fun name hname => (hembedded name hname).symm, fun name hname hsome => ?_⟩
  · by_cases hb' : name = b.name
    · rw [hb']
      exact hb.isSome_own
    · rwa [hb.others hb']
  · by_cases hb' : name = b.name
    · subst hb'
      rw [Database.isSome_contents?, Option.isSome_iff_ne_none]
      exact fun hfree => h.left (.inr ⟨hname, hfree⟩)
    · rwa [hb.others hb'] at hsome

theorem Refers.of_brought {c : StructSchema} (hc : c.Brought d db n after)
    (h : a.Refers b after) : a.Refers b db := by
  refine h.imp_right fun ⟨hname, hfree⟩ => ⟨hname, ?_⟩
  by_cases hb : b.name = c.name
  · have hsome := hc.isSome_own
    rw [Database.isSome_contents?, ← hb, hfree] at hsome
    cases hsome
  · have hsame := hc.others hb
    rwa [Database.contents?, Database.contents?, hfree, Option.map_none, eq_comm,
      Option.map_eq_none_iff] at hsame

theorem Apart.of_brought {c : StructSchema} (h : a.Apart b db) (hc : c.Brought d db n after) :
    a.Apart b after :=
  ⟨h.name, mt (Refers.of_brought hc) h.left, mt (Refers.of_brought hc) h.right⟩

/-- Two structs are built one after the other exactly if the fields of both can be parsed against the
database before, and then each has made of its own what it would have made alone. -/
theorem bring?_pair (h : a.Apart b db) (hdb : db.Sound) (hspare : db.Spare (a.ids + (b.ids + n))) :
    ((a.parsed? db = none ∨ b.parsed? db = none) ∧ (a.bring? db >>= b.bring?) = none) ∨
    ∃ d e after, a.parsed? db = some d ∧ b.parsed? db = some e ∧
      (a.bring? db >>= b.bring?) = some after ∧ after.Sound ∧ after.Spare n ∧
      after.pointerSize = db.pointerSize ∧
      after.contents? a.name = some (d.settled (db.contents? a.name)) ∧
      after.contents? b.name = some (e.settled (db.contents? b.name)) ∧
      ∀ name, name ≠ a.name → name ≠ b.name → after.contents? name = db.contents? name := by
  rcases bring?_cases hdb hspare with ⟨ha, hfails⟩ | ⟨d, middle, ha, hok, hfirst⟩
  · rw [hfails]
    exact .inl ⟨.inl ha, rfl⟩
  · rw [hok, Option.bind_eq_bind, Option.bind_some, ← h.symm.parsed?_eq hfirst]
    rcases bring?_cases hfirst.sound hfirst.spare with
      ⟨hb, hfails⟩ | ⟨e, after, hb, hok', hsecond⟩
    · exact .inl ⟨.inr hb, hfails⟩
    · refine .inr ⟨d, e, after, ha, hb, hok', hsecond.sound, hsecond.spare,
        hsecond.pointerSize.trans hfirst.pointerSize, ?_, ?_, fun name hna hnb => ?_⟩
      · rw [hsecond.others h.name, hfirst.own]
      · rw [hsecond.own, hfirst.others h.name.symm]
      · rw [hsecond.others hnb, hfirst.others hna]

/-- The order of two structs of which neither refers to the other does not matter. -/
theorem bring?_swap (h : a.Apart b db) (hdb : db.Sound) (hspare : db.Spare (a.ids + (b.ids + n))) :
    Alike n (a.bring? db >>= b.bring?) (b.bring? db >>= a.bring?) := by
  have hspare' : db.Spare (b.ids + (a.ids + n)) := by
    rwa [Nat.add_left_comm]
  rcases bring?_pair h hdb hspare with
    ⟨hnone, hfails⟩ | ⟨d, e, after, ha, hb, hok, hsound, hids, hpointer, hown, hother, hrest⟩
  · rcases bring?_pair h.symm hdb hspare' with ⟨-, hfails'⟩ | ⟨d', e', -, hb', ha', -⟩
    · rw [hfails, hfails']
      exact .none
    · rw [ha', hb'] at hnone
      simp at hnone
  · rcases bring?_pair h.symm hdb hspare' with ⟨hnone, -⟩ | ⟨e', d', after', hb', ha', hok', hsound',
      hids', hpointer', hother', hown', hrest'⟩
    · rw [ha, hb] at hnone
      simp at hnone
    · obtain rfl := Option.some.inj (ha.symm.trans ha')
      obtain rfl := Option.some.inj (hb.symm.trans hb')
      rw [hok, hok']
      refine .some ⟨hsound, hsound', hids, hids', hpointer'.trans hpointer.symm, fun name => ?_⟩
      by_cases hna : name = a.name
      · rw [hna, hown, hown']
      · by_cases hnb : name = b.name
        · rw [hnb, hother, hother']
        · rw [hrest name hna hnb, hrest' name hnb hna]

end StructSchema

/-! ### Orders -/

section
variable {α : Type} {x y z : α} {l front rest : List α}

theorem not_sublist_swap (hl : l.Nodup) (hne : x ≠ y) (h : [x, y].Sublist l) :
    ¬[y, x].Sublist l := by
  intro h'
  have heq := (hl.perm_iff_eq_of_sublist h h').1 (List.Perm.swap y x [])
  exact hne (List.cons.inj heq).1

theorem sublist_without [DecidableEq α] (hx : x ≠ z) (hy : y ≠ z) (hz : z ∉ front) :
    [x, y].Sublist (front ++ z :: rest) ↔ [x, y].Sublist (front ++ rest) := by
  constructor
  · intro h
    have herased := h.erase z
    rwa [List.erase_append_right _ hz, List.erase_cons_head,
      List.erase_of_not_mem (by simp [hx.symm, hy.symm])] at herased
  · intro h
    exact h.trans ((List.Sublist.refl front).append (List.sublist_cons_self z rest))

end

/-! ### All structs -/

open StructSchema

/-- The ids that the structs take. -/
def idsOf (structs : List StructSchema) : Nat := (structs.map StructSchema.ids).sum

@[simp] theorem idsOf_cons (entry : StructSchema) (rest : List StructSchema) :
    idsOf (entry :: rest) = entry.ids + idsOf rest := by simp [idsOf]

@[simp] theorem idsOf_append (before rest : List StructSchema) :
    idsOf (before ++ rest) = idsOf before + idsOf rest := by simp [idsOf]

theorem idsOf_perm {l l' : List StructSchema} (h : l.Perm l') : idsOf l = idsOf l' :=
  (h.map _).sum_eq

section
variable {db other : Database} {n : Nat} {a : StructSchema}

theorem bringAll?_cons (entry : StructSchema) (rest : List StructSchema) (db : Database) :
    bringAll? (entry :: rest) db = entry.bring? db >>= bringAll? rest := by
  rw [bringAll?, List.foldlM_cons]
  rfl

theorem bringAll?_alike (structs : List StructSchema)
    (h : Database.Twins (idsOf structs + n) db other) :
    Alike n (bringAll? structs db) (bringAll? structs other) := by
  induction structs generalizing db other with
  | nil => exact .some (by simpa [idsOf] using h)
  | cons entry rest ih =>
    rw [idsOf_cons, Nat.add_assoc] at h
    rw [bringAll?_cons, bringAll?_cons]
    exact (bring?_alike h).bind fun _ _ => ih

theorem bringAll?_cons_cons (a b : StructSchema) (rest : List StructSchema) (db : Database) :
    bringAll? (a :: b :: rest) db = a.bring? db >>= b.bring? >>= bringAll? rest := by
  rw [bringAll?_cons, bind_assoc]
  exact congrArg _ (funext fun db => bringAll?_cons b rest db)

theorem bringAll?_swap {b : StructSchema} (rest : List StructSchema) (h : a.Apart b db)
    (hdb : db.Sound) (hspare : db.Spare (a.ids + (b.ids + (idsOf rest + n)))) :
    Alike n (bringAll? (a :: b :: rest) db) (bringAll? (b :: a :: rest) db) := by
  rw [bringAll?_cons_cons, bringAll?_cons_cons]
  exact (bring?_swap h hdb hspare).bind fun _ _ => bringAll?_alike rest

theorem bringAll?_front {front : List StructSchema} (rest : List StructSchema)
    (h : ∀ x ∈ front, x.Apart a db) (hdb : db.Sound)
    (hspare : db.Spare (idsOf (front ++ a :: rest) + n)) :
    Alike n (bringAll? (front ++ a :: rest) db) (bringAll? (a :: (front ++ rest)) db) := by
  induction front generalizing db with
  | nil => exact bringAll?_alike _ (.refl hdb hspare)
  | cons x front ih =>
    obtain ⟨hx, hfront⟩ := List.forall_mem_cons.1 h
    have hids : idsOf (x :: front ++ a :: rest) + n =
        x.ids + (a.ids + (idsOf (front ++ rest) + n)) := by
      simp only [List.cons_append, idsOf_cons, idsOf_append]
      omega
    rw [hids] at hspare
    -- first past the others, then past the first
    have hothers : Alike n (bringAll? (x :: (front ++ a :: rest)) db)
        (bringAll? (x :: a :: (front ++ rest)) db) := by
      rw [bringAll?_cons, bringAll?_cons x]
      rcases bring?_cases hdb hspare with ⟨-, hfails⟩ | ⟨d, middle, -, hok, hbrought⟩
      · rw [hfails]
        exact .none
      · rw [hok]
        refine ih (fun y hy => (hfront y hy).of_brought hbrought) hbrought.sound ?_
        refine hbrought.spare.mono (Nat.le_of_eq ?_)
        simp only [idsOf_cons, idsOf_append]
        omega
    exact hothers.trans (bringAll?_swap (front ++ rest) hx hdb hspare)

/-- A struct that is first in one order stands apart from all that are before it in the other, if
the orders agree on any two of which one refers to the other. -/
theorem apart_of_front {rest front tail : List StructSchema}
    (hperm : rest.Perm (front ++ tail)) (hnames : ((a :: rest).map (·.name)).Nodup)
    (horder : ∀ x ∈ a :: rest, ∀ y ∈ a :: rest, x.Refers y db →
      ([x.name, y.name].Sublist ((a :: rest).map (·.name)) ↔
        [x.name, y.name].Sublist ((front ++ a :: tail).map (·.name))))
    {x : StructSchema} (hx : x ∈ front) : x.Apart a db := by
  have hx' : x ∈ rest := hperm.mem_iff.2 (List.mem_append_left _ hx)
  have hothers : ((front ++ a :: tail).map (·.name)).Nodup :=
    (((hperm.cons a).trans List.perm_middle.symm).map (·.name)).nodup_iff.1 hnames
  rw [List.map_append, List.map_cons] at hothers horder
  rw [List.map_cons] at hnames horder
  have hne : x.name ≠ a.name := fun hname =>
    (List.nodup_cons.1 hnames).1 (hname ▸ List.mem_map_of_mem hx')
  have hahead : [a.name, x.name].Sublist (a.name :: rest.map (·.name)) :=
    (List.singleton_sublist.2 (List.mem_map_of_mem hx')).cons_cons _
  have hbehind : [x.name, a.name].Sublist (front.map (·.name) ++ a.name :: tail.map (·.name)) :=
    (List.singleton_sublist.2 (List.mem_map_of_mem hx)).append
      (List.singleton_sublist.2 (List.mem_cons_self ..))
  refine ⟨hne, fun hrefers => ?_, fun hrefers => ?_⟩
  · have hswapped := (horder x (List.mem_cons_of_mem _ hx') a (List.mem_cons_self ..) hrefers).2
      hbehind
    exact not_sublist_swap hnames hne hswapped hahead
  · have hswapped := (horder a (List.mem_cons_self ..) x (List.mem_cons_of_mem _ hx') hrefers).1
      hahead
    exact not_sublist_swap hothers hne hbehind hswapped

/-- Two orders of the same structs are alike if they agree on the order of any two of which one
refers to the other. -/
theorem bringAll?_perm {structs others : List StructSchema} (hperm : structs.Perm others)
    (hnames : (structs.map (·.name)).Nodup) (hdb : db.Sound)
    (hspare : db.Spare (idsOf structs + n))
    (horder : ∀ a ∈ structs, ∀ b ∈ structs, a.Refers b db →
      ([a.name, b.name].Sublist (structs.map (·.name)) ↔
        [a.name, b.name].Sublist (others.map (·.name)))) :
    Alike n (bringAll? structs db) (bringAll? others db) := by
  induction structs generalizing others db with
  | nil =>
    obtain rfl := hperm.nil_eq
    exact bringAll?_alike _ (.refl hdb hspare)
  | cons a rest ih =>
    obtain ⟨front, tail, rfl⟩ := List.append_of_mem (hperm.mem_iff.1 (List.mem_cons_self ..))
    have hrest : rest.Perm (front ++ tail) := (hperm.trans List.perm_middle).cons_inv
    have hmoved : Alike n (bringAll? (front ++ a :: tail) db) (bringAll? (a :: (front ++ tail)) db) :=
      bringAll?_front tail (fun x hx => apart_of_front hrest hnames horder hx) hdb
        (idsOf_perm hperm ▸ hspare)
    refine Alike.trans ?_ hmoved.symm
    -- with the first gone from both, what is left is in two such orders again
    have hothers := (hperm.map (·.name)).nodup_iff.1 hnames
    rw [List.map_append, List.map_cons] at hothers horder
    rw [List.map_cons] at hnames horder
    obtain ⟨hfresh, hnames'⟩ := List.nodup_cons.1 hnames
    have hne : ∀ x ∈ rest, x.name ≠ a.name := fun x hx hname =>
      hfresh (hname ▸ List.mem_map_of_mem hx)
    have hfront : a.name ∉ front.map (·.name) := fun hmem =>
      (List.nodup_append.1 hothers).2.2 _ hmem _ (List.mem_cons_self ..) rfl
    rw [idsOf_cons, Nat.add_assoc] at hspare
    rw [bringAll?_cons, bringAll?_cons]
    rcases bring?_cases hdb hspare with ⟨-, hfails⟩ | ⟨d, middle, -, hok, hbrought⟩
    · rw [hfails]
      exact .none
    · rw [hok]
      refine ih hrest hnames' hbrought.sound hbrought.spare fun x hx y hy hrefers => ?_
      have hxy := horder x (List.mem_cons_of_mem _ hx) y (List.mem_cons_of_mem _ hy)
        (hrefers.of_brought hbrought)
      rw [sublist_without (hne x hx) (hne y hy) hfront] at hxy
      rw [List.map_append, ← hxy]
      exact (sublist_without (hne x hx) (hne y hy) List.not_mem_nil).symm

end

end StructSync
