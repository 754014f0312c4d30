import Mathlib
import StructSync.WordMap

/-!
# Looking up words

What `WordMap.get?` finds after each operation. A map is known by what it finds (`ext_get?`), so
two ways to the same map are compared key by key.
-/

namespace StructSync.WordMap

variable {β γ : Type} {m n : WordMap β} {key k : UInt64} {value : β}

theorem lookup_cons (head : UInt64 × β) (tail : List (UInt64 × β)) :
    (head :: tail).lookup k = if k = head.1 then some head.2 else tail.lookup k := by
  by_cases h : k = head.1
  · simp [List.lookup, h]
  · have hb : (k == head.1) = false := beq_false_of_ne h
    simp only [List.lookup, hb, if_neg h]

theorem lookup_set (l : List (UInt64 × β)) :
    (set key value l).lookup k = if k = key then some value else l.lookup k := by
  induction l with
  | nil => simp [set, lookup_cons]
  | cons head tail ih =>
    unfold set
    split
    · rw [lookup_cons]
    · split
      · next heq =>
        rw [lookup_cons, lookup_cons, heq]
        split <;> rfl
      · next hne =>
        rw [lookup_cons, ih, lookup_cons]
        by_cases h : k = head.1
        · have hk : k ≠ key := fun hk => hne (hk.symm.trans h)
          rw [if_pos h, if_neg hk, if_pos h]
        · rw [if_neg h, if_neg h]

theorem lookup_eq_some_of_mem {l : List (UInt64 × β)} (hl : l.Pairwise (·.1 < ·.1))
    (h : (k, value) ∈ l) : l.lookup k = some value := by
  induction l with
  | nil => simp at h
  | cons head tail ih =>
    obtain ⟨hhead, htail⟩ := List.pairwise_cons.1 hl
    rw [lookup_cons]
    rcases List.mem_cons.1 h with rfl | h
    · rw [if_pos rfl]
    · have hne : k ≠ head.1 := fun he => UInt64.lt_irrefl _ (he ▸ hhead _ h)
      rw [if_neg hne, ih htail h]

theorem mem_of_lookup_eq_some {l : List (UInt64 × β)} (h : l.lookup k = some value) :
    (k, value) ∈ l := by
  obtain ⟨before, after, rfl, -⟩ := List.lookup_eq_some_iff.1 h
  simp

theorem mem_entries : (k, value) ∈ m.entries ↔ m.get? k = some value :=
  ⟨lookup_eq_some_of_mem m.ascending, mem_of_lookup_eq_some⟩

theorem mem_values : value ∈ m.values ↔ ∃ k, m.get? k = some value := by
  simp only [values, List.mem_map, Prod.exists, exists_eq_right, mem_entries]

theorem nodup_entries (m : WordMap β) : m.entries.Nodup :=
  m.ascending.imp fun {a b} (h : a.1 < b.1) (he : a = b) => UInt64.lt_irrefl _ (he ▸ h)

theorem pairwise_values {R : β → β → Prop} (symm : ∀ {a b}, R a b → R b a) :
    m.values.Pairwise R ↔
      ∀ ⦃k l a b⦄, m.get? k = some a → m.get? l = some b → k ≠ l → R a b := by
  rw [values, List.pairwise_map]
  constructor
  · intro h k l a b ha hb hne
    have : Std.Symm fun x y : UInt64 × β => R x.2 y.2 := ⟨fun _ _ => symm⟩
    exact h.forall (mem_entries.2 ha) (mem_entries.2 hb) fun he => hne (congrArg Prod.fst he)
  · intro h
    refine m.ascending.imp_of_mem fun {x y} hx hy hlt => ?_
    refine h (mem_entries.1 hx) (mem_entries.1 hy) fun he => ?_
    exact UInt64.lt_irrefl _ (he ▸ hlt)

theorem ext_get? (h : ∀ k, m.get? k = n.get? k) : m = n := by
  have hperm : m.entries.Perm n.entries := by
    refine (List.perm_ext_iff_of_nodup m.nodup_entries n.nodup_entries).2 fun ⟨k, v⟩ => ?_
    rw [mem_entries, mem_entries, h k]
  have heq : m.entries = n.entries :=
    hperm.eq_of_pairwise (fun a b _ _ hab hba => absurd hba (UInt64.not_lt.2 (UInt64.le_of_lt hab)))
      m.ascending n.ascending
  cases m; cases n; cases heq; rfl

@[simp] theorem get?_empty : (empty : WordMap β).get? k = none := rfl

@[simp] theorem entries_empty : (empty : WordMap β).entries = [] := rfl

@[grind =] theorem get?_insert :
    (m.insert key value).get? k = if k = key then some value else m.get? k :=
  lookup_set m.entries

@[simp] theorem get?_insert_self : (m.insert key value).get? key = some value := by
  rw [get?_insert, if_pos rfl]

@[grind =] theorem get?_erase : (m.erase key).get? k = if k = key then none else m.get? k := by
  refine Option.ext fun v => ?_
  rw [← mem_entries]
  simp only [erase, List.mem_filter, mem_entries, decide_eq_true_eq]
  by_cases h : k = key <;> simp [h]

@[simp] theorem get?_erase_self : (m.erase key).get? key = none := by
  rw [get?_erase, if_pos rfl]

theorem get?_map (f : β → β) : (m.map f).get? k = (m.get? k).map f := by
  obtain ⟨l, hl⟩ := m
  show (l.map fun entry => (entry.1, f entry.2)).lookup k = (l.lookup k).map f
  clear hl
  induction l with
  | nil => rfl
  | cons head tail ih =>
    rw [List.map_cons, lookup_cons, lookup_cons, ih]
    split <;> rfl

@[simp] theorem values_map (f : β → β) : (m.map f).values = m.values.map f := by
  simp [map, values]

theorem insert_insert (a b : β) : (m.insert key a).insert key b = m.insert key b :=
  ext_get? fun k => by grind

theorem erase_insert (h : m.get? key = none) : (m.insert key value).erase key = m :=
  ext_get? fun k => by grind

theorem erase_eq_self (h : m.get? key = none) : m.erase key = m :=
  ext_get? fun k => by grind

theorem insert_eq_self (h : m.get? key = some value) : m.insert key value = m :=
  ext_get? fun k => by grind

theorem get?_foldl_insert {l : List (UInt64 × β)} (hl : l.Pairwise (·.1 < ·.1)) :
    (l.foldl (fun m entry => m.insert entry.1 entry.2) m).get? k = (l.lookup k).or (m.get? k) := by
  induction l generalizing m with
  | nil => rfl
  | cons head tail ih =>
    obtain ⟨hhead, htail⟩ := List.pairwise_cons.1 hl
    rw [List.foldl_cons, ih htail, get?_insert, lookup_cons]
    by_cases h : k = head.1
    · have hfree : tail.lookup k = none := by
        refine Option.eq_none_iff_forall_ne_some.2 fun v hv => ?_
        exact UInt64.lt_irrefl _ (h ▸ hhead _ (mem_of_lookup_eq_some hv))
      rw [hfree, if_pos h, if_pos h, Option.none_or, Option.some_or]
    · rw [if_neg h, if_neg h]

theorem ofList_entries (m : WordMap β) : ofList m.entries = m :=
  ext_get? fun k => by
    rw [ofList, get?_foldl_insert m.ascending]
    simp [get?]

end StructSync.WordMap
