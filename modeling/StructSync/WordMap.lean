/-!
# Maps keyed by words

A `WordMap` holds its entries in ascending order of their keys, so walking over it always gives the
same order and each key stands once.
-/

namespace StructSync

/-- Entries in strictly ascending order of their keys. -/
structure WordMap (β : Type) where
  entries : List (UInt64 × β)
  ascending : entries.Pairwise (·.1 < ·.1)
deriving DecidableEq

namespace WordMap

variable {β : Type}

/-- The entries with one set: put in its place, or over the entry of the same key. -/
def set (key : UInt64) (value : β) : List (UInt64 × β) → List (UInt64 × β)
  | [] => [(key, value)]
  | entry :: rest =>
    if key < entry.1 then (key, value) :: entry :: rest
    else if key = entry.1 then (key, value) :: rest
    else entry :: set key value rest

theorem mem_set {key : UInt64} {value : β} {entry : UInt64 × β} {l : List (UInt64 × β)} :
    entry ∈ set key value l → entry = (key, value) ∨ entry ∈ l := by
  induction l with
  | nil => simp [set]
  | cons head tail ih =>
    unfold set
    split
    · simp
    · split
      · simp only [List.mem_cons]
        rintro (rfl | h)
        · exact .inl rfl
        · exact .inr (.inr h)
      · simp only [List.mem_cons]
        rintro (rfl | h)
        · exact .inr (.inl rfl)
        · exact (ih h).imp_right .inr

theorem pairwise_set {key : UInt64} {value : β} {l : List (UInt64 × β)}
    (h : l.Pairwise (·.1 < ·.1)) : (set key value l).Pairwise (·.1 < ·.1) := by
  induction l with
  | nil => simp [set]
  | cons head tail ih =>
    obtain ⟨hhead, htail⟩ := List.pairwise_cons.1 h
    unfold set
    split
    · next hlt =>
      refine List.pairwise_cons.2 ⟨fun entry hentry => ?_, h⟩
      rcases List.mem_cons.1 hentry with rfl | hmem
      · exact hlt
      · exact UInt64.lt_trans hlt (hhead _ hmem)
    · split
      · next heq =>
        exact List.pairwise_cons.2 ⟨fun entry hentry => heq ▸ hhead _ hentry, htail⟩
      · next hnlt hne =>
        refine List.pairwise_cons.2 ⟨fun entry hentry => ?_, ih htail⟩
        rcases mem_set hentry with rfl | hmem
        · exact UInt64.lt_of_le_of_ne (UInt64.not_lt.1 hnlt) (Ne.symm hne)
        · exact hhead _ hmem

def empty : WordMap β := ⟨[], .nil⟩

/-- The map with the value under the key, in place of what was there. -/
def insert (m : WordMap β) (key : UInt64) (value : β) : WordMap β :=
  ⟨set key value m.entries, pairwise_set m.ascending⟩

/-- The map without the key. -/
def erase (m : WordMap β) (key : UInt64) : WordMap β :=
  ⟨m.entries.filter (·.1 ≠ key), m.ascending.filter _⟩

def get? (m : WordMap β) (key : UInt64) : Option β := m.entries.lookup key

def values (m : WordMap β) : List β := m.entries.map Prod.snd

def size (m : WordMap β) : Nat := m.entries.length

/-- The map of the entries; of several with one key the last one counts. -/
def ofList (entries : List (UInt64 × β)) : WordMap β :=
  entries.foldl (fun m entry => m.insert entry.1 entry.2) empty

/-- The map with a function applied to every value. -/
def map (f : β → β) (m : WordMap β) : WordMap β :=
  ⟨m.entries.map fun entry => (entry.1, f entry.2), List.pairwise_map.2 m.ascending⟩

end WordMap

end StructSync
