import Mathlib
import StructSync.Json.Fields
import StructSync.Proofs.Json.Words

/-!
# Reading back what was written

`Decoder.Reads`: a decoder reads a value off its JSON, in either style and at any depth, with white
space before it and all that may follow a value behind it. Each combinator of decoders has its rule
here, so that a format is read back by putting the rules together.
-/

namespace StructSync.Json

variable {α β π : Type}

/-- The decoder reads the value off the JSON. -/
def Decoder.Reads (d : Decoder α) (json : Json) (a : α) : Prop :=
  ∀ ⦃style depth cs rest⦄, Ends rest → skipSpace cs = json.write style depth ++ rest →
    d cs = .ok (a, rest)

/-! ### What stands where -/

theorem toDigits_cons (n : Nat) :
    ∃ c tail, Nat.toDigits 10 n = c :: tail ∧ c.isDigit = true := by
  obtain ⟨c, tail, hcons⟩ := List.exists_cons_of_ne_nil (Nat.toDigits_ne_nil (n := n) (b := 10))
  refine ⟨c, tail, hcons, ?_⟩
  exact Nat.isDigit_of_mem_toDigits (b := 10) (n := n) (by decide) (by decide) (by simp [hcons])

theorem isSpace_of_isDigit {c : Char} (h : c.isDigit = true) : isSpace c = false := by
  refine Bool.eq_false_iff.2 fun hspace => ?_
  simp only [isSpace, Bool.or_eq_true, beq_iff_eq] at hspace
  rcases hspace with ((rfl | rfl) | rfl) | rfl <;> simp at h

theorem write_head (style : Style) (depth : Nat) (json : Json) :
    ∃ c tail, json.write style depth = c :: tail ∧ isSpace c = false ∧ c ≠ ']' ∧ c ≠ ',' := by
  cases json with
  | null => exact ⟨'n', _, rfl, by decide⟩
  | number n =>
    obtain ⟨c, tail, hcons, hc⟩ := toDigits_cons n
    refine ⟨c, tail, hcons, isSpace_of_isDigit hc, ?_, ?_⟩ <;> rintro rfl <;> simp at hc
  | string text => exact ⟨'"', _, rfl, by decide⟩
  | array items =>
    cases items with
    | nil => exact ⟨'[', _, rfl, by decide⟩
    | cons item items => exact ⟨'[', _, rfl, by decide⟩
  | object fields =>
    rcases fields with _ | ⟨⟨key, value⟩, fields⟩
    · exact ⟨'\x7b', _, rfl, by decide⟩
    · exact ⟨'\x7b', _, rfl, by decide⟩

theorem write_head_of_ne_null (style : Style) (depth : Nat) {json : Json} (h : json ≠ .null) :
    ∃ c tail, json.write style depth = c :: tail ∧ c ≠ 'n' := by
  cases json with
  | null => exact absurd rfl h
  | number n =>
    obtain ⟨c, tail, hcons, hc⟩ := toDigits_cons n
    refine ⟨c, tail, hcons, ?_⟩
    rintro rfl
    simp at hc
  | string text => exact ⟨'"', _, rfl, by decide⟩
  | array items => cases items <;> exact ⟨'[', _, rfl, by decide⟩
  | object fields =>
    rcases fields with _ | ⟨⟨key, value⟩, fields⟩ <;> exact ⟨'\x7b', _, rfl, by decide⟩

theorem skipSpace_write (style : Style) (depth : Nat) (json : Json) (rest : List Char) :
    skipSpace (json.write style depth ++ rest) = json.write style depth ++ rest := by
  obtain ⟨c, tail, hcons, hc, -⟩ := write_head style depth json
  rw [hcons]
  exact skipSpace_cons hc _

theorem ends_newline (style : Style) (depth : Nat) {c : Char} (cs : List Char)
    (hc : c.isDigit = false ∧ c ≠ '.' ∧ c ≠ 'e' ∧ c ≠ 'E') :
    Ends (style.newline depth ++ c :: cs) := by
  cases style with
  | compact =>
    intro d hd
    obtain rfl : c = d := by simpa [Style.newline] using hd
    exact hc
  | pretty =>
    intro d hd
    obtain rfl : '\n' = d := by simpa [Style.newline] using hd
    decide

theorem ends_cons {c : Char} (cs : List Char)
    (hc : c.isDigit = false ∧ c ≠ '.' ∧ c ≠ 'e' ∧ c ≠ 'E') : Ends (c :: cs) :=
  ends_newline .compact 0 cs hc

/-! ### Scalars -/

namespace Decoder

theorem text_reads (text : String) : Decoder.text.Reads (.string text) text := by
  intro style depth cs rest _ hcs
  have hbody : skipSpace cs = '"' :: (text.toList.flatMap escapeChar ++ '"' :: rest) := by
    rw [hcs, write, stringText]
    simp
  unfold Decoder.text string
  rw [hbody]
  simp [stringBody_escaped, bind, Except.bind]

theorem natural_reads {bound n : Nat} (expected : String) (hbound : bound ≤ UInt64.size)
    (hn : n < bound) : (natural bound expected).Reads (.number n) (UInt64.ofNat n) := by
  intro style depth cs rest hrest hcs
  obtain ⟨c, tail, hcons, hc⟩ := toDigits_cons n
  have hnumeral := numeral_digits (Nat.lt_of_lt_of_le hn hbound) hrest
  have hminus : c ≠ '-' := by
    rintro rfl
    simp at hc
  have hvalue : (UInt64.ofNat n).toNat < bound := by
    rw [UInt64.toNat_ofNat_of_lt' (Nat.lt_of_lt_of_le hn hbound)]
    exact hn
  have hbounded : bounded bound expected (.word (UInt64.ofNat n)) rest =
      .ok (UInt64.ofNat n, rest) := if_pos hvalue
  rw [hcons, List.cons_append] at hnumeral
  rw [write, hcons, List.cons_append] at hcs
  unfold natural
  rw [hcs]
  simp [hc, hnumeral, hbounded, bind, Except.bind]

theorem word_reads (w : UInt64) : word.Reads (.number w.toNat) w := by
  intro style depth cs rest hrest hcs
  rw [word, natural_reads "u64" (Nat.le_refl _) w.toNat_lt hrest hcs, UInt64.ofNat_toNat]

theorem halfWord_reads (w : UInt32) : halfWord.Reads (.number w.toNat) w := by
  intro style depth cs rest hrest hcs
  unfold halfWord
  rw [natural_reads "u32" (by decide) w.toNat_lt hrest hcs]
  simp [bind, Except.bind]

theorem optional_reads {d : Decoder α} {json : Json} {a : α} (h : d.Reads json a)
    (hnull : json ≠ .null) : (optional d).Reads json (some a) := by
  intro style depth cs rest hrest hcs
  have hskip : skipSpace (skipSpace cs) = json.write style depth ++ rest := by
    rw [hcs]
    exact skipSpace_write ..
  have hread := h hrest hskip
  obtain ⟨c, tail, hcons, hc⟩ := write_head_of_ne_null style depth hnull
  rw [hcons, List.cons_append] at hcs
  unfold optional
  rw [hcs] at hread ⊢
  split
  · next hn => exact absurd (List.cons.inj hn).1 hc
  · simp [hread, bind, Except.bind]

theorem optional_text_reads (text? : Option String) :
    (optional Decoder.text).Reads ((text?.map Json.string).getD .null) text? := by
  cases text? with
  | none =>
    intro style depth cs rest _ hcs
    have hnull : skipSpace cs = 'n' :: 'u' :: 'l' :: 'l' :: rest := hcs
    unfold optional
    rw [hnull]
    rfl
  | some text => exact optional_reads (text_reads text) nofun

/-! ### Arrays -/

theorem nextItem?_first (style : Style) (depth : Nat) (json : Json) (rest : List Char) :
    nextItem? true (style.newline depth ++ (json.write style depth ++ rest)) =
      .ok (some (json.write style depth ++ rest)) := by
  obtain ⟨c, tail, hcons, hc, hclosing, hcomma⟩ := write_head style depth json
  unfold nextItem?
  rw [skipSpace_newline, hcons, List.cons_append, skipSpace_cons hc]
  simp [hclosing, hcomma]

theorem nextItem?_next (style : Style) (depth : Nat) (json : Json) (rest : List Char) :
    nextItem? false (',' :: (style.newline depth ++ (json.write style depth ++ rest))) =
      .ok (some (json.write style depth ++ rest)) := by
  obtain ⟨c, tail, hcons, hc, hclosing, -⟩ := write_head style depth json
  have hafter : skipSpace (style.newline depth ++ c :: (tail ++ rest)) = c :: (tail ++ rest) := by
    rw [skipSpace_newline, skipSpace_cons hc]
  unfold nextItem?
  rw [skipSpace_cons (by decide), hcons, List.cons_append]
  simp [hafter, hclosing]

theorem nextItem?_end (isFirst : Bool) (style : Style) (depth : Nat) (rest : List Char) :
    nextItem? isFirst (style.newline depth ++ ']' :: rest) = .ok none := by
  unfold nextItem?
  rw [skipSpace_newline, skipSpace_cons (by decide)]
  rfl

theorem closeArray_end (rest : List Char) : closeArray (']' :: rest) = .ok rest := by
  unfold closeArray
  rw [skipSpace_cons (by decide)]
  rfl

theorem length_writeItems (style : Style) (depth : Nat) (items : List Json) :
    items.length ≤ (writeItems style depth items).length := by
  induction items with
  | nil => exact Nat.le_refl _
  | cons item items ih =>
    simp only [writeItems, List.length_cons, List.length_append]
    omega

section
variable {item : Decoder α} {write : α → Json} {style : Style} {depth outer : Nat}

theorem items_end (style : Style) (depth : Nat) (isFirst : Bool) (fuel : Nat) (rest : List Char) :
    items item (fuel + 1) isFirst (style.newline depth ++ ']' :: rest) = .ok ([], ']' :: rest) := by
  have hskip : skipSpace (style.newline depth ++ ']' :: rest) = ']' :: rest := by
    rw [skipSpace_newline, skipSpace_cons (by decide)]
  unfold items
  simp [nextItem?_end, hskip, bind, Except.bind]

theorem items_succ {isFirst : Bool} {fuel : Nat} {cs start rest final : List Char} {x : α}
    {xs : List α} (hnext : nextItem? isFirst cs = .ok (some start))
    (hitem : item start = .ok (x, rest)) (hrest : items item fuel false rest = .ok (xs, final)) :
    items item (fuel + 1) isFirst cs = .ok (x :: xs, final) := by
  unfold items
  simp [hnext, hitem, hrest, bind, Except.bind]

theorem ends_items (xs : List α) (rest : List Char) :
    Ends (writeItems style depth (xs.map write) ++ (style.newline outer ++ ']' :: rest)) := by
  cases xs with
  | nil => exact ends_newline style outer rest (by decide)
  | cons x xs => exact ends_cons _ (by decide)

theorem items_reads {xs : List α} (h : ∀ x ∈ xs, item.Reads (write x) x) {fuel : Nat}
    (hfuel : xs.length < fuel) (rest : List Char) :
    items item fuel false
        (writeItems style depth (xs.map write) ++ (style.newline outer ++ ']' :: rest)) =
      .ok (xs, ']' :: rest) := by
  induction xs generalizing fuel with
  | nil =>
    obtain ⟨fuel, rfl⟩ := Nat.exists_eq_succ_of_ne_zero (Nat.ne_of_gt hfuel)
    exact items_end style outer false fuel rest
  | cons x xs ih =>
    obtain ⟨hx, hxs⟩ := List.forall_mem_cons.1 h
    obtain ⟨fuel, rfl⟩ := Nat.exists_eq_succ_of_ne_zero (Nat.ne_zero_of_lt hfuel)
    rw [List.map_cons, writeItems]
    simp only [List.cons_append, List.append_assoc]
    exact items_succ (nextItem?_next style depth (write x) _)
      (hx (ends_items xs rest) (skipSpace_write ..)) (ih hxs (Nat.lt_of_succ_lt_succ hfuel))

theorem list_of_items {cs body rest : List Char} {xs : List α} (hcs : skipSpace cs = '[' :: body)
    (hitems : items item (body.length + 1) true body = .ok (xs, ']' :: rest)) :
    list item cs = .ok (xs, rest) := by
  unfold list
  rw [hcs]
  simp [hitems, closeArray_end, bind, Except.bind]

theorem list_reads {xs : List α} (h : ∀ x ∈ xs, item.Reads (write x) x) :
    (list item).Reads (.array (xs.map write)) xs := by
  intro style depth cs rest hrest hcs
  cases xs with
  | nil => exact list_of_items hcs (items_end .compact 0 true _ rest)
  | cons x xs =>
    obtain ⟨hx, hxs⟩ := List.forall_mem_cons.1 h
    rw [List.map_cons, Json.write] at hcs
    simp only [List.cons_append, List.append_assoc, List.nil_append] at hcs
    refine list_of_items hcs (items_succ (nextItem?_first style (depth + 1) (write x) _)
      (hx (ends_items xs rest) (skipSpace_write ..)) (items_reads hxs ?_ rest))
    have hlength := length_writeItems style (depth + 1) (xs.map write)
    rw [List.length_map] at hlength
    simp only [List.length_append, List.length_cons]
    omega

end

/-! ### Objects -/

theorem nextKey?_first (style : Style) (depth : Nat) (key : String) (rest : List Char) :
    nextKey? true (style.newline depth ++ (stringText key ++ rest)) =
      .ok (some (key.toList.flatMap escapeChar ++ '"' :: rest)) := by
  unfold nextKey?
  rw [skipSpace_newline, stringText]
  simp only [List.cons_append, List.append_assoc, List.nil_append]
  rw [skipSpace_cons (by decide)]
  rfl

theorem nextKey?_next (style : Style) (depth : Nat) (key : String) (rest : List Char) :
    nextKey? false (',' :: (style.newline depth ++ (stringText key ++ rest))) =
      .ok (some (key.toList.flatMap escapeChar ++ '"' :: rest)) := by
  have hafter : skipSpace (style.newline depth ++ (stringText key ++ rest)) =
      '"' :: (key.toList.flatMap escapeChar ++ '"' :: rest) := by
    rw [skipSpace_newline, stringText]
    simp only [List.cons_append, List.append_assoc, List.nil_append]
    exact skipSpace_cons (by decide) _
  unfold nextKey?
  rw [skipSpace_cons (by decide)]
  simp [hafter]

theorem nextKey?_end (isFirst : Bool) (style : Style) (depth : Nat) (rest : List Char) :
    nextKey? isFirst (style.newline depth ++ '\x7d' :: rest) = .ok none := by
  unfold nextKey?
  rw [skipSpace_newline, skipSpace_cons (by decide)]
  rfl

theorem closeObject_end (rest : List Char) : closeObject ('\x7d' :: rest) = .ok rest := by
  unfold closeObject
  rw [skipSpace_cons (by decide)]
  rfl

theorem colon_reads (style : Style) (cs : List Char) :
    ∃ after, colon (style.colon ++ cs) = .ok after ∧ skipSpace after = skipSpace cs := by
  unfold colon
  cases style with
  | compact => exact ⟨cs, rfl, rfl⟩
  | pretty => exact ⟨' ' :: cs, rfl, rfl⟩

theorem length_writeFields (style : Style) (depth : Nat) (fields : List (String × Json)) :
    fields.length ≤ (writeFields style depth fields).length := by
  induction fields with
  | nil => exact Nat.le_refl _
  | cons field fields ih =>
    simp only [writeFields, List.length_cons, List.length_append]
    omega

theorem ends_fields {style : Style} {depth outer : Nat} (fields : List (String × Json))
    (rest : List Char) :
    Ends (writeFields style depth fields ++ (style.newline outer ++ '\x7d' :: rest)) := by
  cases fields with
  | nil => exact ends_newline style outer rest (by decide)
  | cons field fields => exact ends_cons _ (by decide)

/-! ### Maps -/

section
variable {item : Decoder α} {write : α → Json} {style : Style} {depth outer : Nat}

/-- The JSON of an entry of a map keyed by words. -/
abbrev entryJson (write : α → Json) (entry : UInt64 × α) : String × Json :=
  (toString entry.1.toNat, write entry.2)

theorem escaped_toString (n : Nat) :
    (toString n).toList.flatMap escapeChar = Nat.toDigits 10 n := by
  rw [Nat.toString_eq_repr, Nat.toList_repr]
  have hdigits : ∀ c ∈ Nat.toDigits 10 n, c.isDigit = true := fun c hc =>
    Nat.isDigit_of_mem_toDigits (by decide) (by decide) hc
  generalize Nat.toDigits 10 n = digits at hdigits
  induction digits with
  | nil => rfl
  | cons c digits ih =>
    obtain ⟨hc, hrest⟩ := List.forall_mem_cons.1 hdigits
    have hescape : escapeChar c = [c] := by
      unfold escapeChar
      split
      iterate 7 exact absurd hc (by decide)
      refine if_neg fun hcontrol => ?_
      have hge : (48 : UInt32) ≤ c.val := by
        simp only [Char.isDigit, Bool.and_eq_true, decide_eq_true_eq] at hc
        exact hc.1
      have hge : 48 ≤ c.toNat := UInt32.le_iff_toNat_le.1 hge
      omega
    rw [List.flatMap_cons, hescape, ih hrest]
    rfl

theorem wordKey_reads (key : UInt64) (rest : List Char) :
    wordKey ((toString key.toNat).toList.flatMap escapeChar ++ '"' :: rest) = .ok (key, rest) := by
  rw [escaped_toString]
  obtain ⟨c, tail, hcons, hc⟩ := toDigits_cons key.toNat
  have hword : word (Nat.toDigits 10 key.toNat ++ '"' :: rest) = .ok (key, '"' :: rest) :=
    @word_reads key .compact 0 _ _ (ends_cons _ (by decide))
      (skipSpace_write .compact 0 (.number key.toNat) _)
  rw [hcons, List.cons_append] at hword ⊢
  unfold wordKey
  simp [hc, hword, bind, Except.bind]

theorem entries_end (style : Style) (depth : Nat) (isFirst : Bool) (fuel : Nat) (rest : List Char) :
    entries item (fuel + 1) isFirst (style.newline depth ++ '\x7d' :: rest) =
      .ok ([], '\x7d' :: rest) := by
  have hskip : skipSpace (style.newline depth ++ '\x7d' :: rest) = '\x7d' :: rest := by
    rw [skipSpace_newline, skipSpace_cons (by decide)]
  unfold entries
  simp [nextKey?_end, hskip, bind, Except.bind]

theorem entries_succ {isFirst : Bool} {fuel : Nat} {cs final rest : List Char} {entry : UInt64 × α}
    {others : List (UInt64 × α)} (h : item.Reads (write entry.2) entry.2) (hends : Ends rest)
    (hnext : nextKey? isFirst cs = .ok (some ((toString entry.1.toNat).toList.flatMap escapeChar ++
      '"' :: (style.colon ++ ((write entry.2).write style depth ++ rest)))))
    (hrest : entries item fuel false rest = .ok (others, final)) :
    entries item (fuel + 1) isFirst cs = .ok (entry :: others, final) := by
  obtain ⟨after, hcolon, hafter⟩ := colon_reads style ((write entry.2).write style depth ++ rest)
  have hitem := h hends (hafter.trans (skipSpace_write ..))
  unfold entries
  simp only [hnext, wordKey_reads, hcolon, hitem, hrest, bind, Except.bind]

theorem entries_reads {xs : List (UInt64 × α)} (h : ∀ x ∈ xs, item.Reads (write x.2) x.2)
    {fuel : Nat} (hfuel : xs.length < fuel) (rest : List Char) :
    entries item fuel false
        (writeFields style depth (xs.map (entryJson write)) ++
          (style.newline outer ++ '\x7d' :: rest)) = .ok (xs, '\x7d' :: rest) := by
  induction xs generalizing fuel with
  | nil =>
    obtain ⟨fuel, rfl⟩ := Nat.exists_eq_succ_of_ne_zero (Nat.ne_of_gt hfuel)
    exact entries_end style outer false fuel rest
  | cons x xs ih =>
    obtain ⟨hx, hxs⟩ := List.forall_mem_cons.1 h
    obtain ⟨fuel, rfl⟩ := Nat.exists_eq_succ_of_ne_zero (Nat.ne_zero_of_lt hfuel)
    rw [List.map_cons, writeFields]
    simp only [List.cons_append, List.append_assoc]
    exact entries_succ hx (ends_fields _ rest) (nextKey?_next style depth _ _)
      (ih hxs (Nat.lt_of_succ_lt_succ hfuel))

theorem wordMap_of_entries {cs body rest : List Char} {xs : List (UInt64 × α)}
    (hcs : skipSpace cs = '\x7b' :: body)
    (hentries : entries item (body.length + 1) true body = .ok (xs, '\x7d' :: rest)) :
    wordMap item cs = .ok (xs, rest) := by
  unfold wordMap
  rw [hcs]
  simp [hentries, closeObject_end, bind, Except.bind]

theorem wordMap_reads {xs : List (UInt64 × α)} (h : ∀ x ∈ xs, item.Reads (write x.2) x.2) :
    (wordMap item).Reads (.object (xs.map (entryJson write))) xs := by
  intro style depth cs rest hrest hcs
  cases xs with
  | nil => exact wordMap_of_entries hcs (entries_end .compact 0 true _ rest)
  | cons x xs =>
    obtain ⟨hx, hxs⟩ := List.forall_mem_cons.1 h
    rw [List.map_cons, Json.write] at hcs
    simp only [List.cons_append, List.append_assoc, List.nil_append] at hcs
    refine wordMap_of_entries hcs (entries_succ hx (ends_fields _ rest)
      (nextKey?_first style (depth + 1) _ _) (entries_reads hxs ?_ rest))
    have hlength := length_writeFields style (depth + 1) (xs.map (entryJson write))
    rw [List.length_map] at hlength
    simp only [List.length_append, List.length_cons]
    omega

end

end Decoder

/-! ### Records -/

theorem Slot.field_reads {key : String} {get : π → Option β} {put : π → β → π} {d : Decoder β}
    {json : Json} {b : β} (h : d.Reads json b) (parts : π) :
    ((Slot.field key get put d).read parts).Reads json (put parts b) := by
  intro style depth cs rest hrest hcs
  unfold Slot.field
  simp [h hrest hcs, bind, Except.bind]

theorem Slot.trailing_reads {slot : Slot π} {json : Json} {parts parts' : π}
    (h : (slot.read parts).Reads json parts') : (slot.trailing.read parts).Reads json parts' := h

namespace Shape

open Decoder

variable {shape : Shape π α} {style : Style} {depth outer : Nat}

/-- The fields fill the parts of the record, each a slot of its own. -/
inductive Fills (shape : Shape π α) : π → List (String × Json) → π → Prop
  | nil (parts : π) : Fills shape parts [] parts
  | cons {parts parts' last : π} {slot : Slot π} {key : String} {json : Json}
    {fields : List (String × Json)} (hslot : shape.slots.find? (·.key == key) = some slot)
    (hfree : slot.isFilled parts = false) (hread : (slot.read parts).Reads json parts')
    (hrest : Fills shape parts' fields last) : Fills shape parts ((key, json) :: fields) last

theorem Fills.append {parts middle last : π} {front back : List (String × Json)}
    (hfront : shape.Fills parts front middle) (hback : shape.Fills middle back last) :
    shape.Fills parts (front ++ back) last := by
  induction hfront with
  | nil parts => exact hback
  | cons hslot hfree hread _ ih => exact .cons hslot hfree hread (ih hback)

/-- A key that is written only if there is a value for it fills its slot or leaves it free. -/
theorem Fills.skippable {slot : Slot π} {key : String} {write : β → Json} {parts last : π}
    {put : β → π} {b? : Option β} (hslot : shape.slots.find? (·.key == key) = some slot)
    (hfree : slot.isFilled parts = false) (hread : ∀ b, (slot.read parts).Reads (write b) (put b))
    (hlast : b?.elim parts put = last) :
    shape.Fills parts (b?.toList.map fun b => (key, write b)) last := by
  subst hlast
  cases b? with
  | none => exact .nil parts
  | some b => exact .cons hslot hfree (hread b) (.nil _)

theorem fields_end (style : Style) (depth : Nat) (isFirst : Bool) (fuel : Nat) (parts : π)
    (rest : List Char) :
    shape.fields (fuel + 1) isFirst parts (style.newline depth ++ '\x7d' :: rest) =
      .ok (parts, '\x7d' :: rest) := by
  have hskip : skipSpace (style.newline depth ++ '\x7d' :: rest) = '\x7d' :: rest := by
    rw [skipSpace_newline, skipSpace_cons (by decide)]
  unfold fields
  simp [nextKey?_end, hskip, bind, Except.bind]

theorem fields_succ {isFirst : Bool} {fuel : Nat} {parts parts' : π} {slot : Slot π} {key : String}
    {json : Json} {cs rest : List Char} {result : Except Problem (π × List Char)}
    (hslot : shape.slots.find? (·.key == key) = some slot) (hfree : slot.isFilled parts = false)
    (hread : (slot.read parts).Reads json parts') (hends : Ends rest)
    (hnext : nextKey? isFirst cs = .ok (some (key.toList.flatMap escapeChar ++
      '"' :: (style.colon ++ (json.write style depth ++ rest)))))
    (hrest : shape.fields fuel false parts' rest = result) :
    shape.fields (fuel + 1) isFirst parts cs = result := by
  obtain ⟨after, hcolon, hafter⟩ := colon_reads style (json.write style depth ++ rest)
  have hvalue := hread hends (hafter.trans (skipSpace_write ..))
  unfold fields
  simp only [hnext, stringBody_escaped, String.ofList_toList, hslot, hfree, hcolon, hvalue, bind,
    Except.bind]
  exact hrest

theorem fields_reads {parts last : π} {fs : List (String × Json)} (h : shape.Fills parts fs last)
    {fuel : Nat} (hfuel : fs.length < fuel) (rest : List Char) :
    shape.fields fuel false parts
        (writeFields style depth fs ++ (style.newline outer ++ '\x7d' :: rest)) =
      .ok (last, '\x7d' :: rest) := by
  induction h generalizing fuel with
  | nil parts =>
    obtain ⟨fuel, rfl⟩ := Nat.exists_eq_succ_of_ne_zero (Nat.ne_of_gt hfuel)
    exact fields_end style outer false fuel parts rest
  | cons hslot hfree hread hrest ih =>
    obtain ⟨fuel, rfl⟩ := Nat.exists_eq_succ_of_ne_zero (Nat.ne_zero_of_lt hfuel)
    rw [writeFields]
    simp only [List.cons_append, List.append_assoc]
    exact fields_succ hslot hfree hread (ends_fields _ rest) (nextKey?_next style depth _ _)
      (ih (Nat.lt_of_succ_lt_succ hfuel))

theorem decoder_of_fields {cs body rest : List Char} {last : π} {a : α}
    (hfinish : shape.finish last = .ok a) (hcs : skipSpace cs = '\x7b' :: body)
    (hfields : shape.fields (body.length + 1) true shape.start body = .ok (last, '\x7d' :: rest)) :
    shape.decoder cs = .ok (a, rest) := by
  unfold decoder
  rw [hcs]
  simp [hfields, complete, hfinish, closeObject_end, bind, Except.bind]

theorem decoder_reads {last : π} {fs : List (String × Json)} {a : α}
    (h : shape.Fills shape.start fs last) (hfinish : shape.finish last = .ok a) :
    shape.decoder.Reads (.object fs) a := by
  intro style depth cs rest hrest hcs
  cases h with
  | nil =>
    exact decoder_of_fields hfinish hcs (fields_end .compact 0 true _ _ rest)
  | @cons _ _ _ _ _ _ fields hslot hfree hread hfills =>
    rw [Json.write] at hcs
    simp only [List.cons_append, List.append_assoc, List.nil_append] at hcs
    refine decoder_of_fields hfinish hcs (fields_succ hslot hfree hread (ends_fields _ rest)
      (nextKey?_first style (depth + 1) _ _) (fields_reads hfills ?_ rest))
    have hlength := length_writeFields style (depth + 1) fields
    simp only [List.length_append, List.length_cons]
    omega

end Shape

theorem decode_reads {d : Decoder α} {json : Json} {a : α} (h : d.Reads json a) (style : Style) :
    decode d (json.text style) = .ok a := by
  have hstart : skipSpace (json.write style 0) = json.write style 0 ++ [] := by
    have hwrite := skipSpace_write style 0 json []
    rwa [List.append_nil] at hwrite ⊢
  have hread : d (json.write style 0) = .ok (a, []) := h (by simp [Ends]) hstart
  unfold decode text
  rw [String.toList_ofList]
  simp [hread, skipSpace, bind, Except.bind, Except.mapError]

end StructSync.Json
