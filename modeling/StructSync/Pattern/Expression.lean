import StructSync.Text.Property.Binary

/-!
# What a pattern looks for

An expression says which pieces of a text fit, and where. `Expression.reach` takes the places where
a piece may start to the places where it may then end; `Expression.occursIn` asks whether any piece
of a text fits.
-/

namespace StructSync.Pattern

/-- A line end: a line feed alone, or carriage returns as well, of which two that belong together
are one. -/
inductive LineEnd where
  | lineFeed | carriageReturn
deriving DecidableEq

/-- The characters of words: those of ASCII or all. -/
inductive WordKind where
  | ascii | all
deriving DecidableEq

/-- What may be asked of a place between two characters. -/
inductive Condition where
  | textStart
  | textEnd
  | lineStart (kind : LineEnd)
  | lineEnd (kind : LineEnd)
  /-- whether one of the two characters belongs to a word and the other does not -/
  | wordBoundary (kind : WordKind) (isNegated : Bool)
  | wordStart (kind : WordKind)
  | wordEnd (kind : WordKind)
  | noWordBefore (kind : WordKind)
  | noWordAfter (kind : WordKind)
deriving DecidableEq

/-- ASCII letters, digits and the underscore. -/
def asciiWord : CharSet := .ofText "30-39 41-5A 5F 61-7A"

/-- Does the character belong to a word? The ends of the text do not. -/
def WordKind.holds (kind : WordKind) : Option Char → Bool
  | none => false
  | some c =>
    match kind with
    | ascii => asciiWord.contains c
    | all => CharSet.word.contains c

/-- Does the condition hold between two characters? Where there is none the text ends. -/
def Condition.holds (condition : Condition) (before after : Option Char) : Bool :=
  match condition with
  | textStart => before.isNone
  | textEnd => after.isNone
  | lineStart .lineFeed => before.isNone || before == some '\n'
  | lineEnd .lineFeed => after.isNone || after == some '\n'
  | lineStart .carriageReturn =>
    before.isNone || before == some '\n' || (before == some '\r' && after != some '\n')
  | lineEnd .carriageReturn =>
    after.isNone || after == some '\r' || (after == some '\n' && before != some '\r')
  | wordBoundary kind isNegated => (kind.holds before != kind.holds after) != isNegated
  | wordStart kind => !kind.holds before && kind.holds after
  | wordEnd kind => kind.holds before && !kind.holds after
  | noWordBefore kind => !kind.holds before
  | noWordAfter kind => !kind.holds after

/-- What a pattern looks for. -/
inductive Expression where
  /-- nothing at all, which is everywhere -/
  | empty
  /-- one character of the set -/
  | oneOf (set : CharSet)
  | place (condition : Condition)
  /-- one behind the other -/
  | sequence (first second : Expression)
  /-- one or the other -/
  | choice (first second : Expression)
  /-- the body, which is kept in mind -/
  | captured (body : Expression)
  /-- the body over and over, so many times at least and at most -/
  | repetition (body : Expression) (least : Nat) (most : Option Nat)
deriving DecidableEq

/-- Places in a text: for each of them, from before the first character to behind the last one,
whether it is meant. -/
abbrev Places := List Bool

namespace Places

def union (s t : Places) : Places := List.zipWith (· || ·) s t

def inter (s t : Places) : Places := List.zipWith (· && ·) s t

/-- Takes a step a number of times, or until it changes nothing. -/
def advance (step : Places → Places) : Nat → Places → Places
  | 0, s => s
  | n + 1, s =>
    let t := step s
    if t = s then s else advance step n t

/-- Adds the places that a step leads to until it adds none, at most a number of times. -/
def grow (step : Places → Places) : Nat → Places → Places
  | 0, s => s
  | n + 1, s =>
    let t := s.union (step s)
    if t = s then s else grow step n t

/-- Adds the places that a step leads to until it adds none, at most a number of times, and tells
where one more step leads. The last step that was tried is that step, so none is taken twice. -/
def close (step : Places → Places) : Nat → Places → Places × Places
  | 0, s => (s, step s)
  | n + 1, s =>
    let next := step s
    let t := s.union next
    if t = s then (s, next) else close step n t

theorem length_advance {step : Places → Places} {n : Nat}
    (hstep : ∀ s : Places, s.length = n → (step s).length = n) (count : Nat) {s : Places}
    (h : s.length = n) : (advance step count s).length = n := by
  induction count generalizing s with
  | zero => exact h
  | succ count ih =>
    rw [advance]
    split
    · exact h
    · exact ih (hstep s h)

theorem length_grow {step : Places → Places} {n : Nat}
    (hstep : ∀ s : Places, s.length = n → (step s).length = n) (count : Nat) {s : Places}
    (h : s.length = n) : (grow step count s).length = n := by
  induction count generalizing s with
  | zero => exact h
  | succ count ih =>
    have hunion : (s.union (step s)).length = n := by
      rw [union, List.length_zipWith, hstep s h, h, Nat.min_self]
    rw [grow]
    split
    · exact h
    · exact ih hunion

theorem length_close {step : Places → Places} {n : Nat}
    (hstep : ∀ s : Places, s.length = n → (step s).length = n) (count : Nat) {s : Places}
    (h : s.length = n) :
    (close step count s).1.length = n ∧ (close step count s).2.length = n := by
  induction count generalizing s with
  | zero => exact ⟨h, hstep s h⟩
  | succ count ih =>
    have hunion : (s.union (step s)).length = n := by
      rw [union, List.length_zipWith, hstep s h, h, Nat.min_self]
    rw [close]
    split
    · exact ⟨h, hstep s h⟩
    · exact ih hunion

end Places

namespace Expression

/-- The characters before and behind each place of a text. -/
def neighbours (before : Option Char) : List Char → List (Option Char × Option Char)
  | [] => [(before, none)]
  | c :: rest => (before, some c) :: neighbours (some c) rest

theorem length_neighbours (before : Option Char) (text : List Char) :
    (neighbours before text).length = text.length + 1 := by
  induction text generalizing before with
  | nil => rfl
  | cons c rest ih => rw [neighbours, List.length_cons, ih, List.length_cons]

/-- The places where a piece of the text that fits may end if it starts at one of those given. More
repetitions than the text has characters must all but so many stand still, and those that stand
still can be left out or added; so counts beyond that make no difference. Where no number is the
most, the repetitions that may be left out come first. -/
def reach (text : List Char) : Expression → Places → Places
  | empty, s => s
  | oneOf set, s => false :: List.zipWith (fun isMeant c => isMeant && set.contains c) s text
  | place condition, s =>
    s.inter ((neighbours none text).map fun (before, after) => condition.holds before after)
  | sequence first second, s => second.reach text (first.reach text s)
  | choice first second, s => (first.reach text s).union (second.reach text s)
  | captured body, s => body.reach text s
  | repetition body least none, s =>
    let (all, next) := s.close (body.reach text) text.length
    match least with
    | 0 => all
    | least + 1 => next.advance (body.reach text) (min least text.length)
  | repetition body least (some most), s =>
    let started := s.advance (body.reach text) (min least (text.length + 1))
    started.grow (body.reach text) (min (most - least) text.length)

theorem length_reach (text : List Char) (e : Expression) {s : Places}
    (h : s.length = text.length + 1) : (e.reach text s).length = text.length + 1 := by
  induction e generalizing s with
  | empty => exact h
  | oneOf set => simp [reach, h]
  | place condition => simp [reach, Places.inter, h, length_neighbours]
  | sequence first second ihf ihs => exact ihs (ihf h)
  | choice first second ihf ihs => simp [reach, Places.union, ihf h, ihs h]
  | captured body ih => exact ih h
  | repetition body least most ih =>
    have hstep : ∀ s : Places, s.length = text.length + 1 →
        (body.reach text s).length = text.length + 1 := fun _ hs => ih hs
    cases most with
    | some most => exact Places.length_grow hstep _ (Places.length_advance hstep _ h)
    | none =>
      obtain ⟨hall, hnext⟩ := Places.length_close hstep text.length h
      cases least with
      | zero => exact hall
      | succ least => exact Places.length_advance hstep _ hnext

/-- Does a piece of the text fit? -/
def occursIn (e : Expression) (text : List Char) : Bool :=
  (e.reach text (List.replicate (text.length + 1) true)).any id

theorem occursIn_empty (text : List Char) : empty.occursIn text = true := rfl

theorem occursIn_choice (e f : Expression) (text : List Char) :
    (choice e f).occursIn text = (e.occursIn text || f.occursIn text) := by
  have any_zipWith : ∀ s t : List Bool, s.length = t.length →
      (List.zipWith (· || ·) s t).any id = (s.any id || t.any id) := by
    intro s
    induction s with
    | nil => intro t ht; cases t with
      | nil => rfl
      | cons b t => simp at ht
    | cons a s ih =>
      intro t ht
      cases t with
      | nil => simp at ht
      | cons b t =>
        have ht' : s.length = t.length := by simpa using ht
        simp only [List.zipWith_cons_cons, List.any_cons, ih t ht', id]
        cases a <;> cases b <;> simp
  have h : (List.replicate (text.length + 1) true).length = text.length + 1 :=
    List.length_replicate
  exact any_zipWith _ _ ((length_reach text e h).trans (length_reach text f h).symm)

end Expression

end StructSync.Pattern
