import Mathlib
import StructSync.Confirmation.Dialogue
import StructSync.Proofs.CType.Wording

/-!
# Dialogues line by line

The input of a dialogue is cut into lines (`linesOf`), and each line decides a question or does not
(`Dialogue.Decides`). A `Turn` is what becomes of one prompt: the lines that do not decide, each of
which brings the question once more, and the line that does, unless the input ends first. Main
statement (`Dialogue.confirmer_turns`): the prompts of a dialogue have one turn each, whose lines
stand in the input one behind the other; so the answers are what the deciding lines say, in their
order, and after them nothing but to cancel.
-/

namespace StructSync

/-- The lines of the input, each with its line feed. The last one may have none. -/
def linesOf : List UInt8 → List (List UInt8)
  | [] => []
  | byte :: rest =>
    if byte = 10 then [byte] :: linesOf rest
    else
      match linesOf rest with
      | [] => [[byte]]
      | line :: others => (byte :: line) :: others

/-- The lines are the input cut behind every line feed. -/
structure CutInLines (input : List UInt8) (lines : List (List UInt8)) : Prop where
  flatten : lines.flatten = input
  line : ∀ line ∈ lines, line ≠ [] ∧ 10 ∉ line.dropLast
  ended : ∀ line ∈ lines.dropLast, line.getLast? = some 10

namespace CutInLines

variable {input : List UInt8} {line : List UInt8} {lines : List (List UInt8)}

theorem cons_feed (h : CutInLines input lines) : CutInLines (10 :: input) ([10] :: lines) := by
  refine ⟨by simp [h.flatten], List.forall_mem_cons.2 ⟨by simp, h.line⟩, ?_⟩
  cases lines with
  | nil => exact nofun
  | cons next others =>
    rw [List.dropLast_cons_of_ne_nil (by simp)]
    exact List.forall_mem_cons.2 ⟨rfl, h.ended⟩

theorem cons_byte {byte : UInt8} (hbyte : byte ≠ 10) (h : CutInLines input (line :: lines)) :
    CutInLines (byte :: input) ((byte :: line) :: lines) := by
  obtain ⟨⟨hne, hfeed⟩, hothers⟩ := List.forall_mem_cons.1 h.line
  refine ⟨by simp [← h.flatten], List.forall_mem_cons.2 ⟨⟨by simp, ?_⟩, hothers⟩, ?_⟩
  · rw [List.dropLast_cons_of_ne_nil hne]
    simp [hbyte.symm, hfeed]
  · have hended := h.ended
    cases lines with
    | nil => exact nofun
    | cons next others =>
      rw [List.dropLast_cons_of_ne_nil (by simp)] at hended ⊢
      obtain ⟨hfirst, hended⟩ := List.forall_mem_cons.1 hended
      exact List.forall_mem_cons.2 ⟨by rw [List.getLast?_cons_of_ne_nil hne, hfirst], hended⟩

end CutInLines

theorem cutInLines_linesOf (input : List UInt8) : CutInLines input (linesOf input) := by
  induction input with
  | nil => exact ⟨rfl, nofun, nofun⟩
  | cons byte rest ih =>
    by_cases hbyte : byte = 10
    · subst hbyte
      exact ih.cons_feed
    · rw [linesOf, if_neg hbyte]
      cases hlines : linesOf rest with
      | nil =>
        rw [hlines] at ih
        obtain rfl : [] = rest := ih.flatten
        exact ⟨rfl, by simp, nofun⟩
      | cons line others =>
        rw [hlines] at ih
        exact ih.cons_byte hbyte

theorem linesOf_cons (byte : UInt8) (rest : List UInt8) :
    linesOf (byte :: rest) =
      (splitLine (byte :: rest)).1 :: linesOf (splitLine (byte :: rest)).2 := by
  induction rest generalizing byte with
  | nil => by_cases hbyte : byte = 10 <;> simp [linesOf, splitLine, hbyte]
  | cons next rest ih =>
    by_cases hbyte : byte = 10
    · rw [linesOf, splitLine, if_pos hbyte, if_pos hbyte]
    · rw [linesOf, splitLine, if_neg hbyte, if_neg hbyte, ih]

namespace Dialogue

/-! ### What a line decides -/

/-- The line is text that says the word, in any case of its letters and with any white space around
it. -/
def Says (line : List UInt8) (word : String) : Prop :=
  ∃ text front said back, String.fromUTF8? ⟨line.toArray⟩ = some text ∧
    text.toList = front ++ (said ++ back) ∧ IsGap front ∧ IsGap back ∧
    List.Forall₂ (fun c letter => c = letter ∨ c = letter.toUpper) said word.toList

/-- What the line answers, if it answers anything. -/
inductive Decides (line : List UInt8) : Decision → Prop
  | yes : Says line "y" ∨ Says line "yes" → Decides line .yes
  | no : Says line "n" ∨ Says line "no" ∨ Says line "" → Decides line .no
  | cancel : String.fromUTF8? ⟨line.toArray⟩ = none → Decides line .cancel

/-- The answer that is taken from the line, if one is. -/
def decision? (line : List UInt8) : Option Decision :=
  match LineAnswer.ofBytes line with
  | .clear decision => some decision
  | .unclear => none
  | .unreadable => some .cancel

theorem toLower_eq_iff {c letter : Char} (h : letter ∈ ['y', 'e', 's', 'n', 'o']) :
    c.toLower = letter ↔ c = letter ∨ c = letter.toUpper := by
  have hletter : letter.toLower = letter ∧ letter.toUpper.toLower = letter := by
    simp only [List.mem_cons, List.not_mem_nil, or_false] at h
    rcases h with rfl | rfl | rfl | rfl | rfl <;> decide
  constructor
  · rintro rfl
    by_cases hupper : c.isUpper
    · have hlower := Char.not_isLower_of_isUpper hupper
      exact .inr (by rw [Char.toUpper_toLower_eq_toUpper, Char.toUpper_eq_of_not_isLower hlower])
    · exact .inl (Char.toLower_eq_of_not_isUpper hupper).symm
  · rintro (rfl | rfl)
    · exact hletter.1
    · exact hletter.2

theorem map_toLower_eq_iff {said letters : List Char}
    (h : ∀ letter ∈ letters, letter ∈ ['y', 'e', 's', 'n', 'o']) :
    said.map Char.toLower = letters ↔
      List.Forall₂ (fun c letter => c = letter ∨ c = letter.toUpper) said letters := by
  induction letters generalizing said with
  | nil => simp
  | cons letter letters ih =>
    obtain ⟨hletter, hletters⟩ := List.forall_mem_cons.1 h
    cases said with
    | nil => simp
    | cons c said =>
      rw [List.map_cons, List.cons.injEq, toLower_eq_iff hletter, ih hletters, List.forall₂_cons]

theorem isBlank_of_letters {said letters : List Char}
    (h : ∀ letter ∈ letters, letter ∈ ['y', 'e', 's', 'n', 'o'])
    (hsaid : List.Forall₂ (fun c letter => c = letter ∨ c = letter.toUpper) said letters) :
    ∀ c ∈ said, isBlank c = false := by
  induction hsaid with
  | nil => exact nofun
  | @cons c letter said letters hc _ ih =>
    obtain ⟨hletter, hletters⟩ := List.forall_mem_cons.1 h
    refine List.forall_mem_cons.2 ⟨?_, ih hletters⟩
    simp only [List.mem_cons, List.not_mem_nil, or_false] at hletter
    rcases hletter with rfl | rfl | rfl | rfl | rfl <;> rcases hc with rfl | rfl <;> decide

/-- What a text says is what is left of it without the white space around it. -/
theorem says_iff {line : List UInt8} {text : String}
    (hline : String.fromUTF8? ⟨line.toArray⟩ = some text) (word : String)
    (h : ∀ letter ∈ word.toList, letter ∈ ['y', 'e', 's', 'n', 'o']) :
    Says line word ↔ String.ofList ((Text.trim text.toList).map Char.toLower) = word := by
  rw [← String.toList_inj, String.toList_ofList, map_toLower_eq_iff h]
  constructor
  · rintro ⟨text', front, said, back, hline', htext, hfront, hback, hsaid⟩
    obtain rfl : text = text' := Option.some.inj (hline.symm.trans hline')
    have hbare := isBlank_of_letters h hsaid
    have htrim : Text.trim text.toList = said := by
      rw [htext]
      cases said with
      | nil =>
        have hgap : IsGap (front ++ back) := hfront.append hback
        have htrim : Text.trim (front ++ back ++ ([] ++ [])) = [] :=
          Declaration.trim_around hgap IsGap.nil nofun nofun
        simpa using htrim
      | cons c said =>
        refine Declaration.trim_around hfront hback ?_ fun d hd => hbare d (List.mem_of_getLast? hd)
        rintro _ ⟨⟩
        exact hbare c (by simp)
    rwa [htrim]
  · intro hsaid
    obtain ⟨front, back, htext, hfront, hback⟩ := Declaration.exists_trim text.toList
    exact ⟨text, front, _, back, hline, htext, hfront, hback, hsaid⟩

theorem ofText_ne_unreadable (text : String) : LineAnswer.ofText text ≠ .unreadable := by
  unfold LineAnswer.ofText
  split <;> nofun

theorem ofText_eq_clear {text word : String} {decision : Decision}
    (hword : String.ofList ((Text.trim text.toList).map Char.toLower) = word) :
    LineAnswer.ofText text = .clear decision ↔
      decision = .yes ∧ (word = "y" ∨ word = "yes") ∨
        decision = .no ∧ (word = "n" ∨ word = "no" ∨ word = "") := by
  unfold LineAnswer.ofText
  rw [hword]
  split
  case h_6 hy hyes hn hno hblank =>
    refine iff_of_false nofun ?_
    rintro (⟨-, rfl | rfl⟩ | ⟨-, rfl | rfl | rfl⟩)
    exacts [hy rfl, hyes rfl, hn rfl, hno rfl, hblank rfl]
  all_goals cases decision <;> decide

theorem decides_iff_of_text {line : List UInt8} {text : String} {decision : Decision}
    (hline : String.fromUTF8? ⟨line.toArray⟩ = some text) :
    Decides line decision ↔ LineAnswer.ofText text = .clear decision := by
  rw [ofText_eq_clear rfl, ← says_iff hline "y" (by simp), ← says_iff hline "yes" (by simp),
    ← says_iff hline "n" (by simp), ← says_iff hline "no" (by simp), ← says_iff hline "" (by simp)]
  constructor
  · rintro (h | h | h)
    · exact .inl ⟨rfl, h⟩
    · exact .inr ⟨rfl, h⟩
    · cases hline.symm.trans h
  · rintro (⟨rfl, h⟩ | ⟨rfl, h⟩)
    · exact .yes h
    · exact .no h

theorem decides_iff_of_unreadable {line : List UInt8} {decision : Decision}
    (hline : String.fromUTF8? ⟨line.toArray⟩ = none) :
    Decides line decision ↔ decision = .cancel := by
  have hsilent : ∀ word, ¬Says line word := by
    rintro word ⟨text, _, _, _, htext, -⟩
    cases hline.symm.trans htext
  constructor
  · rintro ((h | h) | (h | h | h) | -)
    all_goals first | rfl | exact absurd h (hsilent _)
  · rintro rfl
    exact .cancel hline

theorem decision?_eq_some {line : List UInt8} {decision : Decision} :
    decision? line = some decision ↔ Decides line decision := by
  unfold decision? LineAnswer.ofBytes
  cases hline : String.fromUTF8? ⟨line.toArray⟩ with
  | none =>
    rw [decides_iff_of_unreadable hline, eq_comm]
    exact Option.some_inj
  | some text =>
    rw [decides_iff_of_text hline]
    dsimp only
    cases hanswer : LineAnswer.ofText text with
    | clear => simp
    | unclear => simp
    | unreadable => exact absurd hanswer (ofText_ne_unreadable text)

/-! ### Turns -/

/-- What becomes of one prompt: the lines after which it is put again, and the line that decides,
unless the input ends before there is one. -/
structure Turn where
  prompt : String
  undecided : List (List UInt8)
  decided : Option (List UInt8 × Decision)

namespace Turn

def lines (turn : Turn) : List (List UInt8) :=
  turn.undecided ++ (turn.decided.map Prod.fst).toList

def answer (turn : Turn) : Decision := (turn.decided.map Prod.snd).getD .cancel

def shown (turn : Turn) : String :=
  String.join (turn.undecided.map fun _ =>
    turn.prompt ++ " [y/N] " ++ "Please answer 'y' or 'n'.\n") ++ (turn.prompt ++ " [y/N] ")

/-- The lines decide what they are said to decide. -/
structure Fair (turn : Turn) : Prop where
  undecided : ∀ line ∈ turn.undecided, ∀ decision, ¬Decides line decision
  decided : ∀ line decision, turn.decided = some (line, decision) → Decides line decision

end Turn

/-- What the lines of the input decide, in their order. -/
def decisions (input : List UInt8) : List Decision := (linesOf input).filterMap decision?

/-- The turn has the lines at the front of `input`, and `rest` is behind them. -/
structure Taken (turn : Turn) (input rest : List UInt8) : Prop where
  fair : turn.Fair
  lines : linesOf input = turn.lines ++ linesOf rest
  ended : turn.decided = none → rest = []

theorem taken_of_decides {byte : UInt8} {bytes : List UInt8} {decision : Decision}
    (prompt : String) (h : Decides (splitLine (byte :: bytes)).1 decision) :
    Taken ⟨prompt, [], some ((splitLine (byte :: bytes)).1, decision)⟩ (byte :: bytes)
      (splitLine (byte :: bytes)).2 := by
  refine ⟨⟨nofun, ?_⟩, linesOf_cons byte bytes, nofun⟩
  rintro _ _ ⟨⟩
  exact h

/-- One question: every round takes the line at the front. -/
theorem ask_taken (prompt : String) (input : List UInt8) :
    ∃ turn : Turn, turn.prompt = prompt ∧ Taken turn input (ask prompt input).2.2 ∧
      turn.answer = (ask prompt input).1.value ∧ turn.shown = (ask prompt input).2.1 := by
  fun_induction ask prompt input with
  | case1 =>
    refine ⟨⟨prompt, [], none⟩, rfl, ⟨⟨nofun, nofun⟩, rfl, fun _ => rfl⟩, rfl, ?_⟩
    simp [Turn.shown, question]
  | case2 byte bytes decision hline =>
    have hdecides : Decides (splitLine (byte :: bytes)).1 decision :=
      decision?_eq_some.1 (by rw [decision?, hline])
    exact ⟨_, rfl, taken_of_decides prompt hdecides, rfl, by simp [Turn.shown, question]⟩
  | case3 byte bytes hline =>
    have hdecides : Decides (splitLine (byte :: bytes)).1 .cancel :=
      decision?_eq_some.1 (by rw [decision?, hline])
    exact ⟨_, rfl, taken_of_decides prompt hdecides, rfl, by simp [Turn.shown, question]⟩
  | case4 byte bytes hline answer shown rest hask ih =>
    rw [hask] at ih
    obtain ⟨turn, rfl, htaken, hanswer, rfl⟩ := ih
    refine ⟨{ turn with undecided := (splitLine (byte :: bytes)).1 :: turn.undecided }, rfl,
      ⟨⟨?_, htaken.fair.decided⟩, ?_, htaken.ended⟩, hanswer, ?_⟩
    · refine List.forall_mem_cons.2 ⟨fun decision hdecides => ?_, htaken.fair.undecided⟩
      have := decision?_eq_some.2 hdecides
      rw [decision?, hline] at this
      cases this
    · rw [linesOf_cons, htaken.lines]
      rfl
    · simp [Turn.shown, question, reminder, String.append_assoc]

/-- A turn takes the first decision there is, or cancels. -/
theorem Taken.decisions_eq {turn : Turn} {input rest : List UInt8} (h : Taken turn input rest) :
    turn.answer = (decisions input).head?.getD .cancel ∧
      decisions rest = (decisions input).tail := by
  have hundecided : turn.undecided.filterMap decision? = [] := by
    refine List.filterMap_eq_nil_iff.2 fun line hline => ?_
    refine Option.eq_none_iff_forall_ne_some.2 fun decision hdecision => ?_
    exact h.fair.undecided line hline decision (decision?_eq_some.1 hdecision)
  have hinput : decisions input =
      (turn.decided.map Prod.fst).toList.filterMap decision? ++ decisions rest := by
    rw [decisions, h.lines, Turn.lines, List.filterMap_append, List.filterMap_append, hundecided,
      List.nil_append, decisions]
  rw [hinput, Turn.answer]
  cases hdecided : turn.decided with
  | none =>
    rw [h.ended hdecided]
    exact ⟨rfl, rfl⟩
  | some taken =>
    have htaken : decision? taken.1 = some taken.2 :=
      decision?_eq_some.2 (h.fair.decided _ _ hdecided)
    simp [htaken]

/-- The prompts have one turn each, and the turns share out the lines between them. -/
structure Held (prompts : List String) (before after : Dialogue) (turns : List Turn) : Prop where
  prompts : turns.map Turn.prompt = prompts
  fair : ∀ turn ∈ turns, turn.Fair
  lines : linesOf before.input = turns.flatMap Turn.lines ++ linesOf after.input
  ended : ∀ turn ∈ turns, turn.decided = none → after.input = []
  later : turns.Pairwise fun turn later => turn.decided = none → later.lines = []
  shown : after.shown = before.shown ++ String.join (turns.map Turn.shown)

theorem Held.nil (dialogue : Dialogue) : Held [] dialogue dialogue [] :=
  ⟨rfl, nofun, rfl, nofun, .nil, by simp⟩

theorem Held.cons {prompts : List String} {before next after : Dialogue} {turn : Turn}
    {turns : List Turn} (hturn : Taken turn before.input next.input)
    (hshown : next.shown = before.shown ++ turn.shown) (hturns : Held prompts next after turns) :
    Held (turn.prompt :: prompts) before after (turn :: turns) where
  prompts := by rw [List.map_cons, hturns.prompts]
  fair := List.forall_mem_cons.2 ⟨hturn.fair, hturns.fair⟩
  lines := by rw [hturn.lines, hturns.lines, List.flatMap_cons, List.append_assoc]
  ended := by
    refine List.forall_mem_cons.2 ⟨fun hnone => ?_, hturns.ended⟩
    have hlines := hturns.lines
    rw [hturn.ended hnone] at hlines
    have hafter := (List.append_eq_nil_iff.1 hlines.symm).2
    rw [← (cutInLines_linesOf after.input).flatten, hafter]
    rfl
  later := by
    refine List.pairwise_cons.2 ⟨fun later hmem hnone => ?_, hturns.later⟩
    have hlines := hturns.lines
    rw [hturn.ended hnone] at hlines
    have hnil := (List.append_eq_nil_iff.1 hlines.symm).1
    exact List.flatMap_eq_nil_iff.1 hnil later hmem
  shown := by
    rw [hturns.shown, hshown, List.map_cons, String.join_cons, String.append_assoc]

/-- Every list of prompts comes to its end, and what becomes of it can be read off the lines of the
input: the answers are what the deciding lines say, then nothing but to cancel, and each prompt has
the lines behind those of the prompt before it. -/
theorem confirmer_turns (prompts : List String) (dialogue : Dialogue) :
    CutInLines dialogue.input (linesOf dialogue.input) ∧
      (∀ line decision, decision? line = some decision ↔ Decides line decision) ∧
      ∃ answers after turns,
        (prompts.mapM Dialogue.confirmer).run dialogue = (answers, after) ∧
        answers.map Logged.value =
          ((linesOf dialogue.input).filterMap decision?).takeD prompts.length .cancel ∧
        answers.map Logged.value = turns.map Turn.answer ∧
        Held prompts dialogue after turns := by
  refine ⟨cutInLines_linesOf _, fun _ _ => decision?_eq_some, ?_⟩
  induction prompts generalizing dialogue with
  | nil => exact ⟨[], dialogue, [], rfl, by simp, rfl, .nil dialogue⟩
  | cons prompt prompts ih =>
    obtain ⟨turn, rfl, hturn, hanswer, hshown⟩ := ask_taken prompt dialogue.input
    let next : Dialogue := ⟨(ask turn.prompt dialogue.input).2.2,
      dialogue.shown ++ (ask turn.prompt dialogue.input).2.1⟩
    obtain ⟨answers, after, turns, hrun, hvalues, hturns, hheld⟩ := ih next
    have hnext : Taken turn dialogue.input next.input := hturn
    have hshown' : next.shown = dialogue.shown ++ turn.shown := by rw [hshown]
    refine ⟨(ask turn.prompt dialogue.input).1 :: answers, after, turn :: turns, ?_, ?_, ?_,
      .cons hnext hshown' hheld⟩
    · rw [List.mapM_cons]
      show (do let answers ← prompts.mapM Dialogue.confirmer; pure (_ :: answers)).run next = _
      rw [StateT.run_bind, hrun]
      rfl
    · obtain ⟨hfirst, hlater⟩ := hturn.decisions_eq
      rw [List.map_cons, List.length_cons, List.takeD_succ, hvalues, ← hanswer, hfirst]
      exact congrArg (_ :: List.takeD _ · _) hlater
    · rw [List.map_cons, List.map_cons, hturns, hanswer]

end Dialogue

end StructSync
