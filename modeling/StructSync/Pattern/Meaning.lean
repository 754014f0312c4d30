import StructSync.Pattern.Expression
import StructSync.Pattern.Problem
import StructSync.Pattern.Tree
import StructSync.Text.Casing

/-!
# What patterns mean

`Tree.meaning?` takes a pattern as it is written to what it looks for. The meaning of a part hangs
on the flags before it. Where text is not taken as Unicode, classes hold single bytes; since only
whole characters are looked for, they must then stay within ASCII, which no class of all other
bytes does.
-/

namespace StructSync.Pattern

/-- The flags that matter to the meaning. -/
structure Mode where
  isCaseless : Bool
  isMultiline : Bool
  dotIsAll : Bool
  isUnicode : Bool
  isCrlf : Bool
deriving DecidableEq

namespace Mode

/-- The mode that patterns start in. -/
def initial : Mode := ⟨false, false, false, true, false⟩

def change (mode : Mode) (flag : Flag) (isOn : Bool) : Mode :=
  match flag with
  | .caseless => { mode with isCaseless := isOn }
  | .multiline => { mode with isMultiline := isOn }
  | .dotAll => { mode with dotIsAll := isOn }
  | .unicode => { mode with isUnicode := isOn }
  | .crlf => { mode with isCrlf := isOn }
  | .swapGreed | .loose => mode

def changeAll (mode : Mode) (changes : FlagChanges) : Mode :=
  changes.foldl (fun mode (flag, isOn) => mode.change flag isOn) mode

def wordKind (mode : Mode) : WordKind := if mode.isUnicode then .all else .ascii

def lineEnd (mode : Mode) : LineEnd := if mode.isCrlf then .carriageReturn else .lineFeed

/-- The set with the other case of its characters, if case does not count. -/
def fold (mode : Mode) (set : CharSet) : CharSet :=
  if !mode.isCaseless then set
  else if mode.isUnicode then set.foldCase
  else set.foldAsciiCase

/-- The set or all other characters. -/
def orOthers (mode : Mode) (span : Span) (isNegated : Bool) (set : CharSet) :
    Except Problem CharSet :=
  if !isNegated then .ok set
  else if mode.isUnicode then .ok set.complement
  else .error ⟨.noText, span⟩

end Mode

/-! ### Classes -/

def AsciiClass.set : AsciiClass → CharSet
  | alnum => .ofText "30-39 41-5A 61-7A"
  | alpha => .ofText "41-5A 61-7A"
  | ascii => .ascii
  | blank => .ofText "9 20"
  | cntrl => .ofText "0-1F 7F"
  | digit => .ofText "30-39"
  | graph => .ofText "21-7E"
  | lower => .ofText "61-7A"
  | print => .ofText "20-7E"
  | punct => .ofText "21-2F 3A-40 5B-60 7B-7E"
  | space => .ofText "9-D 20"
  | upper => .ofText "41-5A"
  | word => asciiWord
  | xdigit => .ofText "30-39 41-46 61-66"

def ShortClass.set (isUnicode : Bool) : ShortClass → CharSet
  | digit => if isUnicode then .ofCategories ["nd"] else AsciiClass.digit.set
  | space => if isUnicode then CharSet.listed "space" else AsciiClass.space.set
  | word => if isUnicode then CharSet.word else AsciiClass.word.set

def SetOperator.apply : SetOperator → CharSet → CharSet → CharSet
  | intersection, s, t => s.inter t
  | difference, s, t => s.difference t
  | symmetricDifference, s, t => s.symmetricDifference t

/-- The characters with a property. -/
def propertySet (mode : Mode) (span : Span) (isNegated : Bool) (query : PropertyQuery) :
    Except Problem CharSet :=
  if !mode.isUnicode then .error ⟨.noUnicode, span⟩
  else
    match CharSet.ofQuery query with
    | .error .unknownProperty => .error ⟨.propertyUnknown, span⟩
    | .error .unknownValue => .error ⟨.propertyValueUnknown, span⟩
    | .ok set => mode.orOthers span isNegated (mode.fold set)

/-- A byte above ASCII is no part of a text. -/
def checkByte (mode : Mode) (l : Literal) : Except Problem Unit :=
  if !mode.isUnicode && l.isByte && l.char.toNat > 0x7F then .error ⟨.noText, l.span⟩ else .ok ()

/-- A character that a class holds. -/
def classChar (mode : Mode) (l : Literal) : Except Problem Char := do
  checkByte mode l
  if !mode.isUnicode && l.char.toNat > 0x7F then .error ⟨.noUnicode, l.span⟩ else .ok l.char

mutual

/-- The characters of a class. -/
def ClassTree.set? (mode : Mode) : ClassTree → Except Problem CharSet
  | .empty _ => .ok .empty
  | .literal l => do .ok (.singleton (← classChar mode l))
  | .range _ low high => do .ok (.range (← classChar mode low) (← classChar mode high))
  | .ascii span isNegated kind => mode.orOthers span isNegated (mode.fold kind.set)
  | .short span isNegated kind => mode.orOthers span isNegated (kind.set mode.isUnicode)
  | .property span isNegated query => propertySet mode span isNegated query
  | .brackets span isNegated inside => do
    mode.orOthers span isNegated (mode.fold (← inside.set? mode))
  | .union _ items => ClassTree.unionSet? mode items
  | .operation _ operator left right => do
    let left ← left.set? mode
    let right ← right.set? mode
    .ok (operator.apply (mode.fold left) (mode.fold right))

/-- The characters of several classes. -/
def ClassTree.unionSet? (mode : Mode) : List ClassTree → Except Problem CharSet
  | [] => .ok .empty
  | item :: items => do
    let set ← item.set? mode
    .ok (set.union (← ClassTree.unionSet? mode items))

end

/-! ### Expressions -/

/-- What an assertion asks of a place. -/
def Assertion.condition (mode : Mode) : Assertion → Condition
  | lineStart => if mode.isMultiline then .lineStart mode.lineEnd else .textStart
  | lineEnd => if mode.isMultiline then .lineEnd mode.lineEnd else .textEnd
  | textStart => .textStart
  | textEnd => .textEnd
  | wordBoundary => .wordBoundary mode.wordKind false
  | notWordBoundary => .wordBoundary mode.wordKind true
  | wordStart => .wordStart mode.wordKind
  | wordEnd => .wordEnd mode.wordKind
  | wordStartHalf => .noWordBefore mode.wordKind
  | wordEndHalf => .noWordAfter mode.wordKind

/-- The characters that a dot stands for. -/
def dotSet (mode : Mode) : CharSet :=
  if mode.dotIsAll then .full
  else if mode.isCrlf then (CharSet.ofText "A D").complement
  else (CharSet.singleton '\n').complement

def Primitive.meaning? (mode : Mode) : Primitive → Except Problem Expression
  | .literal l => do
    checkByte mode l
    .ok (.oneOf (mode.fold (.singleton l.char)))
  | .dot span => if mode.isUnicode then .ok (.oneOf (dotSet mode)) else .error ⟨.noText, span⟩
  | .assertion _ kind => .ok (.place (kind.condition mode))
  | .short span isNegated kind => do
    .ok (.oneOf (← mode.orOthers span isNegated (kind.set mode.isUnicode)))
  | .property span isNegated query => do
    .ok (.oneOf (← propertySet mode span isNegated query))

mutual

/-- What a part of a pattern looks for, and the mode behind it. Flags hold to the end of the group
that they stand in, across its branches. -/
def Tree.meaningIn (mode : Mode) : Tree → Except Problem (Expression × Mode)
  | .empty _ => .ok (.empty, mode)
  | .flags _ changes => .ok (.empty, mode.changeAll changes)
  | .primitive p => do .ok (← p.meaning? mode, mode)
  | .brackets span isNegated inside => do
    let set ← mode.orOthers span isNegated (mode.fold (← inside.set? mode))
    .ok (.oneOf set, mode)
  | .repetition _ least most body => do
    let (body, mode) ← body.meaningIn mode
    .ok (.repetition body least most, mode)
  | .group _ isCapturing changes body => do
    let (body, _) ← body.meaningIn (mode.changeAll changes)
    .ok (if isCapturing then .captured body else body, mode)
  | .alternation _ branches => Tree.choiceIn mode branches
  | .sequence _ items => Tree.sequenceIn mode items

/-- One of several branches. -/
def Tree.choiceIn (mode : Mode) : List Tree → Except Problem (Expression × Mode)
  | [] => .ok (.oneOf .empty, mode)
  | [branch] => branch.meaningIn mode
  | branch :: branches => do
    let (first, mode) ← branch.meaningIn mode
    let (others, mode) ← Tree.choiceIn mode branches
    .ok (.choice first others, mode)

/-- All items one behind the other. -/
def Tree.sequenceIn (mode : Mode) : List Tree → Except Problem (Expression × Mode)
  | [] => .ok (.empty, mode)
  | [item] => item.meaningIn mode
  | item :: items => do
    let (first, mode) ← item.meaningIn mode
    let (others, mode) ← Tree.sequenceIn mode items
    .ok (.sequence first others, mode)

end

/-- What a pattern looks for. -/
def Tree.meaning? (tree : Tree) : Except Problem Expression := do
  let (expression, _) ← tree.meaningIn .initial
  .ok expression

end StructSync.Pattern
