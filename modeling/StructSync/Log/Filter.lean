import StructSync.Log
import StructSync.Pattern

/-!
# Log filters

A filter is written as directives with commas between them: a level for everything, the start of a
path for everything below it, or both with `=` between them. Of the directives that fit a record
the one with the longest path decides, of several the last. Behind a `/` there may be a pattern
that must occur in every message shown.
-/

namespace StructSync

/-- A threshold for the records of the paths that start with a text, or for all records. -/
structure Directive where
  path? : Option String
  threshold : Threshold
deriving DecidableEq

namespace Directive

/-- Is the directive about records of that path? -/
def fits (d : Directive) (path : String) : Bool :=
  d.path?.all fun start => start.toList.isPrefixOf path.toList

/-- How much of a path the directive names. -/
def length (d : Directive) : Nat := (d.path?.map String.length).getD 0

end Directive

structure LogFilter where
  directives : List Directive
  pattern : Option Pattern
deriving DecidableEq

namespace LogFilter

/-- The threshold of that name. -/
def threshold? (name : String) : Option Threshold :=
  match name.toList.map Char.toLower with
  | ['o', 'f', 'f'] => some .off
  | ['e', 'r', 'r', 'o', 'r'] => some (.upTo .error)
  | ['w', 'a', 'r', 'n'] => some (.upTo .warn)
  | ['i', 'n', 'f', 'o'] => some (.upTo .info)
  | ['d', 'e', 'b', 'u', 'g'] => some (.upTo .debug)
  | ['t', 'r', 'a', 'c', 'e'] => some (.upTo .trace)
  | _ => none

/-- Lets everything through. -/
def everything : Threshold := .upTo .trace

def trimmed (s : String) : String := String.ofList (Text.trim s.toList)

/-- The directive that the text writes, or the part of it that makes no sense. -/
def directive (text : String) : Except String Directive :=
  match text.splitOn "=" with
  | [part] =>
    match threshold? part with
    | some threshold => .ok ⟨none, threshold⟩
    | none => .ok ⟨some part, everything⟩
  | [path, level] =>
    let level := trimmed level
    if level.isEmpty then .ok ⟨some path, everything⟩
    else
      match threshold? level with
      | some threshold => .ok ⟨some path, threshold⟩
      | none => .error level
  | _ => .error text

/-- The directives with one more, in place of one for the same path. -/
def insert (new : Directive) : List Directive → List Directive
  | [] => [new]
  | d :: rest => if d.path? = new.path? then new :: rest else d :: insert new rest

/-- What is said about a part that is left out. -/
def warning (what part : String) : String :=
  "warning: invalid " ++ what ++ part ++ ", ignoring it"

/-- The directives that the text writes, and what is to be said about the parts left out. -/
def parseDirectives (text : String) : List Directive × List String :=
  ((text.splitOn ",").map trimmed).foldl (fun (directives, warnings) part =>
    if part.isEmpty then (directives, warnings)
    else
      match directive part with
      | .ok d => (insert d directives, warnings)
      | .error part =>
        (directives, warnings ++ [warning "logging spec " ("'" ++ part ++ "'")])) ([], [])

/-- The filter that the text writes, and what is to be said about the parts left out. -/
def parse (text : String) : LogFilter × List String :=
  match text.splitOn "/" with
  | [parts] =>
    let (directives, warnings) := parseDirectives parts
    (⟨directives, none⟩, warnings)
  | [parts, pattern] =>
    let (directives, warnings) := parseDirectives parts
    match Pattern.ofText pattern with
    | .ok pattern => (⟨directives, some pattern⟩, warnings)
    | .error told => (⟨directives, none⟩, warnings ++ [warning "regex filter - " told])
  | _ => (⟨[], none⟩, [warning "logging spec " ("'" ++ text ++ "' (too many '/'s)")])

/-- The threshold for a path: that of the longest directive that fits, or errors only if there is
no directive at all. -/
def thresholdFor (f : LogFilter) (path : String) : Threshold :=
  if f.directives.isEmpty then .upTo .error
  else
    let longest := (f.directives.filter (·.fits path)).foldl (fun (best : Option Directive) d =>
      match best with
      | some b => if d.length < b.length then some b else some d
      | none => some d) none
    (longest.map (·.threshold)).getD .off

/-- Is the record shown? -/
def allows (f : LogFilter) (r : LogRecord) : Bool :=
  (f.thresholdFor r.origin.path).allows r.level
    && f.pattern.all fun pattern => pattern.occursIn r.message

end LogFilter

end StructSync
