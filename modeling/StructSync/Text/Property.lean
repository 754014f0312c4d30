import StructSync.Text.Casing
import StructSync.Text.Property.Age
import StructSync.Text.Property.Binary
import StructSync.Text.Property.Category
import StructSync.Text.Property.Script
import StructSync.Text.Property.ScriptExtension
import StructSync.Text.Property.Segmentation

/-!
# Properties of characters by name

A name alone stands for a yes-or-no property, a general category or a script; a name with a value
for the characters whose property has that value. Names are loose: case, spaces, hyphens and
underscores do not count, and neither does `is` at the front.
-/

namespace StructSync

/-- Why a property stands for no set. -/
inductive PropertyFault where
  | unknownProperty
  | unknownValue
deriving DecidableEq

/-- What names a set of characters. -/
inductive PropertyQuery where
  | name (name : String)
  | value (name value : String)
deriving DecidableEq

namespace CharSet

/-- The name without what does not count in it. The name `isc` is not `c` with `is` before it. -/
def looseName (name : String) : String :=
  let (startsWithIs, rest) := match name.toList with
    | 'i' :: 's' :: rest | 'i' :: 'S' :: rest | 'I' :: 's' :: rest | 'I' :: 'S' :: rest =>
      (true, rest)
    | cs => (false, cs)
  let kept := rest.filter fun c => c.toNat < 0x80 && c != ' ' && c != '_' && c != '-'
  let loose := kept.map Char.toLower
  if startsWithIs && loose == ['c'] then "isc" else String.ofList loose

/-- The set, unless it has no characters at all. -/
def found (set : CharSet) : Except PropertyFault CharSet :=
  if set.isEmpty then .error .unknownValue else .ok set

/-- The set of a value, if there is one. -/
def foundValue (set? : Option CharSet) : Except PropertyFault CharSet :=
  match set? with
  | some set => found set
  | none => .error .unknownValue

/-- The set that a loose name alone stands for. Three names that are also short for properties
stand for categories. -/
def named (name : String) : Except PropertyFault CharSet :=
  let isProperty := name != "cf" && name != "sc" && name != "lc"
  match if isProperty then binary? name else none with
  | some set => .ok set
  | none =>
    if isProperty && otherPropertyNames.contains name then .error .unknownProperty
    else
      match category? name with
      | some set => found set
      | none =>
        match script? name with
        | some set => found set
        | none => .error .unknownProperty

/-- The set that a loose name and a loose value stand for. -/
def valued (name value : String) : Except PropertyFault CharSet :=
  match name with
  | "gc" | "generalcategory" => foundValue (category? value)
  | "sc" | "script" => foundValue (script? value)
  | "scx" | "scriptextensions" => foundValue (scriptExtension? value)
  | "age" => foundValue (age? value)
  | "gcb" | "graphemeclusterbreak" => foundValue (clusterPart? value)
  | "wb" | "wordbreak" => foundValue (wordPart? value)
  | "sb" | "sentencebreak" => foundValue (sentencePart? value)
  | _ =>
    if (binary? name).isSome || otherPropertyNames.contains name then .error .unknownValue
    else .error .unknownProperty

/-- The characters that a query asks for. -/
def ofQuery : PropertyQuery → Except PropertyFault CharSet
  | .name name => named (looseName name)
  | .value name value => valued (looseName name) (looseName value)

end CharSet

end StructSync
