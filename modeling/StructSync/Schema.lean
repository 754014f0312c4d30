import StructSync.Host
import StructSync.Json.Fields
import StructSync.Json.Writer

/-!
# Schemas

A schema declares structs by name, each with its fields in order. A field names its type; it may
leave out its name if it gives its offset, and its offset if it follows the fields before it.
`Schema.load` reads a schema from JSON and refuses keys it does not know, blank names and names
declared twice.
-/

namespace StructSync

open Json (Decoder Shape Slot need)

/-- A declared field. -/
structure Field where
  name : Option String
  offset : Option UInt64
  type : Option String
deriving DecidableEq

namespace Field

/-- A field that follows the ones before it. -/
def named (name type : String) : Field := ⟨some name, none, some type⟩

/-- A field without a name at an offset. -/
def atOffset (offset : UInt64) (type : String) : Field := ⟨none, some offset, some type⟩

/-- The field moved to an offset. -/
def withOffset (field : Field) (offset : UInt64) : Field := { field with offset := some offset }

/-- An optional value with its name around it. -/
def optionText : Option String → String
  | some text => "Some(" ++ text ++ ")"
  | none => "None"

/-- All that the field says, for the log. -/
def description (field : Field) : String :=
  "FieldSpec \x7b name: " ++ optionText (field.name.map Text.quoted)
    ++ ", offset: " ++ optionText (field.offset.map fun o => toString o.toNat)
    ++ ", ctype: " ++ optionText (field.type.map Text.quoted) ++ " \x7d"

/-- The field with the keys it has. -/
def json (field : Field) : Json :=
  .object ((field.name.toList.map fun name => ("name", Json.string name))
    ++ (field.offset.toList.map fun offset => ("offset", Json.number offset.toNat))
    ++ (field.type.toList.map fun type => ("ctype", Json.string type)))

end Field

structure StructSchema where
  name : String
  fields : List Field
deriving DecidableEq

def StructSchema.json (s : StructSchema) : Json :=
  .object [("name", .string s.name), ("fields", .array (s.fields.map Field.json))]

/-- Structs in the order they are declared. -/
structure Schema where
  structs : List StructSchema
deriving DecidableEq

/-- Why a schema cannot be used. -/
inductive SchemaError where
  | file (path : String) (fault : FileFault)
  | format (fault : Json.Error)
  | blankName
  | declaredTwice (name : String)
deriving DecidableEq

def SchemaError.message : SchemaError → String
  | file path fault => path ++ ": " ++ fault.message
  | format fault => fault.summary
  | blankName => "structure with an empty name"
  | declaredTwice name => "structure '" ++ name ++ "' declared twice"

/-! ### Reading -/

/-- The parts of a field read so far. -/
structure FieldParts where
  name : Option (Option String)
  offset : Option (Option UInt64)
  type : Option (Option String)

def Field.shape : Shape FieldParts Field where
  name := "struct FieldSpec"
  slots := [
    (Slot.field "name" (·.name) ({ · with name := some · }) (Decoder.optional .text)).trailing,
    (Slot.field "offset" (·.offset) ({ · with offset := some · })
      (Decoder.optional .word)).trailing,
    (Slot.field "ctype" (·.type) ({ · with type := some · }) (Decoder.optional .text)).trailing]
  isStrict := true
  start := ⟨none, none, none⟩
  finish parts := .ok ⟨parts.name.join, parts.offset.join, parts.type.join⟩

/-- The parts of a struct's schema read so far. -/
structure StructSchemaParts where
  name : Option String
  fields : Option (List Field)

def StructSchema.shape : Shape StructSchemaParts StructSchema where
  name := "struct StructSchema"
  slots := [
    .field "name" (·.name) ({ · with name := some · }) .text,
    .field "fields" (·.fields) ({ · with fields := some · }) (.list Field.shape.decoder)]
  isStrict := true
  start := ⟨none, none⟩
  finish parts := do
    let name ← need "name" parts.name
    let fields ← need "fields" parts.fields
    .ok { name, fields }

def Schema.shape : Shape (Option (List StructSchema)) Schema where
  name := "struct SchemaFile"
  slots := [.field "structs" id (fun _ => some) (.list StructSchema.shape.decoder)]
  isStrict := true
  start := none
  finish parts := do
    let structs ← need "structs" parts
    .ok { structs }

namespace Schema

def json (schema : Schema) : Json :=
  .object [("structs", .array (schema.structs.map StructSchema.json))]

/-- The first struct whose name is blank or was declared before. -/
def nameFault? (seen : List String) : List StructSchema → Option SchemaError
  | [] => none
  | s :: rest =>
    if Text.isBlankText s.name then some .blankName
    else if seen.contains s.name then some (.declaredTwice s.name)
    else nameFault? (s.name :: seen) rest

/-- The schema that the text holds. -/
def load (text : String) : Except SchemaError Schema :=
  match Json.decode Schema.shape.decoder text with
  | .error e => .error (.format e)
  | .ok schema =>
    match nameFault? [] schema.structs with
    | some fault => .error fault
    | none => .ok schema

def get? (schema : Schema) (name : String) : Option StructSchema :=
  schema.structs.find? (·.name == name)

end Schema

end StructSync
