import SchemaReport.Column
import SchemaReport.Json.Printer
import SchemaReport.Json.Reader

/-! Tables as JSON documents. A table is an object with a member for each of its fields in
their order, and so is a column. Reading is a little more liberal than writing: members may
come in any order and others may stand among them, a record may also be the array of its
fields, and a kind of column may also be an object with the kind as its only key. -/
namespace SchemaReport.Json

/-! ### Writing -/

/-- A text as a string. -/
def ofText (text : String) : Json := .string (quote text.toList)

/-- A record with the given fields. -/
def record (fields : List (String × Json)) : Json :=
  .object (fields.map fun (name, value) => (quote name.toList, value))

def ofColumn (c : Column) : Json :=
  record
    [("chinese_name", ofText c.chineseName), ("column_type", ofText c.columnType.label),
      ("length", ofText c.length.text), ("fixed_length", .bool c.fixedLength),
      ("nullable", .bool c.nullable), ("struct_name", ofText c.structName),
      ("json_name", ofText c.jsonName)]

def ofTable (t : Table) : Json :=
  record
    [("source_name", ofText t.sourceName), ("struct_name", ofText t.structName),
      ("json_name", ofText t.jsonName), ("description", ofText t.description),
      ("columns", .array (t.columns.map ofColumn)), ("primary_keys", ofText t.primaryKeys)]

/-- The text of a table: its document, written with indentation. -/
def tableText (t : Table) : String := String.ofList (pretty 0 (ofTable t))

/-! ### Reading -/

/-- The text of a string. -/
def asText? : Json → Option String
  | .string body => (unquote? body).map String.ofList
  | _ => none

def asBool? : Json → Option Bool
  | .bool value => some value
  | _ => none

def asArray? : Json → Option (List Json)
  | .array items => some items
  | _ => none

/-- The members of an object with their keys read. -/
def readKeys : List (List Char × Json) → Option (List (String × Json))
  | [] => some []
  | (key, value) :: members => do
    let key ← unquote? key
    let members ← readKeys members
    return (String.ofList key, value) :: members

/-- The values the given fields have in a record, in the order of the fields. A field that
is missing or repeated makes the record unreadable. -/
def fieldsOf? (names : List String) : Json → Option (List Json)
  | .array items => if items.length = names.length then some items else none
  | .object members => do
    let members ← readKeys members
    names.mapM fun name =>
      match members.filter fun member => member.1 == name with
      | [(_, value)] => some value
      | _ => none
  | _ => none

/-- The kind of column a name stands for. -/
def columnTypeOfLabel? (label : String) : Option ColumnType :=
  if label = "string" then some .string
  else if label = "int" then some .int
  else if label = "float" then some .float
  else none

def toColumnType? : Json → Option ColumnType
  | .string body => (asText? (.string body)).bind columnTypeOfLabel?
  | .object [(key, .null)] => (asText? (.string key)).bind columnTypeOfLabel?
  | _ => none

def toColumn? (document : Json) : Option Column := do
  match ← fieldsOf? ["chinese_name", "column_type", "length", "fixed_length", "nullable",
      "struct_name", "json_name"] document with
  | [chineseName, columnType, length, fixedLength, nullable, structName, jsonName] =>
    return ⟨← asText? chineseName, ← toColumnType? columnType, ⟨← asText? length⟩,
      ← asBool? fixedLength, ← asBool? nullable, ← asText? structName, ← asText? jsonName⟩
  | _ => none

def toTable? (document : Json) : Option Table := do
  match ← fieldsOf? ["source_name", "struct_name", "json_name", "description", "columns",
      "primary_keys"] document with
  | [sourceName, structName, jsonName, description, columns, primaryKeys] =>
    return ⟨← asText? sourceName, ← asText? structName, ← asText? jsonName,
      ← asText? description, ← (← asArray? columns).mapM toColumn?, ← asText? primaryKeys⟩
  | _ => none

/-- The table a text describes. -/
def tableOfText? (text : String) : Option Table := (parse? text.toList).bind toTable?

end SchemaReport.Json
