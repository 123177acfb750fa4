import SchemaReport.Json.Document

/-! What a settings text says, whatever notation it is written in. Settings hold no
numbers and no dates, so of these a document keeps just enough to tell that they stand
where something else belongs. -/
namespace SchemaReport

inductive Document
  | null
  | truth (value : Bool)
  | text (value : String)
  /-- A number. One that does not fit any numeric type is an error even where nobody asks
  for its value. -/
  | number (fits : Bool)
  /-- A date, a time of day, or both. -/
  | moment
  | list (items : List Document)
  /-- A table; its keys are all different. -/
  | table (members : List (String × Document))

namespace Document

mutual

/-- Whether all the numbers of a document fit. -/
def readable : Document → Bool
  | .number fits => fits
  | .list items => readableItems items
  | .table members => readableMembers members
  | .null | .truth _ | .text _ | .moment => true

def readableItems : List Document → Bool
  | [] => true
  | item :: items => item.readable && readableItems items

def readableMembers : List (String × Document) → Bool
  | [] => true
  | (_, value) :: members => value.readable && readableMembers members

end

/-- The notations of settings differ in what they make of a record written as a list that
is too long, and in how a choice is written as the only key of a table. -/
structure Dialect where
  /-- Whether items beyond the last field are passed over. -/
  surplus : Bool
  /-- Whether a value says nothing beyond the key it belongs to. -/
  isBare : Document → Bool

/-- A list has no items to spare, and `null` says nothing. -/
def Dialect.json : Dialect where
  surplus := false
  isBare
    | .null => true
    | _ => false

/-- Items to spare are passed over, and an empty list or table says nothing. -/
def Dialect.toml : Dialect where
  surplus := true
  isBare
    | .list [] | .table [] => true
    | _ => false

/-! ### Reading -/

def text? : Document → Option String
  | .text value => some value
  | _ => none

def truth? : Document → Option Bool
  | .truth value => some value
  | _ => none

def texts? : Document → Option (List String)
  | .list items => items.mapM text?
  | _ => none

/-- What the document says about each of the named fields, in their order. Fields may be
left out; other members of a table are passed over. A list holds the first fields in
order, and a date stands for a record that leaves all of them out. -/
def fields? (dialect : Dialect) (names : List String) : Document → Option (List (Option Document))
  | .table members =>
    if members.all fun (key, value) => names.contains key || value.readable then
      some (names.map fun name => members.lookup name)
    else none
  | .list items =>
    if items.length ≤ names.length || dialect.surplus then
      some ((List.range names.length).map fun index => items[index]?)
    else none
  | .moment => some (names.map fun _ => none)
  | _ => none

/-- The value of a field, or its default when the field was left out. -/
def withDefault (default : α) (read : Document → Option α) : Option Document → Option α
  | none => some default
  | some value => read value

mutual

/-- The document a JSON text stands for. -/
def ofJson? : Json → Option Document
  | .null => some .null
  | .bool value => some (.truth value)
  | .number _ => some (.number true)
  | .string body => (Json.unquote? body).map fun text => .text (String.ofList text)
  | .array items => (ofItems? items).map .list
  | .object members => (ofMembers? members).map .table

def ofItems? : List Json → Option (List Document)
  | [] => some []
  | item :: items => do
    let first ← ofJson? item
    let others ← ofItems? items
    return first :: others

def ofMembers? : List (List Char × Json) → Option (List (String × Document))
  | [] => some []
  | (key, value) :: members => do
    let key ← Json.unquote? key
    let value ← ofJson? value
    let others ← ofMembers? members
    return (String.ofList key, value) :: others

end

end Document
end SchemaReport
