import SchemaReport.Text.Case
import SchemaReport.Text.Characters

/-! The spellings of a name in generated code. A schema name consists of segments joined by
underscores; a type or a field is spelled with every segment capitalised, a key with every
segment but the first. Only the first character of a segment changes. -/
namespace SchemaReport.Naming
open Text

/-- The segments of a name: what stands between underscores. Neighbouring underscores have
an empty segment between them. -/
def segments : List Char → List (List Char)
  | [] => [[]]
  | '_' :: rest => [] :: segments rest
  | c :: rest =>
    match segments rest with
    | [] => [[c]]
    | first :: others => (c :: first) :: others

/-- A segment with its first character in upper case. -/
def capitalize : List Char → List Char
  | [] => []
  | c :: rest => upper c ++ rest

/-- A name without the underscores at either end. -/
def trimmed (name : List Char) : List Char := strip (· == '_') name

/-- The spelling with every segment capitalised. -/
def pascal (name : List Char) : List Char := (segments (trimmed name)).flatMap capitalize

/-- The spelling with every segment but the first capitalised. -/
def camel (name : List Char) : List Char :=
  match segments (trimmed name) with
  | [] => []
  | first :: others => first ++ others.flatMap capitalize

/-- The field and type spelling of a name. -/
def structName (name : String) : String := String.ofList (pascal name.toList)

/-- The key spelling of a name. -/
def jsonName (name : String) : String := String.ofList (camel name.toList)

end SchemaReport.Naming
