import SchemaReport.Text.Quoted
import SchemaReport.Text.Search

/-! The value of a directive: what follows the first colon of a canonical line, cut at the
first comma, or at the next colon when no comma follows. Whatever comes after the cut is a
comment. -/
namespace SchemaReport.Schema
open Text

/-- Why a line yields no value. -/
inductive ValueError
  | malformedLine
  | emptyValue
  | invalidValue (delimiter : Char)
  deriving DecidableEq

def ValueError.message : ValueError → String
  | malformedLine => "directive has no ':' delimiter"
  | emptyValue => "directive value is empty"
  | invalidValue delimiter => s!"directive value {quoteChar delimiter} is not a usable value"

/-- The candidate cut at the delimiter that ends it: a comma if there is one, else a colon. -/
def cutValue (candidate : List Char) : List Char :=
  match splitOnce ',' candidate with
  | some (value, _) => value
  | none => match splitOnce ':' candidate with
    | some (value, _) => value
    | none => candidate

/-- The value of a canonical line. A candidate that is nothing but a delimiter is refused. -/
def extractValue (line : List Char) : Except ValueError (List Char) :=
  match splitOnce ':' line with
  | none => .error .malformedLine
  | some (_, []) => .error .emptyValue
  | some (_, [',']) => .error (.invalidValue ',')
  | some (_, [':']) => .error (.invalidValue ':')
  | some (_, candidate) => .ok (cutValue candidate)

end SchemaReport.Schema
