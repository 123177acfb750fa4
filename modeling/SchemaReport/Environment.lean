import SchemaReport.Text.Utf8

/-! Environment variables. A value is a run of bytes; where a text is asked for, a variable
whose value is none counts as not set. -/
namespace SchemaReport
open Text

/-- The variables that are set, each once. -/
structure Environment where
  entries : List (String × Bytes)
  deriving DecidableEq, Repr

namespace Environment

def empty : Environment := ⟨[]⟩

/-- The value of a variable. -/
def value? (env : Environment) (name : String) : Option Bytes := env.entries.lookup name

/-- The value of a variable, as a text. -/
def text? (env : Environment) (name : String) : Option String := (env.value? name).bind Text.text?

/-- The environment with a variable set. -/
def set (env : Environment) (name : String) (value : Bytes) : Environment :=
  ⟨(name, value) :: env.entries.filter fun entry => entry.1 != name⟩

/-- The environment in which a variable has a value, unless it had one that is a text. -/
def setMissing (env : Environment) (name value : String) : Environment :=
  match env.text? name with
  | some _ => env
  | none => env.set name (bytesOf value)

end Environment
end SchemaReport
