/-! What a run reports about itself. An event has a severity, a message and named fields;
`part` tells which half of the program speaks, the command line or the rest. -/
namespace SchemaReport

/-- Severities, the gravest first. -/
inductive Level
  | error
  | warn
  | info
  | debug
  | trace
  deriving DecidableEq, Repr

namespace Level

def label : Level → String
  | error => "ERROR"
  | warn => "WARN"
  | info => "INFO"
  | debug => "DEBUG"
  | trace => "TRACE"

/-- How talkative a log has to be to include events of this severity. -/
def rank : Level → Nat
  | error => 1
  | warn => 2
  | info => 3
  | debug => 4
  | trace => 5

end Level

/-- The value of a field. -/
inductive FieldValue
  | text (value : String)
  | number (value : Nat)
  deriving DecidableEq, Repr

/-- The halves of the program. -/
inductive Part
  | core
  | commandLine
  deriving DecidableEq, Repr

structure Event where
  level : Level
  message : String
  fields : List (String × FieldValue)
  part : Part
  deriving DecidableEq, Repr

namespace Event

/-- An event of the core without fields. -/
def plain (level : Level) (message : String) : Event := ⟨level, message, [], .core⟩

/-- An event of the command line without fields. -/
def spoken (level : Level) (message : String) : Event := ⟨level, message, [], .commandLine⟩

/-- A field as a line of a log shows it. -/
def fieldText : String × FieldValue → String
  | (name, .text value) => s!" {name}={value}"
  | (name, .number value) => s!" {name}={value}"

/-- The event as a line of a log. -/
def line (e : Event) : String :=
  s!"{e.level.label} {e.message}{String.join (e.fields.map fieldText)}\n"

end Event
end SchemaReport
