import SchemaReport.Environment
import SchemaReport.Logged

/-! References to environment variables. A setting may contain references: a dollar sign
and, in braces, the name of a variable, perhaps followed by a colon, a minus sign and a
default. A text is cut into references and single characters once, from left to right, so
what a reference is replaced by is never read again. -/
namespace SchemaReport

/-- A reference to a variable, with what to use when the variable is not set. -/
structure Reference where
  name : List Char
  default : Option (List Char)
  deriving DecidableEq, Repr

/-- A piece of a text with references in it. -/
inductive Segment
  | plain (c : Char)
  | reference (r : Reference)
  deriving DecidableEq, Repr

namespace Expansion

/-- Whether a character may stand in the name of a variable. -/
def inName (c : Char) : Bool := c != '\x7d' && c != ':'

/-- Whether a character may stand in a default. -/
def inDefault (c : Char) : Bool := c != '\x7d'

/-- The rest of a reference after its name, and how many characters that is. -/
def ending? (name : List Char) : List Char → Option (Reference × Nat)
  | '\x7d' :: _ => some (⟨name, none⟩, 1)
  | ':' :: '-' :: rest =>
    let value := rest.takeWhile inDefault
    if value.length < rest.length then some (⟨name, some value⟩, value.length + 3) else none
  | _ => none

/-- The reference that begins with a character, and how many of the following characters
belong to it. -/
def reference? (c : Char) (rest : List Char) : Option (Reference × Nat) :=
  if c = '$' ∧ rest.head? = some '\x7b' then
    let name := rest.tail.takeWhile inName
    if name = [] then none
    else (ending? name (rest.tail.drop name.length)).map fun (r, n) => (r, name.length + n + 1)
  else none

/-- The segments of a text. -/
def segments : List Char → List Segment
  | [] => []
  | c :: rest =>
    match reference? c rest with
    | some (r, n) => .reference r :: segments (rest.drop n)
    | none => .plain c :: segments rest
termination_by text => text.length
decreasing_by all_goals simp only [List.length_drop, List.length_cons]; omega

/-- What a reference stands for. -/
def resolve? (env : Environment) (r : Reference) : Option String :=
  match env.text? (String.ofList r.name), r.default with
  | some value, _ => some value
  | none, some value => some (String.ofList value)
  | none, none => none

/-- What looking up a reference logs. -/
def lookupEvents (env : Environment) (r : Reference) : List Event :=
  let name := String.ofList r.name
  match env.text? name, r.default with
  | some _, _ => [.plain .trace s!"Resolved environment variable: {name}"]
  | none, some value =>
    [.plain .warn
      s!"Environment variable {name} not set, using default: {String.ofList value}"]
  | none, none => []

/-- The text of a segment. A reference that stands for nothing has none. -/
def segmentText (env : Environment) : Segment → List Char
  | .plain c => [c]
  | .reference r => ((resolve? env r).getD "").toList

def segmentEvents (env : Environment) : Segment → List Event
  | .plain _ => []
  | .reference r => lookupEvents env r

/-- The name of a segment's variable, if the segment stands for nothing. -/
def unresolved? (env : Environment) : Segment → Option String
  | .plain _ => none
  | .reference r =>
    match resolve? env r with
    | some _ => none
    | none => some (String.ofList r.name)

/-- The variable a text cannot do without: the first that stands for nothing. -/
def missing? (env : Environment) (text : String) : Option String :=
  (segments text.toList).findSome? (unresolved? env)

/-- The text with its references replaced. All of them are looked up before a missing one
is complained about. -/
def expand (env : Environment) (text : String) : Logged String :=
  let looked := (segments text.toList).flatMap (segmentEvents env)
  match missing? env text with
  | some name =>
    { events := looked ++
        [.plain .error s!"Environment variable {name} not set and no default provided"]
      result := .error (.variableNotSet name) }
  | none =>
    { events := looked
      result := .ok (String.ofList ((segments text.toList).flatMap (segmentText env))) }

example : segments "$\x7bA\x7d".toList = [.reference ⟨['A'], none⟩] := by cbv
example : segments "$\x7bA:-\x7dx".toList = [.reference ⟨['A'], some []⟩, .plain 'x'] := by
  cbv
example : segments "$\x7b\x7d".toList = [.plain '$', .plain '\x7b', .plain '\x7d'] := by
  cbv

end Expansion
end SchemaReport
