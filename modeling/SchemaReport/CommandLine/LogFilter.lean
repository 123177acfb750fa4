import SchemaReport.CommandLine.Invocation
import SchemaReport.Environment
import SchemaReport.Log
import SchemaReport.Text.Alphanumeric
import SchemaReport.Text.Search

/-! Which events a run writes down. A filter is a list of rules: each is about the parts of
the program whose names begin in a certain way, and sets the least grave severity that is
written down for them. The rule with the longest such beginning counts, and of two rules
with the same beginning the later one. -/
namespace SchemaReport
open Text

/-- The name a filter calls a part of the program by. -/
def Part.name : Part → String
  | core => "yamlstruct_core"
  | commandLine => "yamlstruct"

/-- A rule of a filter; without a limit, nothing is written down. -/
structure LogRule where
  target : String
  limit : Option Level
  deriving DecidableEq, Repr

structure LogFilter where
  rules : List LogRule
  deriving DecidableEq, Repr

namespace LogFilter

/-! ### Events -/

def concerns (part : Part) (rule : LogRule) : Bool :=
  rule.target.toList.isPrefixOf part.name.toList

/-- The more particular of two rules, the later one if they are equally so. -/
def narrower (earlier : Option LogRule) (later : LogRule) : Option LogRule :=
  match earlier with
  | some rule => if later.target.length < rule.target.length then some rule else some later
  | none => some later

/-- The rule that counts for a part. -/
def ruleFor (f : LogFilter) (part : Part) : Option LogRule :=
  (f.rules.filter (concerns part)).foldl narrower none

/-- Whether an event is written down. -/
def admits (f : LogFilter) (e : Event) : Bool :=
  ((f.ruleFor e.part).bind LogRule.limit).any fun limit => e.level.rank ≤ limit.rank

/-! ### Texts -/

/-- The severities by their numbers; zero is no severity at all. -/
def limitOfRank? : Nat → Option (Option Level)
  | 0 => some none
  | 1 => some (some .error)
  | 2 => some (some .warn)
  | 3 => some (some .info)
  | 4 => some (some .debug)
  | 5 => some (some .trace)
  | _ => none

/-- The number some digits spell, perhaps after a plus sign. -/
def rank? (text : List Char) : Option Nat :=
  let digits := if text.head? = some '+' then text.tail else text
  if digits ≠ [] ∧ digits.all Char.isDigit then (String.ofList digits).toNat? else none

/-- The severity a text names, in letters of any case or by its number. -/
def limit? (text : List Char) : Option (Option Level) :=
  match rank? text with
  | some n => limitOfRank? n
  | none =>
    let word := String.ofList (text.map Char.toLower)
    if word = "error" then some (some .error)
    else if word = "warn" then some (some .warn)
    else if word = "info" then some (some .info)
    else if word = "debug" then some (some .debug)
    else if word = "trace" then some (some .trace)
    else if word = "off" then some none
    else none

/-- The severity after an equals sign; everything, when nothing is there. -/
def limitAfter? (text : List Char) : Option (Option Level) :=
  if text = [] then some (some .trace) else limit? text

/-- A rule about stretches of a run, of which there are none here: it is read and then
left out. -/
def stretch? (text : List Char) : Option (List LogRule) :=
  match splitOnce ']' text with
  | some (_, []) => some []
  | some (_, '=' :: limit) => (limitAfter? limit).map fun _ => []
  | _ => none

/-- Whether a rule may begin with a character. -/
def startsTarget (c : Char) : Bool := isAlphanumeric c || c == '-' || c == ':' || c == '_'

/-- Whether a character goes on with what a rule is about. -/
def inTarget (c : Char) : Bool := c != '=' && c != '['

/-- The rule a text spells: a severity, or the beginning of names, or both. -/
def rule? (text : List Char) : Option (List LogRule) :=
  if text.head? = some '[' then stretch? text.tail
  else if text.head?.any startsTarget then
    let target := text.takeWhile inTarget
    match text.dropWhile inTarget with
    | [] => match limit? target with
      | some limit => some [⟨"", limit⟩]
      | none => some [⟨String.ofList target, some .trace⟩]
    | '=' :: limit => (limitAfter? limit).map fun limit => [⟨String.ofList target, limit⟩]
    | _ :: rest => stretch? rest
  else none

/-- Only errors are written down. -/
def errors : LogFilter := ⟨[⟨"", some .error⟩]⟩

/-- The filter a text spells: rules with commas between them. -/
def ofText? (text : String) : Option LogFilter :=
  if text = "" then some errors
  else ((parts ',' text.toList).mapM rule?).map fun rules => ⟨rules.flatten⟩

/-- The filter of a run: the environment's, if it has one, or that of the command line. -/
def ofRun (env : Environment) (i : Invocation) : LogFilter :=
  (((env.text? "RUST_LOG").bind ofText?).orElse fun _ => ofText? i.logLevel).getD errors

example : ofText? "warn,yamlstruct_core=Debug" =
    some ⟨[⟨"", some .warn⟩, ⟨"yamlstruct_core", some .debug⟩]⟩ := by decide +kernel
example : ofText? "off" = some ⟨[⟨"", none⟩]⟩ ∧ ofText? "a=b" = none ∧ ofText? "," = none := by
  decide +kernel

end LogFilter
end SchemaReport
