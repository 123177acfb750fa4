import SchemaReport.Schema.Keyword
import SchemaReport.Schema.Line
import SchemaReport.Schema.Value

/-! Telling directives from everything else. The key, the text before the first colon, has
to be a keyword exactly, so that prose that merely mentions one is left alone. A line
without a colon is an error only when it is a single word glued to a keyword, which is a
directive that lost its colon; every other line carries nothing. -/
namespace SchemaReport.Schema
open Text

/-- Whether a line starts with a list marker, and the line without it. -/
def splitMarker : List Char → Bool × List Char
  | '-' :: rest => (true, rest)
  | line => (false, line)

/-- Whether a line without a colon, as written, is a directive that lost it: one bare word
that starts with a keyword. -/
def lostColon (raw : List Char) : Bool :=
  let (marked, rest) := splitMarker (strip isInvisible raw)
  let word := if marked then rest.dropWhile isBlank else rest
  !word.isEmpty && !word.any isBlank &&
    Keyword.all.any fun k => k.word.toList.isPrefixOf word && k.allowed marked

/-- The keyword of a line, given its canonical form and the line as written. -/
def keywordOf (text raw : List Char) : Except ValueError (Option Keyword) :=
  let (marked, body) := splitMarker text
  match splitOnce ':' body with
  | some (key, _) => .ok (Keyword.ofKey? marked key)
  | none => if lostColon raw then .error .malformedLine else .ok none

/-- The keyword of a line as written. -/
def classify (raw : List Char) : Except ValueError (Option Keyword) :=
  keywordOf (canonical raw) raw

def Line.keyword (line : Line) : Except ValueError (Option Keyword) :=
  keywordOf line.text line.raw.toList

theorem Line.keyword_eq_classify (line : Line) : line.keyword = classify line.raw.toList := rfl

end SchemaReport.Schema
