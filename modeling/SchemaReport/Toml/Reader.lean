import SchemaReport.Toml.Assembly
import SchemaReport.Toml.Scalar
import SchemaReport.Toml.Token

/-! Reading TOML texts. The tokens drive a machine that is always at some place of a line:
before it, in a key, in a value or after it. While a value is read, the lists and tables
that are open around it wait as frames, eighty at most. -/
namespace SchemaReport.Toml

/-- How deep values may nest. -/
def maxDepth : Nat := 80

/-- A list or a table that is open: its items so far, last first, or its members so far
and the key whose value is being read. -/
inductive Frame
  | list (items : List Document)
  | table (members : Members) (path : List String) (key : String)

/-- What a key is read for. -/
inductive Purpose
  /-- A line that assigns a value. -/
  | line
  /-- The header of a table, or of a table in a list. -/
  | header (item : Bool)
  /-- A member of a table that is open. -/
  | member (members : Members) (frames : List Frame)

/-- Where in a line the machine is. -/
inductive Place
  | lineStart
  /-- Right after the bracket that opens a line. -/
  | headerStart
  /-- Before a part of a key; the parts so far are held last first. -/
  | beforePart (purpose : Purpose) (parts : List String)
  /-- After a part of a key. -/
  | afterPart (purpose : Purpose) (parts : List String)
  /-- Between the two brackets that end the header of a table in a list. -/
  | headerEnd (parts : List String)
  | value (frames : List Frame)
  /-- In a value without quotes. -/
  | word (chars : List Char) (frames : List Frame)
  /-- After a date and a blank, where a time may follow. -/
  | afterDate (chars : List Char) (frames : List Frame)
  | firstItem (frames : List Frame)
  | nextItem (items : List Document) (frames : List Frame)
  | afterItem (items : List Document) (frames : List Frame)
  | nextMember (members : Members) (frames : List Frame)
  | afterMember (members : Members) (frames : List Frame)
  | lineEnd

/-- The machine: the members read so far, the path of the header in force, and the key the
value being read is for. -/
structure Machine where
  root : Members
  header : List String
  target : List String × String
  place : Place

namespace Machine

/-- A machine before its first token. -/
def start : Machine := ⟨[], [], ([], ""), .lineStart⟩

def moved (m : Machine) (place : Place) : Machine := { m with place := place }

/-! ### Keys -/

def isBareKey (chars : List Char) : Bool :=
  !chars.isEmpty && chars.all fun c => c.isAlphanum || c == '_' || c == '-'

/-- The part of a key a token is. -/
def keyPart? : Token → Option String
  | .atom chars => if isBareKey chars then some (String.ofList chars) else none
  | .text value false => some (String.ofList value)
  | _ => none

/-- A key that has been read, given its parts last first: the path before its last part,
and that part. -/
def splitKey : List String → List String × String
  | [] => ([], "")
  | last :: earlier => (earlier.reverse, last)

/-- What a token after a part of a key leads to. -/
def endKey (m : Machine) (parts : List String) : Purpose → Token → Option Machine
  | .line, .equals => some { m with target := splitKey parts, place := .value [] }
  | .header false, .closeBracket =>
    let (path, key) := splitKey parts
    (m.root.openTable path key).map fun root =>
      { m with root := root, header := parts.reverse, place := .lineEnd }
  | .header true, .closeBracket => some (m.moved (.headerEnd parts))
  | .member members frames, .equals =>
    let (path, key) := splitKey parts
    some (m.moved (.value (.table members path key :: frames)))
  | _, _ => none

/-! ### Values -/

/-- What a complete value leads to. -/
def completed (m : Machine) (value : Document) : List Frame → Option Machine
  | [] =>
    (m.root.assignUnder m.header m.target.1 m.target.2 value).map fun root =>
      { m with root := root, place := .lineEnd }
  | .list items :: frames => some (m.moved (.afterItem (value :: items) frames))
  | .table members path key :: frames =>
    (members.assign .header path key value).map fun members =>
      m.moved (.afterMember members frames)

/-- What a token that begins a value leads to. -/
def beginValue (m : Machine) (frames : List Frame) : Token → Option Machine
  | .text value _ => m.completed (.text (String.ofList value)) frames
  | .atom chars => some (m.moved (.word chars frames))
  | .dot => some (m.moved (.word ['.'] frames))
  | .openBracket =>
    if frames.length < maxDepth then some (m.moved (.firstItem frames)) else none
  | .openBrace =>
    if frames.length < maxDepth then some (m.moved (.nextMember [] frames)) else none
  | _ => none

/-- Whether a token lies between the parts of a list or a table and means nothing. -/
def isGap : Token → Bool
  | .blank _ | .newline => true
  | _ => false

/-- A step at a place where no word is being read. -/
def stepOutside (m : Machine) : Place → Token → Option Machine
  | .lineStart, .blank _ | .lineStart, .newline => some m
  | .lineStart, .openBracket => some (m.moved .headerStart)
  | .lineStart, token => (keyPart? token).map fun part => m.moved (.afterPart .line [part])
  | .headerStart, .openBracket => some (m.moved (.beforePart (.header true) []))
  | .headerStart, .blank _ => some (m.moved (.beforePart (.header false) []))
  | .headerStart, token =>
    (keyPart? token).map fun part => m.moved (.afterPart (.header false) [part])
  | .beforePart _ _, .blank _ => some m
  | .beforePart purpose parts, token =>
    (keyPart? token).map fun part => m.moved (.afterPart purpose (part :: parts))
  | .afterPart _ _, .blank _ => some m
  | .afterPart purpose parts, .dot => some (m.moved (.beforePart purpose parts))
  | .afterPart purpose parts, token => m.endKey parts purpose token
  | .headerEnd parts, .closeBracket =>
    let (path, key) := splitKey parts
    (m.root.openItem path key).map fun root =>
      { m with root := root, header := parts.reverse, place := .lineEnd }
  | .headerEnd _, _ => none
  | .value _, .blank _ => some m
  | .value frames, token => m.beginValue frames token
  | .firstItem frames, .closeBracket => m.completed (.list []) frames
  | .firstItem frames, token =>
    if isGap token then some m else m.beginValue (.list [] :: frames) token
  | .nextItem items frames, .closeBracket => m.completed (.list items.reverse) frames
  | .nextItem items frames, token =>
    if isGap token then some m else m.beginValue (.list items :: frames) token
  | .afterItem items frames, .comma => some (m.moved (.nextItem items frames))
  | .afterItem items frames, .closeBracket => m.completed (.list items.reverse) frames
  | .afterItem _ _, token => if isGap token then some m else none
  | .nextMember members frames, .closeBrace =>
    m.completed (.table (memberDocuments members)) frames
  | .nextMember members frames, token =>
    if isGap token then some m
    else (keyPart? token).map fun part => m.moved (.afterPart (.member members frames) [part])
  | .afterMember members frames, .comma => some (m.moved (.nextMember members frames))
  | .afterMember members frames, .closeBrace =>
    m.completed (.table (memberDocuments members)) frames
  | .afterMember _ _, token => if isGap token then some m else none
  | .lineEnd, .blank _ => some m
  | .lineEnd, .newline => some (m.moved .lineStart)
  | .lineEnd, _ => none
  | .word _ _, _ | .afterDate _ _, _ => none

/-- Ends the word that is being read. -/
def endWord (m : Machine) (chars : List Char) (frames : List Frame) : Option Machine :=
  (ofWord? chars).bind fun value => m.completed value frames

/-- One token. A word goes on through atoms and dots, and from a date through a single
blank to a time. -/
def step (m : Machine) (token : Token) : Option Machine :=
  match m.place, token with
  | .word chars frames, .atom more => some (m.moved (.word (chars ++ more) frames))
  | .word chars frames, .dot => some (m.moved (.word (chars ++ ['.']) frames))
  | .word chars frames, .blank [' '] =>
    if isDate chars then some (m.moved (.afterDate chars frames)) else m.endWord chars frames
  | .word chars frames, other => (m.endWord chars frames).bind fun m => m.stepOutside m.place other
  | .afterDate chars frames, .atom more =>
    if (more.head?.map Char.isDigit).getD false then
      some (m.moved (.word (chars ++ ' ' :: more) frames))
    else none
  | .afterDate chars frames, other =>
    (m.endWord chars frames).bind fun m => m.stepOutside m.place other
  | place, other => m.stepOutside place other

/-- The document, if the text may end where the machine is. -/
def finish (m : Machine) : Option Document :=
  let ended := match m.place with
    | .word chars frames | .afterDate chars frames => m.endWord chars frames
    | _ => some m
  ended.bind fun m =>
    match m.place with
    | .lineStart | .lineEnd => some (.table (memberDocuments m.root))
    | _ => none

end Machine

/-- A text without the byte order mark at its start. -/
def withoutMark : List Char → List Char
  | '\uFEFF' :: rest => rest
  | text => text

/-- The document a text is, if it is one. -/
def parse? (text : String) : Option Document := do
  let tokens ← tokens? (withoutMark text.toList)
  (← tokens.foldlM Machine.step Machine.start).finish

end SchemaReport.Toml
