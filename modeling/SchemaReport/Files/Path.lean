import SchemaReport.Text.Quoted
import SchemaReport.Text.Search
import SchemaReport.Text.Utf8

/-! Paths as their users write them. A path is a run of bytes; slashes cut it into pieces,
and a piece that is empty or a single dot names nothing, unless the dot opens the path.
Nothing here looks at files: two paths that differ may lead to the same place. -/
namespace SchemaReport
open Text

/-- A path as written. -/
structure Path where
  bytes : Bytes
  deriving DecidableEq, Repr

namespace Path

def slash : UInt8 := 0x2F

def dot : UInt8 := 0x2E

def ofText (text : String) : Path := ⟨bytesOf text⟩

/-- The path as messages show it. -/
def display (p : Path) : String := lossyText p.bytes

/-- The path between quotes. -/
def quoted (p : Path) : String := quoteBytes p.bytes

/-! ### Pieces -/

/-- What stands between slashes. -/
def split (bytes : Bytes) : List Bytes := parts slash bytes

/-- Pieces with slashes between them. -/
def glue (pieces : List Bytes) : Bytes := List.intercalate [slash] pieces

/-- Whether a piece names nothing. -/
def isIdle (piece : Bytes) : Bool := piece == [] || piece == [dot]

/-- The piece that leads to the directory above. -/
def above : Bytes := [dot, dot]

def isAbsolute (p : Path) : Bool := p.bytes.head? == some slash

/-- The slash or the single dot a path opens with, and the rest of it. -/
def opening (p : Path) : Bytes × Bytes :=
  match p.bytes with
  | [] => ([], [])
  | b :: rest =>
    if b = slash then ([slash], rest)
    else if b = dot ∧ (rest = [] ∨ rest.head? = some slash) then ([dot], rest)
    else ([], b :: rest)

/-- Pieces without the idle ones at their end. -/
def settle (pieces : List Bytes) : List Bytes := (pieces.reverse.dropWhile isIdle).reverse

/-- The pieces after the opening, up to the last that names something. -/
def pieces (p : Path) : List Bytes := settle (split p.opening.2)

/-! ### Parts of a path -/

/-- The name of the file a path leads to. -/
def fileName? (p : Path) : Option Bytes :=
  match p.pieces.getLast? with
  | none => none
  | some name => if name = above then none else some name

/-- The path without its last piece. -/
def parent? (p : Path) : Option Path :=
  if p.pieces = [] then if p.opening.1 = [dot] then some ⟨[]⟩ else none
  else some ⟨p.opening.1 ++ glue (settle p.pieces.dropLast)⟩

/-- A path and the paths above it, nearest first, `count` at most. -/
def ancestorsWithin : Nat → Path → List Path
  | 0, _ => []
  | count + 1, p => p :: match p.parent? with
    | some above => ancestorsWithin count above
    | none => []

/-- A path and all paths above it: each is shorter than the one before. -/
def ancestors (p : Path) : List Path := ancestorsWithin (p.bytes.length + 1) p

/-- A path that goes on from this one. One that starts at the root does not. -/
def join (p : Path) (further : Path) : Path :=
  if further.isAbsolute then further
  else if p.bytes = [] ∨ p.bytes.getLast? = some slash then ⟨p.bytes ++ further.bytes⟩
  else ⟨p.bytes ++ slash :: further.bytes⟩

/-! ### Extensions -/

/-- A file name before and after its last dot. There has to be something before it. -/
def splitName (name : Bytes) : Bytes × Option Bytes :=
  let after := (name.reverse.takeWhile (· ≠ dot)).reverse
  let before := name.take (name.length - after.length - 1)
  if name = above ∨ before = [] ∨ after.length = name.length then (name, none)
  else (before, some after)

/-- What follows the last dot of the file name. -/
def extension? (p : Path) : Option Bytes := p.fileName?.bind fun name => (splitName name).2

/-- The path up to the end of its file name, given another extension. Without a file name
it stays as it is. -/
def putExtension (p : Path) (extension : Bytes) : Path :=
  match p.fileName? with
  | none => p
  | some name =>
    ⟨p.opening.1 ++ glue (p.pieces.dropLast ++ [(splitName name).1 ++ dot :: extension])⟩

/-- The path with another extension. The old one is first taken off the end of the bytes;
a name that is then two dots is no file name any more, and is left at that. -/
def withExtension (p : Path) (extension : Bytes) : Path :=
  match p.extension? with
  | none => p.putExtension extension
  | some old => putExtension ⟨p.bytes.take (p.bytes.length - old.length)⟩ extension

example : (ofText "a//b/./c.yaml/").parent? = some (ofText "a//b") := by decide +kernel
example : (ofText "./a.yaml").parent? = some (ofText ".") ∧
    (ofText "a.yaml").parent? = some (ofText "") ∧ (ofText "/").parent? = none := by decide +kernel
example : (ofText "a.b.yaml/").extension? = some (bytesOf "yaml") ∧
    (ofText ".yaml").extension? = none ∧ (ofText "a.").extension? = some [] := by decide +kernel
example : (ofText "s/a.yaml/").withExtension (bytesOf "txt") = ofText "s/a.txt" ∧
    (ofText "..yaml").withExtension (bytesOf "txt") = ofText ".." := by decide +kernel

end Path
end SchemaReport
