import SchemaReport.Files.Fault
import SchemaReport.Files.Path

/-! A tree of files. Every node has a location, the names that lead to it from the root. A
path is walked name by name from the directory it starts in, and a link on the way is
replaced by the path it stands for. Operations on files say what becomes of the tree or
which refusal answers them; a refused operation changes nothing. -/
namespace SchemaReport
open Text

abbrev Name := Bytes

/-- The names that lead from the root to a node. -/
abbrev Location := List Name

inductive Node
  | directory
  | file (content : Bytes)
  | link (target : Path)
  deriving DecidableEq, Repr

/-- What a path leads to once links have been followed. -/
inductive FileKind
  | directory
  | file
  deriving DecidableEq, Repr

/-- The nodes below the root, each location once. -/
structure FileTree where
  nodes : List (Location × Node)
  deriving DecidableEq, Repr

namespace FileTree

/-- The node at a location. The root is a directory. -/
def node? (t : FileTree) (location : Location) : Option Node :=
  if location = [] then some .directory else t.nodes.lookup location

/-- The tree without the node at a location. -/
def erase (t : FileTree) (location : Location) : FileTree :=
  ⟨t.nodes.filter fun entry => entry.1 != location⟩

/-- The tree with a node at a location. -/
def put (t : FileTree) (location : Location) (node : Node) : FileTree :=
  ⟨(t.erase location).nodes ++ [(location, node)]⟩

/-- The names in a directory. -/
def namesAt (t : FileTree) (location : Location) : List Name :=
  t.nodes.filterMap fun entry =>
    match entry.1.getLast? with
    | some name => if entry.1.dropLast = location then some name else none
    | none => none

/-! ### Walking -/

/-- One step of a path. -/
inductive Step
  | name (n : Name)
  | here
  | above
  /-- The slash a path may end in. -/
  | slash
  deriving DecidableEq, Repr

def stepOf? (piece : Bytes) : Option Step :=
  if piece = [] then none
  else if piece = [Path.dot] then some .here
  else if piece = Path.above then some .above
  else some (.name piece)

/-- The steps of a path. -/
def stepsOf (p : Path) : List Step :=
  let pieces := Path.split p.bytes
  let steps := pieces.filterMap stepOf?
  if steps ≠ [] ∧ pieces.getLast? = some [] then steps ++ [.slash] else steps

/-- What a path is walked for, which decides about its last name. -/
inductive Aim
  /-- To find what is there. -/
  | find
  /-- To open a file, making it if it is missing. No slash may follow its name. -/
  | openFile
  /-- To make a directory. A link is not followed, it is in the way. -/
  | makeDirectory
  deriving DecidableEq, Repr

/-- Where a walk ends: at a node, or at a name that is missing from a directory. -/
inductive Found
  | present (location : Location)
  | absent (location : Location)
  deriving DecidableEq, Repr

/-- No more links than this are followed on one walk. -/
def maxLinks : Nat := 40

/-- Names are at most this long. -/
def maxName : Nat := 255

/-- Paths are shorter than this. -/
def pathLimit : Nat := 4096

/-- Walks the steps from a directory up to the first link that is to be followed. From there
`follow` walks on, from the directory its target is relative to. -/
def walkTo (t : FileTree) (aim : Aim) (follow : Location → List Step → Except OsError Found)
    (here : Location) : List Step → Except OsError Found
  | [] => .ok (.present here)
  | .here :: rest => walkTo t aim follow here rest
  | .slash :: rest => walkTo t aim follow here rest
  | .above :: rest => walkTo t aim follow here.dropLast rest
  | .name n :: rest =>
    if aim = .openFile ∧ rest = [.slash] then .error .isDirectory
    else if maxName < n.length then .error .nameTooLong
    else match t.node? (here ++ [n]) with
      | none =>
        if rest = [] ∨ (aim = .makeDirectory ∧ rest = [.slash]) then .ok (.absent (here ++ [n]))
        else .error .notFound
      | some .directory => walkTo t aim follow (here ++ [n]) rest
      | some (.file _) =>
        if rest = [] then .ok (.present (here ++ [n])) else .error .notDirectory
      | some (.link target) =>
        if aim = .makeDirectory ∧ (rest = [] ∨ rest = [.slash]) then
          .ok (.present (here ++ [n]))
        else follow (if target.isAbsolute then [] else here) (stepsOf target ++ rest)

/-- Walks the steps from a directory; so many links may still be followed. -/
def walk (t : FileTree) (aim : Aim) : Nat → Location → List Step → Except OsError Found
  | 0 => walkTo t aim fun _ _ => .error .tooManyLinks
  | links + 1 => walkTo t aim (walk t aim links)

section
variable (t : FileTree) (aim : Aim) (links : Nat) (here : Location) (rest : List Step)

@[simp] theorem walk_nil : t.walk aim links here [] = .ok (.present here) := by
  cases links <;> rfl

@[simp] theorem walk_here :
    t.walk aim links here (.here :: rest) = t.walk aim links here rest := by
  cases links <;> rfl

@[simp] theorem walk_slash :
    t.walk aim links here (.slash :: rest) = t.walk aim links here rest := by
  cases links <;> rfl

@[simp] theorem walk_above :
    t.walk aim links here (.above :: rest) = t.walk aim links here.dropLast rest := by
  cases links <;> rfl

theorem walk_name (n : Name) : t.walk aim links here (.name n :: rest) =
    if aim = .openFile ∧ rest = [.slash] then .error .isDirectory
    else if maxName < n.length then .error .nameTooLong
    else match t.node? (here ++ [n]) with
      | none =>
        if rest = [] ∨ (aim = .makeDirectory ∧ rest = [.slash]) then .ok (.absent (here ++ [n]))
        else .error .notFound
      | some .directory => t.walk aim links (here ++ [n]) rest
      | some (.file _) =>
        if rest = [] then .ok (.present (here ++ [n])) else .error .notDirectory
      | some (.link target) =>
        if aim = .makeDirectory ∧ (rest = [] ∨ rest = [.slash]) then
          .ok (.present (here ++ [n]))
        else match links with
          | 0 => .error .tooManyLinks
          | links + 1 =>
            t.walk aim links (if target.isAbsolute then [] else here) (stepsOf target ++ rest) := by
  cases links <;> rfl

end

/-- Walks a path from the directory relative paths start in. -/
def locate (t : FileTree) (start : Location) (aim : Aim) (p : Path) : Except FileFault Found :=
  if p.bytes.contains 0 then .error .zeroByte
  else if p.bytes = [] then .error (.os .notFound)
  else if pathLimit ≤ p.bytes.length then .error (.os .nameTooLong)
  else (walk t aim maxLinks (if p.isAbsolute then [] else start) (stepsOf p)).mapError .os

/-! ### Reading -/

/-- The node a path leads to. -/
def nodeAt (t : FileTree) (start : Location) (p : Path) : Except FileFault Node := do
  match ← t.locate start .find p with
  | .absent _ => .error (.os .notFound)
  | .present location =>
    match t.node? location with
    | some node => .ok node
    | none => .error (.os .notFound)

def kind (t : FileTree) (start : Location) (p : Path) : Except FileFault FileKind := do
  match ← t.nodeAt start p with
  | .directory => return .directory
  | _ => return .file

def isDirectory (t : FileTree) (start : Location) (p : Path) : Bool :=
  match t.kind start p with
  | .ok .directory => true
  | _ => false

/-- The content of a file. -/
def read (t : FileTree) (start : Location) (p : Path) : Except FileFault Bytes := do
  match ← t.nodeAt start p with
  | .file content => return content
  | _ => .error (.os .isDirectory)

/-- The names in the directory a path leads to, in no particular order. -/
def list (t : FileTree) (start : Location) (p : Path) : Except FileFault (List Name) := do
  match ← t.locate start .find p with
  | .absent _ => .error (.os .notFound)
  | .present location =>
    match t.node? location with
    | some .directory => return t.namesAt location
    | _ => .error (.os .notDirectory)

/-! ### Writing -/

/-- Makes one directory. -/
def makeDirectory (t : FileTree) (start : Location) (p : Path) : Except FileFault FileTree := do
  match ← t.locate start .makeDirectory p with
  | .present _ => .error (.os .fileExists)
  | .absent location => return t.put location .directory

/-- Makes the first directory of a list, after those behind it where they are missing. -/
def makeAlong (t : FileTree) (start : Location) : List Path → FileTree × Except FileFault Unit
  | [] => (t, .ok ())
  | p :: others =>
    if p.bytes = [] then (t, .ok ())
    else match t.makeDirectory start p with
      | .ok made => (made, .ok ())
      | .error (.os .notFound) =>
        match makeAlong t start others with
        | (t, .error e) => (t, .error e)
        | (t, .ok ()) =>
          match t.makeDirectory start p with
          | .ok made => (made, .ok ())
          | .error e => (t, if t.isDirectory start p then .ok () else .error e)
      | .error e => (t, if t.isDirectory start p then .ok () else .error e)

/-- Makes a directory and the directories above it that are missing. What has been made
stays, also when the rest cannot be. -/
def makeDirectories (t : FileTree) (start : Location) (p : Path) :
    FileTree × Except FileFault Unit :=
  t.makeAlong start p.ancestors

/-- Changes the content of a file; a file that is missing is made and starts out empty. -/
def modify (t : FileTree) (start : Location) (p : Path) (change : Bytes → Bytes) :
    Except FileFault FileTree := do
  match ← t.locate start .openFile p with
  | .absent location => return t.put location (.file (change []))
  | .present location =>
    match t.node? location with
    | some (.file content) => return t.put location (.file (change content))
    | _ => .error (.os .isDirectory)

/-- Appends to a file. -/
def append (t : FileTree) (start : Location) (p : Path) (content : Bytes) :
    Except FileFault FileTree :=
  t.modify start p (· ++ content)

/-- Replaces the content of a file. -/
def write (t : FileTree) (start : Location) (p : Path) (content : Bytes) :
    Except FileFault FileTree :=
  t.modify start p fun _ => content

/-! ### Nodes after a change -/

theorem lookup_filter_ne {location other : Location} (h : other ≠ location)
    (nodes : List (Location × Node)) :
    (nodes.filter fun entry => entry.1 != location).lookup other = nodes.lookup other := by
  induction nodes with
  | nil => rfl
  | cons entry rest ih =>
    obtain ⟨key, node⟩ := entry
    by_cases hk : key = location
    · subst hk
      have hb : (other == key) = false := beq_eq_false_iff_ne.mpr h
      simp [List.lookup_cons, ih, hb]
    · rw [List.filter_cons_of_pos (by simpa using hk)]
      simp [List.lookup_cons, ih]

theorem lookup_filter_self (location : Location) (nodes : List (Location × Node)) :
    (nodes.filter fun entry => entry.1 != location).lookup location = none := by
  rw [List.lookup_eq_none_iff]
  intro entry h
  have := (List.mem_filter.mp h).2
  simp only [bne_iff_ne, ne_eq] at this
  simpa using fun e => this e.symm

theorem node?_put_self (t : FileTree) {location : Location} (h : location ≠ []) (node : Node) :
    (t.put location node).node? location = some node := by
  simp [node?, put, erase, h, List.lookup_append, lookup_filter_self]

theorem node?_put_of_ne (t : FileTree) {location other : Location} (h : other ≠ location)
    (node : Node) : (t.put location node).node? other = t.node? other := by
  have hb : (other == location) = false := beq_eq_false_iff_ne.mpr h
  simp [node?, put, erase, List.lookup_append, lookup_filter_ne h, List.lookup_cons, hb]

end FileTree
end SchemaReport
