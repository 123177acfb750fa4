import SchemaReport.Settings.Document

/-! Putting the tables of a TOML text together. A table may come about in three ways, and
how it did decides who may still add to it: a header opens a table once, also one that so
far was only a step on the way to another, and a dotted key reaches into tables that
dotted keys have made. A value, be it a list or a table, is closed for good. -/
namespace SchemaReport.Toml

/-- How a table came about. -/
inductive Origin
  /-- By a header of its own, or as the table of the whole text. -/
  | header
  /-- As a step on the way to the table of another header. -/
  | path
  /-- By a dotted key. -/
  | dotted
  deriving DecidableEq

/-- What stands under a key. -/
inductive Entry
  | value (document : Document)
  | table (origin : Origin) (members : List (String × Entry))
  /-- A list of tables, each opened by a header; further members go to the last one. -/
  | tables (earlier : List (List (String × Entry))) (last : List (String × Entry))

abbrev Members := List (String × Entry)

namespace Members

/-- The members with another entry under a key that is there. -/
def put (members : Members) (key : String) (entry : Entry) : Members :=
  members.map fun (k, old) => if k = key then (k, entry) else (k, old)

/-- Changes the table a path leads to. Tables on the way that are missing are made, by a
dotted key or else for a header; `origin` tells how the table the path starts at came
about. -/
def alter (dotted : Bool) (change : Origin → Members → Option Members) (origin : Origin) :
    List String → Members → Option Members
  | [], members => change origin members
  | key :: path, members =>
    match members.lookup key with
    | none =>
      let made := if dotted then .dotted else .path
      (alter dotted change made path []).map fun inner => members ++ [(key, .table made inner)]
    | some (.table found inner) =>
      if dotted && found = .header then none
      else (alter dotted change found path inner).map fun inner =>
        members.put key (.table found inner)
    | some (.tables earlier last) =>
      (alter dotted change .header path last).map fun last => members.put key (.tables earlier last)
    | some (.value _) => none

/-- Adds a member that is new. -/
def add (members : Members) (key : String) (entry : Entry) : Option Members :=
  match members.lookup key with
  | none => some (members ++ [(key, entry)])
  | some _ => none

/-- Adds a value under a key that may be dotted. A dotted key ends in a table that dotted
keys have made. -/
def assign (origin : Origin) (path : List String) (key : String) (value : Document)
    (members : Members) : Option Members :=
  alter true (fun reached found =>
    if path = [] ∨ reached = .dotted then add found key (.value value) else none)
    origin path members

/-- Opens the table of a header. -/
def openTable (path : List String) (key : String) (members : Members) : Option Members :=
  alter false (fun _ found =>
    match found.lookup key with
    | none => some (found ++ [(key, .table .header [])])
    | some (.table .path inner) => some (found.put key (.table .header inner))
    | some _ => none)
    .header path members

/-- Opens a further table of a list of tables. -/
def openItem (path : List String) (key : String) (members : Members) : Option Members :=
  alter false (fun _ found =>
    match found.lookup key with
    | none => some (found ++ [(key, .tables [] [])])
    | some (.tables earlier last) => some (found.put key (.tables (earlier ++ [last]) []))
    | some _ => none)
    .header path members

/-- Adds a value to the table the header path leads to. -/
def assignUnder (header path : List String) (key : String) (value : Document)
    (members : Members) : Option Members :=
  alter false (fun _ found => assign .header path key value found) .header header members

end Members

mutual

/-- The document an entry stands for. -/
def Entry.document : Entry → Document
  | .value document => document
  | .table _ members => .table (memberDocuments members)
  | .tables earlier last =>
    .list (tableDocuments earlier ++ [.table (memberDocuments last)])

def memberDocuments : List (String × Entry) → List (String × Document)
  | [] => []
  | (key, entry) :: rest => (key, entry.document) :: memberDocuments rest

def tableDocuments : List (List (String × Entry)) → List Document
  | [] => []
  | members :: rest => .table (memberDocuments members) :: tableDocuments rest

end

end SchemaReport.Toml
