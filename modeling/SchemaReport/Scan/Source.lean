import SchemaReport.Scan.Scanner
import SchemaReport.Text.Search

/-! Scanning a whole schema. Lines are read up to the first error, or up to the line that
ends the table; what follows the table is only looked through for a second one, which is
left out with a warning. -/
namespace SchemaReport
open Text Schema

/-- The lines of a schema, numbered from one. -/
def sourceLines (source : String) : List Line :=
  numbered 1 ((lines source.toList).map String.ofList)

/-- The lines of a schema as they are written. -/
theorem raws_sourceLines (source : String) :
    (sourceLines source).map (fun line => line.raw.toList) = lines source.toList := by
  rw [← Function.comp_def String.toList Line.raw, ← List.map_map, sourceLines, map_raw_numbered,
    List.map_map]
  exact List.map_id'' (fun _ => String.toList_ofList) _

/-- The first lines of a schema. -/
theorem take_sourceLines (source : String) (n : Nat) : (sourceLines source).take n =
    numbered 1 (((lines source.toList).take n).map String.ofList) := by
  rw [sourceLines, take_numbered, List.map_take]

/-- Schemas that begin with the same lines. -/
theorem take_sourceLines_congr {source other : String} {n : Nat}
    (h : (lines other.toList).take n = (lines source.toList).take n) :
    (sourceLines other).take n = (sourceLines source).take n := by
  rw [take_sourceLines, take_sourceLines, h]

/-- A line has the number of its place, and is what stands there. -/
theorem sourceLines_place {source : String} {before rest : List Line} {line : Line}
    (h : sourceLines source = before ++ line :: rest) :
    line.number = before.length + 1 ∧ (lines source.toList)[before.length]? = some line.raw.toList := by
  have hplace : (sourceLines source)[before.length]? = some line := by
    rw [h, List.getElem?_append_right (Nat.le_refl _), Nat.sub_self]
    rfl
  rw [sourceLines, getElem?_numbered, List.getElem?_map, Option.map_map] at hplace
  obtain ⟨raw, hraw, hline⟩ := Option.map_eq_some_iff.mp hplace
  rw [hraw, ← hline]
  exact ⟨Nat.add_comm 1 _, congrArg some String.toList_ofList.symm⟩

/-- Where reading lines has led: the scanner, the events, and the error or the lines left. -/
structure ReadThrough where
  scanner : Scanner
  events : List Event
  outcome : Except ScanError (List Line)

/-- Feeds lines until one is refused or the table is complete. -/
def Scanner.readThrough (s : Scanner) : List Line → ReadThrough
  | [] => ⟨s, [], .ok []⟩
  | line :: rest =>
    let fed := s.feed line
    match fed.outcome with
    | .error e => ⟨fed.scanner, fed.events, .error e⟩
    | .ok _ =>
      if fed.scanner.isDone then ⟨fed.scanner, fed.events, .ok rest⟩
      else
        let later := fed.scanner.readThrough rest
        { later with events := fed.events ++ later.events }

/-- Whether a line names a table. -/
def Schema.Line.namesTable (line : Line) : Bool :=
  match line.keyword with
  | .ok (some .tableName) => true
  | _ => false

/-- The warning about a second table among the lines left over. -/
def furtherTable (rest : List Line) : List Event :=
  match rest.find? Line.namesTable with
  | some line =>
    [⟨.warn, "Only the first table of a schema is converted, ignoring the rest",
      [("line", .number line.number)], .core⟩]
  | none => []

/-- A scan: its result, what it logged and the clock afterwards. -/
structure Scan where
  result : Except ScanError ScanOutput
  events : List Event
  clock : Clock

/-- Scans the text of a schema. -/
def scanSource (settings : ScanSettings) (names : RenderSettings) (clock : Clock)
    (source : String) : Scan :=
  let read := (Scanner.start settings names clock).readThrough (sourceLines source)
  match read.outcome with
  | .error e => ⟨.error e, read.events, read.scanner.clock⟩
  | .ok rest => ⟨read.scanner.finish, read.events ++ furtherTable rest, read.scanner.clock⟩

end SchemaReport
