import SchemaReport.Conversion.Convert
import SchemaReport.Proofs.Files.Growing
import SchemaReport.World

/-! What a conversion comes to in a world.

A conversion asks for much, but what becomes of it depends on the files, on where relative paths
start and on the clock alone, and but for the log and the clock it changes nothing but files.
`conversion` says so at once (`run_convertFile`): it is a function on trees, and the rest of the
theory of conversions is about it. -/
namespace SchemaReport
open Text

/-! ### The parts of a conversion, on trees -/

/-- What a schema says and the report on it. -/
def inspection (settings : Settings) (files : FileTree) (start : Location) (clock : Clock)
    (path : Path) : Except Failure ScanOutput :=
  match schemaStem path settings.input.extension with
  | .error e => .error e
  | .ok _ =>
    match Session.asText (files.read start path) with
    | .error fault => .error (.fileAccess path fault)
    | .ok source =>
      (scanSource settings.scan settings.render clock source).result.mapError (.scan path)

/-- The directory a report goes to, where there is one to be seen to. -/
def reportParent? (output : Path) : Option Path :=
  output.parent?.filter fun directory => directory.bytes ≠ []

/-- The files once the directory of a report has been seen to. -/
def directorySeenTo (files : FileTree) (start : Location) (output : Path) :
    FileTree × Except Failure Unit :=
  match reportParent? output with
  | none => (files, .ok ())
  | some directory =>
    if (files.kind start directory).isOk then (files, .ok ())
    else
      ((files.makeDirectories start directory).1,
        (files.makeDirectories start directory).2.mapError (.fileAccess directory))

/-- The files once a report has been appended, if it could be. -/
def reportAppended (files : FileTree) (start : Location) (output : Path) (report : Report) :
    FileTree × Except Failure Unit :=
  match files.append start output (bytesOf report.text) with
  | .error fault => (files, .error (.fileAccess output fault))
  | .ok files => (files, .ok ())

/-- The files once the directory has been seen to and, if that went well, the report has been
appended. -/
def reportWritten (files : FileTree) (start : Location) (output : Path) (report : Report) :
    FileTree × Except Failure Unit :=
  match directorySeenTo files start output with
  | (files, .error e) => (files, .error e)
  | (files, .ok ()) => reportAppended files start output report

/-- The answer to a report that has been written. -/
def convertedTo (path output : Path) (scanned : ScanOutput) : Converted :=
  ⟨path, output, scanned.report.text.utf8ByteSize, scanned.table⟩

/-- What a conversion comes to: the files it leaves, and its answer. -/
def conversion (settings : Settings) (files : FileTree) (start : Location) (clock : Clock)
    (path : Path) : FileTree × Except Failure Converted :=
  match reportPath settings path, inspection settings files start clock path with
  | .error e, _ => (files, .error e)
  | .ok _, .error e => (files, .error e)
  | .ok output, .ok scanned =>
    ((reportWritten files start output scanned.report).1,
      (reportWritten files start output scanned.report).2.map fun () =>
        convertedTo path output scanned)

/-! ### Runs -/

section
variable {settings : Settings} {path output : Path}

theorem run_scanText (source : String) (w : World) : ∃ events clock,
    (scanText settings path source).run w = ({ w with events := events, clock := clock },
      (scanSource settings.scan settings.render w.clock source).result.mapError (.scan path)) := by
  rw [scanText, Session.run_bind, Session.run_clock]
  exact ⟨_, _, rfl⟩

/-- Inspecting changes nothing but the log and the clock. -/
theorem run_inspectFile (settings : Settings) (path : Path) (w : World) : ∃ events clock,
    (inspectFile settings path).run w = ({ w with events := events, clock := clock },
      inspection settings w.files w.directory w.clock path) := by
  rw [inspectFile, Session.run_bind, Session.run_ofExcept, inspection]
  cases schemaStem path settings.input.extension with
  | error e => exact ⟨w.events, w.clock, rfl⟩
  | ok stem =>
    dsimp only
    rw [readSchema, Session.run_bind, Session.run_readText]
    cases Session.asText (w.files.read w.directory path) with
    | error fault => exact ⟨_, w.clock, rfl⟩
    | ok source =>
      dsimp only
      rw [Session.run_bind, Session.run_say]
      exact run_scanText source _

theorem run_makeReportDirectory (output : Path) (w : World) : ∃ events,
    (makeReportDirectory output).run w =
      ({ w with events := events, files := (directorySeenTo w.files w.directory output).1 },
        (directorySeenTo w.files w.directory output).2) := by
  unfold makeReportDirectory directorySeenTo reportParent?
  cases output.parent? with
  | none => exact ⟨w.events, rfl⟩
  | some directory =>
    by_cases hempty : directory.bytes = []
    · simp only [Option.filter, hempty, ne_eq, not_true_eq_false, decide_false, Bool.false_eq_true,
        if_true, if_false]
      exact ⟨w.events, rfl⟩
    · simp only [Option.filter, hempty, ne_eq, not_false_eq_true, decide_true, if_true, if_false]
      rw [Session.run_bind, Session.run_exists?]
      dsimp only
      cases (w.files.kind w.directory directory).isOk with
      | true => exact ⟨w.events, rfl⟩
      | false =>
        simp only [Bool.false_eq_true, if_false]
        rw [Session.run_bind, Session.run_say]
        dsimp only
        rw [Session.run_attempt, Session.run_makeDirectories]
        exact ⟨_, rfl⟩

theorem run_appendReport (report : Report) (w : World) : (appendReport output report).run w =
    ({ w with files := (reportAppended w.files w.directory output report).1 },
      (reportAppended w.files w.directory output report).2) := by
  rw [appendReport, Session.run_attempt, Session.run_append, reportAppended]
  cases w.files.append w.directory output (bytesOf report.text) <;> rfl

/-- **What a conversion comes to.** Beside the files only the log and the clock change. -/
theorem run_convertFile (settings : Settings) (path : Path) (w : World) : ∃ events clock,
    (convertFile settings path).run w =
      ({ w with
          files := (conversion settings w.files w.directory w.clock path).1
          events := events
          clock := clock },
        (conversion settings w.files w.directory w.clock path).2) := by
  rw [convertFile, Session.run_bind, Session.run_say]
  dsimp only
  rw [Session.run_bind, Session.run_ofExcept, conversion]
  cases reportPath settings path with
  | error e => exact ⟨_, _, rfl⟩
  | ok output =>
    dsimp only
    obtain ⟨events, clock, hscan⟩ := run_inspectFile settings path
      { w with events := w.events ++ [.plain .info s!"Converting schema {path.quoted}"] }
    rw [Session.run_bind, hscan]
    cases inspection settings w.files w.directory w.clock path with
    | error e => exact ⟨_, _, rfl⟩
    | ok scanned =>
      dsimp only
      obtain ⟨events', hmade⟩ := run_makeReportDirectory output
        { w with events := events, clock := clock }
      rw [Session.run_bind, hmade, reportWritten]
      rcases directorySeenTo w.files w.directory output with ⟨files, _ | _⟩
      · exact ⟨_, _, rfl⟩
      · dsimp only
        rw [Session.run_bind, run_appendReport]
        rcases reportAppended files w.directory output scanned.report with ⟨files', _ | _⟩
        · exact ⟨_, _, rfl⟩
        · exact ⟨_, _, rfl⟩

end
end SchemaReport
