import SchemaReport.Column
import SchemaReport.Conversion.Failure

/-! What converting a directory came to: an outcome for every file, in the order of the
files. Everything else a batch report says is read off its outcomes. -/
namespace SchemaReport
open Text

/-- A schema whose report has been written. -/
structure Converted where
  source : Path
  output : Path
  /-- How many bytes were appended to the report file. -/
  bytesWritten : Nat
  table : Table
  deriving DecidableEq, Repr

/-- What became of one file of a directory. -/
structure Outcome where
  path : Path
  result : Except Failure Converted

structure BatchReport where
  directory : Path
  outcomes : List Outcome

def Outcome.isSuccess (o : Outcome) : Bool :=
  match o.result with
  | .ok _ => true
  | .error _ => false

/-- The file and the error of an outcome that is a failure. -/
def Outcome.failure? (o : Outcome) : Option (Path × Failure) :=
  match o.result with
  | .ok _ => none
  | .error e => some (o.path, e)

namespace BatchReport

def total (b : BatchReport) : Nat := b.outcomes.length

def succeeded (b : BatchReport) : Nat := b.outcomes.countP Outcome.isSuccess

def failed (b : BatchReport) : Nat := b.total - b.succeeded

/-- The files that failed, with their errors. -/
def failures (b : BatchReport) : List (Path × Failure) := b.outcomes.filterMap Outcome.failure?

/-- The name a summary calls a file by. -/
def shortName (path : Path) : String :=
  match path.fileName? with
  | some name => lossyText name
  | none => path.display

/-- The line of a failure in a summary. -/
def failureLine (number : Nat) (path : Path) (e : Failure) : String :=
  s!"\n\t{number}. {shortName path}: {e.message}"

/-- The lines of failures, numbered from `first`. -/
def failureLines (first : Nat) : List (Path × Failure) → String
  | [] => ""
  | (path, e) :: rest => failureLine first path e ++ failureLines (first + 1) rest

/-- The text that sums the report up. -/
def summary (b : BatchReport) : String :=
  let head := s!"Converted {b.total} file(s) in {b.directory.display}"
  if b.failed = 0 then head ++ ", all succeeded"
  else
    head ++ s!", {b.succeeded} succeeded, {b.failed} failed:" ++ failureLines 1 b.failures

/-- A batch fails when a file of it does. -/
def ensureSuccess (b : BatchReport) : Except Failure Unit :=
  if b.failed = 0 then .ok () else .error (.batchFailed b.failed b.total)

/-- Every file either succeeds or fails. -/
theorem succeeded_add_failed (b : BatchReport) : b.succeeded + b.failed = b.total := by
  have : b.succeeded ≤ b.total := List.countP_le_length
  unfold failed
  omega

theorem length_failures (b : BatchReport) : b.failures.length = b.failed := by
  have h : b.succeeded + b.failures.length = b.total := by
    unfold succeeded failures total
    induction b.outcomes with
    | nil => rfl
    | cons o rest ih =>
      cases ho : o.result <;>
        simp [Outcome.isSuccess, Outcome.failure?, ho] <;> omega
  have := succeeded_add_failed b
  omega

end BatchReport
end SchemaReport
