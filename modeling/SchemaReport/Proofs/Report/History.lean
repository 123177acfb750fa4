import SchemaReport.Proofs.Report.Layout

/-! Builders by their history.

A builder is told of tables and columns, and in between it may be asked for a report on what it
holds so far, as often as one likes. What it holds is told by the calls alone
(`useAll_eq`), and what a report shows by the calls before it: the history decides every
section of the builder and every report (`sections_of_history`), and asking for a report leaves no
trace in either. -/
namespace SchemaReport

/-- What is done with a builder: it takes a call, or it finishes a report and goes on. -/
inductive Use
  | tells (call : Call)
  | finishes (primaryKeys : String) (time : Timestamp)

namespace Use

/-- The call a use consists of. -/
def call? : Use → Option Call
  | tells call => some call
  | finishes _ _ => none

def isFinish : Use → Bool
  | tells _ => false
  | finishes _ _ => true

/-- The calls of a history. -/
def calls (history : List Use) : List Call := history.filterMap call?

/-- The columns pushed in a history. -/
def columns (history : List Use) : List Column := (calls history).filterMap Call.column?

end Use

namespace ReportBuilder

/-- The builder after a use. A report is read off it and does not change it. -/
def use (b : ReportBuilder) : Use → ReportBuilder
  | .tells call => b.take call
  | .finishes _ _ => b

/-- The builder after a history. -/
def useAll (b : ReportBuilder) : List Use → ReportBuilder
  | [] => b
  | next :: rest => (b.use next).useAll rest

/-- The reports a builder finishes in a history. -/
def reports (b : ReportBuilder) : List Use → List Report
  | [] => []
  | .tells call :: rest => (b.take call).reports rest
  | .finishes primaryKeys time :: rest => b.finish primaryKeys time :: b.reports rest

theorem useAll_append (b : ReportBuilder) (history more : List Use) :
    b.useAll (history ++ more) = (b.useAll history).useAll more := by
  induction history generalizing b with
  | nil => rfl
  | cons next rest ih => exact ih (b.use next)

theorem reports_append (b : ReportBuilder) (history more : List Use) :
    b.reports (history ++ more) = b.reports history ++ (b.useAll history).reports more := by
  induction history generalizing b with
  | nil => rfl
  | cons next rest ih =>
    cases next with
    | tells call => exact ih (b.take call)
    | finishes primaryKeys time => exact congrArg (b.finish primaryKeys time :: ·) (ih b)

/-- What a builder holds is told by the calls: finishing leaves no trace. -/
theorem useAll_eq (b : ReportBuilder) (history : List Use) :
    b.useAll history = b.takeAll (Use.calls history) := by
  induction history generalizing b with
  | nil => rfl
  | cons next rest ih =>
    cases next with
    | tells call => exact ih (b.take call)
    | finishes primaryKeys time => exact ih b

/-- There is a report for every time one is asked for. -/
theorem length_reports (b : ReportBuilder) (history : List Use) :
    (b.reports history).length = history.countP Use.isFinish := by
  induction history generalizing b with
  | nil => rfl
  | cons next rest ih =>
    cases next with
    | tells call =>
      rw [List.countP_cons_of_neg (by simp [Use.isFinish])]
      exact ih (b.take call)
    | finishes primaryKeys time =>
      rw [List.countP_cons_of_pos rfl]
      exact congrArg (· + 1) (ih b)

end ReportBuilder

section History
variable (names : RenderSettings) (started : Timestamp) (history : List Use)

/-- **A builder and its reports are functions of the history**, whatever has been opened, pushed
and finished, in any order. The struct section lists what every call adds, the section of table
names the descriptions, and the other sections the columns alone, in the order of the calls, the
members of the JSON block with separators between them only; so a table that is opened shows in
none of these four. There is one report for each time the builder was asked to finish. It shows
the sections as they stood then, closed, and counts the columns pushed till then; without it the
history would have left the same builder and the same other reports. -/
theorem sections_of_history :
    ((ReportBuilder.start names started).useAll history).Holds names (Use.calls history)
      (Use.columns history) ∧
    (∀ s ∈ [Section.json, .validation, .assignment, .doc],
      ((ReportBuilder.start names started).useAll history).body s =
        ((ReportBuilder.start names started).takeAll ((Use.columns history).map .adds)).body s) ∧
    ((ReportBuilder.start names started).reports history).length =
      history.countP Use.isFinish ∧
    ∀ before primaryKeys time after, history = before ++ .finishes primaryKeys time :: after →
      ∃ earlier later, earlier.length = before.countP Use.isFinish ∧
        (ReportBuilder.start names started).reports history = earlier ++
          ⟨Report.layout started time (Report.bodyFrom names (Use.calls before) primaryKeys),
            (Use.columns before).length⟩ :: later ∧
        (ReportBuilder.start names started).useAll history =
          (ReportBuilder.start names started).useAll (before ++ after) ∧
        (ReportBuilder.start names started).reports (before ++ after) = earlier ++ later := by
  refine ⟨?_, fun s hs => ?_, ReportBuilder.length_reports _ _,
    fun before primaryKeys time after h => ?_⟩
  · rw [ReportBuilder.useAll_eq]
    exact ReportBuilder.holds_takeAll names started _
  · have hpushed : ((Use.columns history).map Call.adds).filterMap Call.column? =
        Use.columns history := by
      rw [List.filterMap_map]
      exact List.filterMap_some
    have hwith := ReportBuilder.holds_takeAll names started (Use.calls history)
    have hwithout := ReportBuilder.holds_takeAll names started ((Use.columns history).map .adds)
    rw [hpushed] at hwithout
    rw [ReportBuilder.useAll_eq]
    simp only [List.mem_cons, List.not_mem_nil, or_false] at hs
    rcases hs with rfl | rfl | rfl | rfl
    · exact hwith.json.trans hwithout.json.symm
    · exact hwith.validation.trans hwithout.validation.symm
    · exact hwith.assignment.trans hwithout.assignment.symm
    · exact hwith.doc.trans hwithout.doc.symm
  · refine ⟨(ReportBuilder.start names started).reports before,
      ((ReportBuilder.start names started).useAll before).reports after,
      ReportBuilder.length_reports _ _, ?_, ?_, ReportBuilder.reports_append _ _ _⟩
    · rw [h, ReportBuilder.reports_append, ReportBuilder.reports, ReportBuilder.useAll_eq,
        ReportBuilder.finish_takeAll]
      rfl
    · rw [h, ReportBuilder.useAll_append, ReportBuilder.useAll_append]
      rfl

end History
end SchemaReport
