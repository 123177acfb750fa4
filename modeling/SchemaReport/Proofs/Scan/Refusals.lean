import SchemaReport.Proofs.Scan.Window

/-! What a refused line leaves behind.

A line that is refused leaves the scanner as it was, and where it closes a column that lacks a
field, the draft of that column is gone (`feed_refused`). So refused lines may as well not have
been fed, and of a column that was rejected nothing can show up later: what the scanner does from
then on is the same whatever the draft was (`keeps_of_refused`). -/
namespace SchemaReport
open Schema

/-- The error is about a column that lacks a field. -/
def ScanError.lacksField : ScanError → Bool
  | atLine _ _ (.missingField _ _) => true
  | _ => false

namespace Scanner

/-- The scanner with another draft, or with none. -/
def withDraft (s : Scanner) (draft : Option Draft) : Scanner := { s with draft := draft }

variable {s : Scanner} {line : Line} {e : ScanError}

/-- Only a scanner that is not done refuses a line. -/
theorem isDone_of_refused (h : (s.feed line).outcome = .error e) : s.isDone = false := by
  cases hs : s.isDone with
  | false => rfl
  | true =>
    rw [feed_done hs] at h
    cases h

/-- A refused line takes away the draft of the column it rejects, and nothing else. -/
theorem feed_refused (h : (s.feed line).outcome = .error e) :
    (s.feed line).scanner = if e.lacksField then s.withDraft none else s := by
  have hs := isDone_of_refused h
  obtain ⟨fault, rfl, hrefuses⟩ := feed_error h
  cases hrefuses with
  | unreadable hu => rw [feed_unreadable hs hu]; rfl
  | invalidLength hv hlength =>
    rw [(feed_directive hs hv).1, obey, setLength, hlength]
    rfl
  | missingField hv hcolumn =>
    rw [(feed_directive hs hv).1, obey, closeColumn, hcolumn]
    rfl

/-- Lines are fed from where a refused line leaves the scanner. -/
theorem feedAll_refused (h : (s.feed line).outcome = .error e) (more : List Line) :
    s.feedAll (line :: more) = (if e.lacksField then s.withDraft none else s).feedAll more := by
  rw [feedAll, feed_refused h]

end Scanner

/-- **A refused line changes nothing but the draft of a column it rejects.** Whatever lines a
scanner has been fed, refused ones among them: when the next line is refused for something else
than a lacking field, the scanner is the same in every part, its clock included, and goes on as if
the line had not been there. When it is refused for a lacking field, the draft is gone and
everything else is the same; then nothing that follows depends on what the draft was, and the next
column is drafted from the lines that follow alone. -/
theorem Scanner.keeps_of_refused (settings : ScanSettings) (names : RenderSettings) (clock : Clock)
    (before : List Line) {line : Line} {e : ScanError}
    (h : ((after settings names clock before).feed line).outcome = .error e) :
    (e.lacksField = false →
      ((after settings names clock before).feed line).scanner = after settings names clock before ∧
      ∀ more, after settings names clock (before ++ line :: more) =
        after settings names clock (before ++ more)) ∧
    (e.lacksField = true →
      ((after settings names clock before).feed line).scanner =
        (after settings names clock before).withDraft none ∧
      (∀ draft e', (((after settings names clock before).withDraft draft).feed line).outcome =
          .error e' → e'.lacksField = true →
        ∀ more, ((after settings names clock before).withDraft draft).feedAll (line :: more) =
          after settings names clock (before ++ line :: more)) ∧
      ∀ more, ((after settings names clock before).feed line).scanner.PassesAll more →
        (after settings names clock (before ++ line :: more)).Sketches (window more)) := by
  have hfed := feed_refused h
  refine ⟨fun hlacks => ?_, fun hlacks => ?_⟩
  · rw [hlacks, if_neg Bool.false_ne_true] at hfed
    refine ⟨hfed, fun more => ?_⟩
    rw [after_append, after_append, feedAll, hfed]
  · rw [hlacks, if_pos rfl] at hfed
    refine ⟨hfed, fun draft e' h' hlacks' more => ?_, fun more hmore => ?_⟩
    · rw [feedAll_refused h', after_append, feedAll_refused h, hlacks, hlacks']
      rfl
    · have hdone := isDone_of_refused h
      rw [after_append, feedAll]
      rw [hfed] at hmore ⊢
      exact sketches_feedAll hdone rfl hmore

/-- A table with a column that has no nullability yet. -/
def unfinishedLines : List Line :=
  [⟨1, "table-name:t_order"⟩, ⟨2, "-description:金额"⟩, ⟨3, "type:number"⟩, ⟨4, "length:10"⟩]

/-- The column cannot be named yet: its draft is gone. A length that is no number leaves it as it
was. -/
theorem Scanner.keeps_of_refused_unfinished :
    ((after {} {} (.ofList ⟨2024, 5, 6, 7, 8, 9⟩ []) unfinishedLines).feed
      ⟨5, "name:amount"⟩).outcome =
        .error (.atLine 5 "name:amount" (.missingField "amount" .nullable)) ∧
    ((after {} {} (.ofList ⟨2024, 5, 6, 7, 8, 9⟩ []) unfinishedLines).feed
      ⟨5, "name:amount"⟩).scanner =
        (after {} {} (.ofList ⟨2024, 5, 6, 7, 8, 9⟩ []) unfinishedLines).withDraft none ∧
    ((after {} {} (.ofList ⟨2024, 5, 6, 7, 8, 9⟩ []) unfinishedLines).feed
      ⟨5, "length:ten"⟩).outcome = .error (.atLine 5 "length:ten" (.invalidLength "ten")) ∧
    ((after {} {} (.ofList ⟨2024, 5, 6, 7, 8, 9⟩ []) unfinishedLines).feed
      ⟨5, "length:ten"⟩).scanner =
        after {} {} (.ofList ⟨2024, 5, 6, 7, 8, 9⟩ []) unfinishedLines := by
  have hname : ((after {} {} (.ofList ⟨2024, 5, 6, 7, 8, 9⟩ []) unfinishedLines).feed
      ⟨5, "name:amount"⟩).outcome =
        .error (.atLine 5 "name:amount" (.missingField "amount" .nullable)) := by
    decide
  have hlength : ((after {} {} (.ofList ⟨2024, 5, 6, 7, 8, 9⟩ []) unfinishedLines).feed
      ⟨5, "length:ten"⟩).outcome = .error (.atLine 5 "length:ten" (.invalidLength "ten")) := by
    decide
  exact ⟨hname, ((keeps_of_refused {} {} _ unfinishedLines hname).2 rfl).1, hlength,
    ((keeps_of_refused {} {} _ unfinishedLines hlength).1 rfl).1⟩

end SchemaReport
