import SchemaReport.Proofs.Scan.Faults
import SchemaReport.Proofs.Scan.Warnings

/-! The end of a table is final.

A scanner that is done answers every further line in the same way and stays what it is
(`feed_done`), and it is done exactly when it has a report (`isDone_iff_finish`). So it makes no
difference that a scan stops reading there: it answers what feeding all the lines answers, up
to the first error (`scanSource_eq_feedThrough`). What follows the first primary keys can at
most be warned about, and `scanSource_final` tells when, and with which number. -/
namespace SchemaReport
open Text Schema

namespace Scanner

/-- The scanner after all the lines, or the first error there is. -/
def feedThrough (s : Scanner) : List Line → Except ScanError Scanner
  | [] => .ok s
  | line :: rest =>
    match (s.feed line).outcome with
    | .error e => .error e
    | .ok _ => (s.feed line).scanner.feedThrough rest

theorem feedThrough_cons (s : Scanner) (line : Line) (rest : List Line) :
    s.feedThrough (line :: rest) =
      (s.feed line).outcome.bind fun _ => (s.feed line).scanner.feedThrough rest := by
  rw [feedThrough]
  cases (s.feed line).outcome <;> rfl

theorem feedThrough_error {s : Scanner} {line : Line} {e : ScanError}
    (h : (s.feed line).outcome = .error e) (rest : List Line) :
    s.feedThrough (line :: rest) = .error e := by
  rw [feedThrough, h]

theorem feedThrough_ok {s : Scanner} {line : Line} {phase : Phase}
    (h : (s.feed line).outcome = .ok phase) (rest : List Line) :
    s.feedThrough (line :: rest) = (s.feed line).scanner.feedThrough rest := by
  rw [feedThrough, h]

theorem feedThrough_append (s : Scanner) (a b : List Line) :
    s.feedThrough (a ++ b) = (s.feedThrough a).bind fun t => t.feedThrough b := by
  induction a generalizing s with
  | nil => rfl
  | cons line rest ih =>
    rw [List.cons_append]
    cases h : (s.feed line).outcome with
    | error e =>
      rw [feedThrough_error h, feedThrough_error h]
      rfl
    | ok phase => rw [feedThrough_ok h, feedThrough_ok h, ih]

/-! ### A scanner that is done -/

theorem feedAll_done {s : Scanner} (hs : s.isDone = true) (lines : List Line) :
    s.feedAll lines = s := by
  induction lines with
  | nil => rfl
  | cons line rest ih => rw [feedAll, feed_done hs, ih]

theorem feedThrough_done {s : Scanner} (hs : s.isDone = true) (lines : List Line) :
    s.feedThrough lines = .ok s := by
  induction lines with
  | nil => rfl
  | cons line rest ih =>
    have hfeed := feed_done hs line
    rw [feedThrough_ok (by rw [hfeed]), hfeed, ih]

theorem phase_done {s : Scanner} (hs : s.isDone = true) : s.phase = .done := eq_of_beq hs

theorem Reported.isDone_iff_finish {s : Scanner} (h : s.Reported) :
    s.isDone = true ↔ ∃ output, s.finish = .ok output := by
  rw [← show s.report.isSome = s.isDone from h, finish]
  cases s.report <;> simp

/-- Primary keys leave a scanner that is done, or an error. -/
theorem feed_primaryKeys {s : Scanner} {line : Line} (h : line.keyword = .ok (some .primaryKeys)) :
    (∃ e, (s.feed line).outcome = .error e) ∨ (s.feed line).scanner.isDone = true := by
  cases hs : s.isDone with
  | true => exact .inr (by rw [feed_done hs]; exact hs)
  | false =>
    rcases line.reads with ⟨cause, hu⟩ | hp | ⟨k, value, hv⟩
    · exact .inl ⟨_, by rw [feed_unreadable hs hu]; rfl⟩
    · rw [hp] at h
      cases h
    · obtain rfl := hv.keyword_unique h
      exact .inr (by rw [(feed_directive hs hv).1]; rfl)

/-- What follows primary keys makes no difference. -/
theorem feedThrough_primaryKeys {line : Line} (h : line.keyword = .ok (some .primaryKeys))
    (s : Scanner) (rest : List Line) : s.feedThrough (line :: rest) = s.feedThrough [line] := by
  rcases feed_primaryKeys (s := s) h with ⟨e, he⟩ | hdone
  · rw [feedThrough_error he, feedThrough_error he]
  · cases hout : (s.feed line).outcome with
    | error e => rw [feedThrough_error hout, feedThrough_error hout]
    | ok phase =>
      rw [feedThrough_ok hout, feedThrough_ok hout, feedThrough_done hdone, feedThrough_done hdone]

/-- Reading stops early at a scanner that is done, which the lines left over do not change. -/
theorem feedThrough_eq_readThrough (s : Scanner) (lines : List Line) : s.feedThrough lines =
    (s.readThrough lines).outcome.map fun _ => (s.readThrough lines).scanner := by
  induction lines generalizing s with
  | nil => rfl
  | cons line rest ih =>
    cases hout : (s.feed line).outcome with
    | error e =>
      rw [feedThrough_error hout]
      simp only [readThrough, hout]
      rfl
    | ok phase =>
      rw [feedThrough_ok hout]
      cases hdone : (s.feed line).scanner.isDone with
      | true =>
        rw [feedThrough_done hdone]
        simp only [readThrough, hout, hdone, if_true]
        rfl
      | false =>
        rw [ih]
        simp only [readThrough, hout, hdone, Bool.false_eq_true, if_false]

end Scanner

/-! ### Whole scans -/

section Scan
variable {settings : ScanSettings} {names : RenderSettings} {clock : Clock}

/-- A scan answers what feeding all its lines answers. -/
theorem scanSource_eq_feedThrough (source : String) :
    (scanSource settings names clock source).result =
      ((Scanner.start settings names clock).feedThrough (sourceLines source)).bind
        Scanner.finish := by
  rw [Scanner.feedThrough_eq_readThrough, scanSource]
  cases ((Scanner.start settings names clock).readThrough (sourceLines source)).outcome <;> rfl

/-- Two schemas that are one up to a line with primary keys have one result. -/
theorem scanSource_congr {source other : String} {before rest rest' : List Line} {last : Line}
    (hlast : last.keyword = .ok (some .primaryKeys))
    (h : sourceLines source = before ++ last :: rest)
    (h' : sourceLines other = before ++ last :: rest') :
    (scanSource settings names clock source).result =
      (scanSource settings names clock other).result := by
  simp only [scanSource_eq_feedThrough, h, h', Scanner.feedThrough_append,
    Scanner.feedThrough_primaryKeys hlast]

/-! ### The warning about a further table -/

theorem Scanner.filter_ignored_readThrough (s : Scanner) (lines : List Line) :
    (s.readThrough lines).events.filter Event.saysIgnored = [] := by
  induction lines generalizing s with
  | nil => rfl
  | cons line rest ih =>
    have hfeed := filter_ignored_feed s line
    rw [readThrough]
    split
    · exact hfeed
    · split
      · exact hfeed
      · rw [List.filter_append, hfeed, ih, List.append_nil]

/-- Only a scan that has come to the end of a table looks for a further one. -/
theorem scanSource_filter_ignored_error {source : String} {e : ScanError}
    (h : (scanSource settings names clock source).result = .error e) :
    (scanSource settings names clock source).events.filter Event.saysIgnored = [] := by
  have hread := Scanner.filter_ignored_readThrough (.start settings names clock)
    (sourceLines source)
  rcases scan_cases settings names clock source with
    hpass | ⟨before, line, rest, hlines, hpass, ⟨e', he⟩ | ⟨value, hv⟩⟩
  · obtain ⟨hout, -⟩ := Scanner.readThrough_append hpass []
    rw [List.append_nil] at hout
    simp only [scanSource, hout, Scanner.readThrough, List.filter_append, hread]
    rfl
  · obtain ⟨hout, -⟩ := Scanner.readThrough_append hpass (line :: rest)
    simp only [scanSource, hlines, hout, Scanner.readThrough, he] at hread ⊢
    exact hread
  · rw [scanSource_ended hlines hpass hv] at h
    cases h

/-- The warning tells the place of the first line after the table that names one. -/
theorem scanSource_filter_ignored_place {source : String} {before between later : List Line}
    {last further : Line} {output : ScanOutput}
    (hends : EndsAt (sourceLines source) before last (between ++ further :: later))
    (h : (scanSource settings names clock source).result = .ok output)
    (hfurther : further.keyword = .ok (some .tableName))
    (hbetween : ∀ line ∈ between, line.keyword ≠ .ok (some .tableName)) :
    (scanSource settings names clock source).events.filter Event.saysIgnored =
      [Event.ignoredTable (before.length + between.length + 2)] := by
  have hplace : further.number = before.length + between.length + 2 := by
    have hlines : sourceLines source = (before ++ last :: between) ++ further :: later := by
      rw [hends.split, List.append_assoc, List.cons_append]
    rw [(sourceLines_place hlines).1, List.length_append, List.length_cons]
    omega
  rw [scanSource_filter_ignored hends h, furtherTable_append hbetween hfurther, hplace]

end Scan

/-- **The end of a table is final, and stopping there changes nothing.** After any lines, a
scanner that is done answers every further line with `done`, logs nothing and stays the same in
every part, its clock included; and it is done exactly when it can finish. So a scan answers
what feeding all the lines answers, up to the first error; two schemas that are one up to a
line with primary keys have one result; and of what follows the table only the first line that
names another one is told about, by its place, and nothing where there is none. -/
theorem scanSource_final (settings : ScanSettings) (names : RenderSettings) (clock : Clock) :
    (∀ lines more line, (Scanner.after settings names clock lines).isDone = true →
      (Scanner.after settings names clock (lines ++ more)).feed line =
        ⟨Scanner.after settings names clock lines, [], .ok .done⟩) ∧
    (∀ lines, (Scanner.after settings names clock lines).isDone = true ↔
      ∃ output, (Scanner.after settings names clock lines).finish = .ok output) ∧
    (∀ source, (scanSource settings names clock source).result =
      ((Scanner.start settings names clock).feedThrough (sourceLines source)).bind
        Scanner.finish) ∧
    (∀ source other before last rest rest', last.keyword = .ok (some .primaryKeys) →
      sourceLines source = before ++ last :: rest → sourceLines other = before ++ last :: rest' →
      (scanSource settings names clock source).result =
        (scanSource settings names clock other).result) ∧
    (∀ source output, (scanSource settings names clock source).result = .ok output →
      ∃ before last rest, EndsAt (sourceLines source) before last rest ∧
        (∀ between further later, rest = between ++ further :: later →
          further.keyword = .ok (some .tableName) →
          (∀ line ∈ between, line.keyword ≠ .ok (some .tableName)) →
          (scanSource settings names clock source).events.filter Event.saysIgnored =
            [Event.ignoredTable (before.length + between.length + 2)]) ∧
        ((∀ line ∈ rest, line.keyword ≠ .ok (some .tableName)) →
          (scanSource settings names clock source).events.filter Event.saysIgnored = [])) ∧
    ∀ source e, (scanSource settings names clock source).result = .error e →
      (scanSource settings names clock source).events.filter Event.saysIgnored = [] := by
  refine ⟨fun lines more line hdone => ?_, fun lines => ?_, scanSource_eq_feedThrough, ?_, ?_, ?_⟩
  · rw [Scanner.after, Scanner.feedAll_append, Scanner.feedAll_done hdone, Scanner.feed_done hdone,
      Scanner.phase_done hdone]
  · exact (Scanner.reported_feedAll (s := .start settings names clock) rfl lines).isDone_iff_finish
  · intro source other before last rest rest' hlast h h'
    exact scanSource_congr hlast h h'
  · intro source output h
    obtain ⟨before, last, rest, value, hlines, hpass, hv, -⟩ := scanSource_eq_ok_iff.mp h
    have hends : EndsAt (sourceLines source) before last rest :=
      ⟨hlines, hpass.keyword_ne rfl, hv.keyword⟩
    refine ⟨before, last, rest, hends, fun between further later hrest hfurther hbetween => ?_,
      fun hrest => ?_⟩
    · subst hrest
      exact scanSource_filter_ignored_place hends h hfurther hbetween
    · rw [scanSource_filter_ignored hends h]
      exact furtherTable_eq_nil hrest
  · intro source e h
    exact scanSource_filter_ignored_error h

/-- A table, and after it a line that is no good and two more tables. -/
def trailedSchema : String :=
  "table-name:t_order\nprimary-keys:id\ntypeNumber\ntable-name:t_user\ntable-name:t_item\n"

/-- The line that is no good does no harm, and the first of the two tables is warned about. -/
theorem scanSource_final_trailed : ∃ output,
    (scanSource {} {} (.ofList ⟨2024, 5, 6, 7, 8, 9⟩ []) trailedSchema).result = .ok output ∧
    (scanSource {} {} (.ofList ⟨2024, 5, 6, 7, 8, 9⟩ [])
      "table-name:t_order\nprimary-keys:id").result = .ok output ∧
    (scanSource {} {} (.ofList ⟨2024, 5, 6, 7, 8, 9⟩ []) trailedSchema).events.filter
      Event.saysIgnored = [Event.ignoredTable 4] ∧
    ((Scanner.after {} {} (.ofList ⟨2024, 5, 6, 7, 8, 9⟩ [])
      [⟨1, "table-name:t_order"⟩, ⟨2, "primary-keys:id"⟩]).feed ⟨3, "typeNumber"⟩).outcome =
        .ok .done := by
  have hany : (scanSource {} {} (.ofList ⟨2024, 5, 6, 7, 8, 9⟩ [])
      trailedSchema).result.toOption.any (fun _ => true) = true := by decide
  obtain ⟨output, hresult, -⟩ := exists_ok_of_any hany
  obtain ⟨hdone, -, -, hcongr, hwarns, -⟩ :=
    scanSource_final {} {} (.ofList ⟨2024, 5, 6, 7, 8, 9⟩ [])
  have hends : EndsAt (sourceLines trailedSchema) [⟨1, "table-name:t_order"⟩]
      ⟨2, "primary-keys:id"⟩ [⟨3, "typeNumber"⟩, ⟨4, "table-name:t_user"⟩,
        ⟨5, "table-name:t_item"⟩] := by decide
  have hsame := hcongr trailedSchema "table-name:t_order\nprimary-keys:id" [⟨1, "table-name:t_order"⟩]
    ⟨2, "primary-keys:id"⟩ _ [] rfl hends.split (by decide)
  have hfed := hdone [⟨1, "table-name:t_order"⟩, ⟨2, "primary-keys:id"⟩] [] ⟨3, "typeNumber"⟩
    (by decide)
  obtain ⟨before, last, rest, hends', hwarned, -⟩ := hwarns _ _ hresult
  obtain ⟨rfl, rfl, rfl⟩ := hends.unique hends'
  refine ⟨output, hresult, hsame.symm.trans hresult, ?_, ?_⟩
  · exact hwarned [⟨3, "typeNumber"⟩] _ _ rfl rfl (by decide)
  · rw [List.append_nil] at hfed
    rw [hfed]

end SchemaReport
