import SchemaReport.Scan.Source

/-! Reading the lines of a schema, step by step.

To the scanner a line is one of three things: unreadable, prose, or a directive with a
value (`Line.reads`). `feed_unreadable`, `feed_prose` and `feed_directive` tell what one step
does with each, and `becomes_obey` what a directive can make of the scanner; what holds all
through a run is read off that. A line *passes* when it is neither refused nor the end of the table;
`passes_iff` tells which lines pass, and a scan is decided by the first line that does not
(`scan_cases`). `scanSource_eq_ok_iff` tells when a scan succeeds, and with what. -/
namespace SchemaReport
open Text Schema

namespace Schema.Line

/-! ### What a line is to the scanner -/

/-- Whether the line carries a directive with the keyword. -/
def carries (k : Keyword) (line : Line) : Bool :=
  match line.keyword with
  | .ok (some found) => found == k
  | _ => false

theorem carries_iff {k : Keyword} {line : Line} :
    line.carries k = true ↔ line.keyword = .ok (some k) := by
  unfold carries
  split
  · next found h => simp [h]
  · next h => simpa using h k

instance (k : Keyword) (line : Line) : Decidable (line.keyword = .ok (some k)) :=
  decidable_of_iff _ carries_iff

theorem carries_eq_false_iff {k : Keyword} {line : Line} :
    line.carries k = false ↔ line.keyword ≠ .ok (some k) := by
  rw [← Bool.not_eq_true, carries_iff]

/-- Nothing carries two keywords. -/
theorem carries_of_keyword {k : Keyword} {line : Line} (h : line.keyword = .ok (some k))
    (other : Keyword) : line.carries other = (k == other) := by
  simp [carries, h]

theorem carries_of_prose {line : Line} (h : line.keyword = .ok none) (k : Keyword) :
    line.carries k = false := by
  simp [carries, h]

/-- The line is a directive with the keyword, and this is its value. -/
structure Says (line : Line) (k : Keyword) (value : String) : Prop where
  keyword : line.keyword = .ok (some k)
  value : extractValue line.text = .ok value.toList

/-- The line is a directive that lost its colon, or one whose value cannot be read. -/
def Unreadable (line : Line) (cause : ValueError) : Prop :=
  line.keyword = .error cause ∨
    ∃ k, line.keyword = .ok (some k) ∧ extractValue line.text = .error cause

theorem Says.carries {line : Line} {k : Keyword} {value : String} (h : line.Says k value) :
    line.carries k = true := carries_iff.mpr h.keyword

theorem Says.keyword_unique {line : Line} {k k' : Keyword} {value : String}
    (h : line.Says k value) (h' : line.keyword = .ok (some k')) : k' = k := by
  simpa using h'.symm.trans h.keyword

theorem Says.value_unique {line : Line} {k : Keyword} {value : String} {chars : List Char}
    (h : line.Says k value) (h' : extractValue line.text = .ok chars) : chars = value.toList := by
  simpa using h'.symm.trans h.value

/-- Every line is unreadable, prose or a directive with a value. -/
theorem reads (line : Line) : (∃ cause, line.Unreadable cause) ∨ line.keyword = .ok none ∨
    ∃ k value, line.Says k value := by
  match hk : line.keyword with
  | .error cause => exact .inl ⟨cause, .inl hk⟩
  | .ok none => exact .inr (.inl rfl)
  | .ok (some k) =>
    match hv : extractValue line.text with
    | .error cause => exact .inl ⟨cause, .inr ⟨k, hk, hv⟩⟩
    | .ok chars => exact .inr (.inr ⟨k, String.ofList chars, hk, by rw [hv, String.toList_ofList]⟩)

end Schema.Line

namespace Scanner

/-! ### One step -/

theorem feed_done {s : Scanner} (hs : s.isDone = true) (line : Line) :
    s.feed line = ⟨s, [], .ok s.phase⟩ := by
  rw [feed, if_pos hs]

theorem feed_unreadable {s : Scanner} {line : Line} {cause : ValueError} (hs : s.isDone = false)
    (h : line.Unreadable cause) : s.feed line = s.refused line (.unreadable cause) := by
  have hd : ¬ s.isDone = true := by simp [hs]
  rcases h with h | ⟨k, h, hv⟩
  · rw [feed, if_neg hd, h]
  · rw [feed, if_neg hd, h]
    simp only [hv]

theorem feed_prose {s : Scanner} {line : Line} (hs : s.isDone = false)
    (h : line.keyword = .ok none) :
    (s.feed line).scanner = s ∧ (s.feed line).outcome = .ok s.phase := by
  have hd : ¬ s.isDone = true := by simp [hs]
  rw [feed, if_neg hd, h]
  exact ⟨rfl, rfl⟩

theorem feed_directive {s : Scanner} {line : Line} {k : Keyword} {value : String}
    (hs : s.isDone = false) (h : line.Says k value) :
    (s.feed line).scanner = (s.obey line value k).scanner ∧
      (s.feed line).outcome = (s.obey line value k).outcome := by
  have hd : ¬ s.isDone = true := by simp [hs]
  rw [feed, if_neg hd, h.keyword]
  simp only [h.value, String.ofList_toList, and_self]

/-! ### What a directive does -/

/-- What a directive can make of a scanner: one with another draft, one whose table has other
names, another description or one more column, or one whose table is complete. -/
inductive Becomes (s : Scanner) (value : String) : Keyword → Scanner → Prop
  | drafting {k : Keyword} {draft : Option Draft} {phase : Phase} :
      k ∉ [.tableName, .tableDescription, .primaryKeys] →
      phase = s.phase ∨ phase = .readingColumn →
      Becomes s value k { s with draft := draft, phase := phase }
  | naming : Becomes s value .tableName
      { s with
        table := { s.table with
          sourceName := value
          structName := Naming.structName value
          jsonName := Naming.jsonName value }
        phase := .readingTableHeader }
  | describing : Becomes s value .tableDescription
      { s with
        table := { s.table with description := value }
        builder := s.builder.openTable value s.table.structName }
  | adding {column : Column} :
      (s.draft.getD {}).complete s.settings.missingFields s.previous value = .ok column →
      Becomes s value .name
        { s with
          draft := none
          table := { s.table with columns := s.table.columns ++ [column] }
          builder := s.builder.push column }
  | ending : Becomes s value .primaryKeys
      { s with
        table := { s.table with primaryKeys := value }
        report := some (s.builder.finish value s.clock.now)
        clock := s.clock.tick
        phase := .done }

theorem becomes_obey (s : Scanner) (line : Line) (value : String) (k : Keyword) :
    s.Becomes value k (s.obey line value k).scanner := by
  cases k with
  | tableName => exact .naming
  | tableDescription => exact .describing
  | columnDescription => exact .drafting (by decide) (.inr rfl)
  | type | nullable => exact .drafting (by decide) (.inl rfl)
  | length =>
    simp only [obey, setLength]
    split
    · exact .drafting (by decide) (.inl rfl)
    · exact .drafting (by decide) (.inl rfl)
  | name =>
    simp only [obey, closeColumn]
    split
    · exact .drafting (by decide) (.inl rfl)
    · next column hcolumn => exact .adding hcolumn
  | primaryKeys => exact .ending

/-- Only primary keys end the table. -/
theorem Becomes.isDone {s t : Scanner} {value : String} {k : Keyword} (h : s.Becomes value k t)
    (hs : s.isDone = false) (hk : k ≠ .primaryKeys) : t.isDone = false := by
  cases h with
  | drafting _ hphase =>
    rcases hphase with rfl | rfl
    · exact hs
    · rfl
  | naming => rfl
  | describing | adding => exact hs
  | ending => exact absurd rfl hk

theorem Becomes.settings {s t : Scanner} {value : String} {k : Keyword} (h : s.Becomes value k t) :
    t.settings = s.settings := by
  cases h <;> rfl

/-! ### Lines that pass -/

/-- Whether the line is read without an error and without ending the table. -/
def Passes (s : Scanner) (line : Line) : Prop :=
  (∃ phase, (s.feed line).outcome = .ok phase) ∧ (s.feed line).scanner.isDone = false

/-- Whether all the lines pass, one after the other. -/
def PassesAll (s : Scanner) : List Line → Prop
  | [] => True
  | line :: rest => s.Passes line ∧ (s.feed line).scanner.PassesAll rest

/-- Whether the scanner takes a directive with this value as part of the table. -/
def Admits (s : Scanner) (value : String) : Keyword → Prop
  | .length => ∃ length, Length.parse? value = some length
  | .name => ∃ column,
      (s.draft.getD {}).complete s.settings.missingFields s.previous value = .ok column
  | .primaryKeys => False
  | _ => True

theorem passes_of_prose {s : Scanner} {line : Line} (hs : s.isDone = false)
    (h : line.keyword = .ok none) : s.Passes line := by
  obtain ⟨hscanner, hok⟩ := feed_prose hs h
  exact ⟨⟨_, hok⟩, by rw [hscanner]; exact hs⟩

/-- A directive is accepted if it is the end of the table, or the scanner takes it as a part. -/
theorem obey_accepted_iff (s : Scanner) (line : Line) (value : String) (k : Keyword) :
    (∃ phase, (s.obey line value k).outcome = .ok phase) ↔
      k = .primaryKeys ∨ s.Admits value k := by
  cases k with
  | length =>
    simp only [obey, setLength, Admits]
    cases Length.parse? value with
    | none => simp [refused]
    | some length => simp [accepted]
  | name =>
    simp only [obey, closeColumn, Admits]
    cases (s.draft.getD {}).complete s.settings.missingFields s.previous value with
    | error field => simp [refused]
    | ok column => simp [accepted]
  | tableName | tableDescription | columnDescription | type | nullable | primaryKeys =>
    simp [obey, setTableName, setTableDescription, openColumn, setType, setNullable, endTable,
      accepted, Admits]

theorem passes_directive_iff {s : Scanner} {line : Line} {k : Keyword} {value : String}
    (hs : s.isDone = false) (h : line.Says k value) : s.Passes line ↔ s.Admits value k := by
  obtain ⟨hscanner, hok⟩ := feed_directive hs h
  unfold Passes
  rw [hscanner, hok, obey_accepted_iff]
  by_cases hk : k = .primaryKeys
  · subst hk
    simp [obey, endTable, accepted, isDone, Admits]
  · simp [hk, (becomes_obey s line value k).isDone hs hk]

/-- The lines that pass are prose and the directives the scanner takes. -/
theorem passes_iff {s : Scanner} {line : Line} (hs : s.isDone = false) :
    s.Passes line ↔ line.keyword = .ok none ∨ ∃ k value, line.Says k value ∧ s.Admits value k := by
  constructor
  · intro h
    rcases line.reads with ⟨cause, hu⟩ | hp | ⟨k, value, hv⟩
    · obtain ⟨phase, hok⟩ := h.1
      rw [feed_unreadable hs hu] at hok
      cases hok
    · exact .inl hp
    · exact .inr ⟨k, value, hv, (passes_directive_iff hs hv).mp h⟩
  · intro h
    rcases h with hp | ⟨k, value, hv, ha⟩
    · exact passes_of_prose hs hp
    · exact (passes_directive_iff hs hv).mpr ha

theorem passesAll_append {s : Scanner} {a b : List Line} :
    s.PassesAll (a ++ b) ↔ s.PassesAll a ∧ (s.feedAll a).PassesAll b := by
  induction a generalizing s with
  | nil => simp [PassesAll, feedAll]
  | cons line rest ih => simp only [List.cons_append, PassesAll, feedAll, ih, and_assoc]

theorem feedAll_concat (s : Scanner) (lines : List Line) (line : Line) :
    s.feedAll (lines ++ [line]) = ((s.feedAll lines).feed line).scanner :=
  feedAll_append s lines [line]

theorem passesAll_concat {s : Scanner} {lines : List Line} {line : Line} :
    s.PassesAll (lines ++ [line]) ↔ s.PassesAll lines ∧ (s.feedAll lines).Passes line := by
  rw [passesAll_append]
  simp [PassesAll]

theorem isDone_feedAll {s : Scanner} {lines : List Line} (hs : s.isDone = false)
    (h : s.PassesAll lines) : (s.feedAll lines).isDone = false := by
  induction lines generalizing s with
  | nil => exact hs
  | cons line rest ih => exact ih h.1.2 h.2

/-- The lines all pass, or there is a first one that does not. -/
theorem passesAll_or_stops (s : Scanner) (lines : List Line) : s.PassesAll lines ∨
    ∃ before line rest, lines = before ++ line :: rest ∧ s.PassesAll before ∧
      ¬ (s.feedAll before).Passes line := by
  induction lines generalizing s with
  | nil => exact .inl trivial
  | cons line rest ih =>
    by_cases hline : s.Passes line
    · rcases ih (s.feed line).scanner with hrest | ⟨before, stop, after, rfl, hbefore, hstop⟩
      · exact .inl ⟨hline, hrest⟩
      · exact .inr ⟨line :: before, stop, after, rfl, ⟨hline, hbefore⟩, hstop⟩
    · exact .inr ⟨[], line, rest, rfl, trivial, hline⟩

/-- A line that does not pass is refused, or it ends the table. -/
theorem stops_cases {s : Scanner} {line : Line} (hs : s.isDone = false) (h : ¬ s.Passes line) :
    (∃ e, (s.feed line).outcome = .error e) ∨ ∃ value, line.Says .primaryKeys value := by
  rcases line.reads with ⟨cause, hu⟩ | hp | ⟨k, value, hv⟩
  · exact .inl ⟨_, by rw [feed_unreadable hs hu]; rfl⟩
  · exact absurd (passes_of_prose hs hp) h
  · by_cases hk : k = .primaryKeys
    · exact .inr ⟨value, hk ▸ hv⟩
    · cases hok : (s.feed line).outcome with
      | error e => exact .inl ⟨e, rfl⟩
      | ok phase =>
        refine absurd ⟨⟨phase, hok⟩, ?_⟩ h
        rw [(feed_directive hs hv).1]
        exact (becomes_obey s line value k).isDone hs hk

/-- Why a line is refused: it is unreadable, its length is none, or it closes a column that
lacks a field. -/
inductive Refuses (s : Scanner) (line : Line) : LineFault → Prop
  | unreadable {cause : ValueError} : line.Unreadable cause → Refuses s line (.unreadable cause)
  | invalidLength {value : String} : line.Says .length value → Length.parse? value = none →
      Refuses s line (.invalidLength value)
  | missingField {value : String} {field : ColumnField} : line.Says .name value →
      (s.draft.getD {}).complete s.settings.missingFields s.previous value = .error field →
      Refuses s line (.missingField value field)

/-- An error tells the line it is about and why that line is refused. -/
theorem feed_error {s : Scanner} {line : Line} {e : ScanError}
    (h : (s.feed line).outcome = .error e) :
    ∃ fault, e = .atLine line.number line.raw fault ∧ s.Refuses line fault := by
  cases hs : s.isDone with
  | true =>
    rw [feed_done hs] at h
    cases h
  | false =>
    rcases line.reads with ⟨cause, hu⟩ | hp | ⟨k, value, hv⟩
    · rw [feed_unreadable hs hu] at h
      exact ⟨_, (Except.error.inj h).symm, .unreadable hu⟩
    · rw [(feed_prose hs hp).2] at h
      cases h
    · rw [(feed_directive hs hv).2] at h
      cases k with
      | length =>
        simp only [obey, setLength] at h
        cases hl : Length.parse? value with
        | none =>
          rw [hl] at h
          exact ⟨_, (Except.error.inj h).symm, .invalidLength hv hl⟩
        | some length =>
          rw [hl] at h
          cases h
      | name =>
        simp only [obey, closeColumn] at h
        cases hc : (s.draft.getD {}).complete s.settings.missingFields s.previous value with
        | error field =>
          rw [hc] at h
          exact ⟨_, (Except.error.inj h).symm, .missingField hv hc⟩
        | ok column =>
          rw [hc] at h
          cases h
      | _ => cases h

/-- What a step leaves behind: the same scanner, or what a directive made of it. -/
theorem feed_scanner_cases (s : Scanner) (line : Line) : (s.feed line).scanner = s ∨
    ∃ k value, s.isDone = false ∧ line.Says k value ∧
      (s.feed line).scanner = (s.obey line value k).scanner := by
  cases hs : s.isDone with
  | true => exact .inl (by rw [feed_done hs])
  | false =>
    rcases line.reads with ⟨cause, hu⟩ | hp | ⟨k, value, hv⟩
    · exact .inl (by rw [feed_unreadable hs hu]; rfl)
    · exact .inl (feed_prose hs hp).1
    · exact .inr ⟨k, value, rfl, hv, (feed_directive hs hv).1⟩

/-- What holds of a scanner and survives every directive of some lines holds after them. -/
theorem feedAll_keeps (Inv : Scanner → Prop) {s : Scanner} (hs : Inv s) {lines : List Line}
    (hobey : ∀ s, ∀ line ∈ lines, ∀ value k, Inv s → s.isDone = false → line.Says k value →
      Inv (s.obey line value k).scanner) : Inv (s.feedAll lines) := by
  induction lines generalizing s with
  | nil => exact hs
  | cons line rest ih =>
    refine ih ?_ fun t other hother => hobey t other (List.mem_cons_of_mem line hother)
    rcases feed_scanner_cases s line with h | ⟨k, value, hd, hv, h⟩
    · rw [h]
      exact hs
    · rw [h]
      exact hobey s line List.mem_cons_self value k hs hd hv

/-- What survives every directive there is holds after any lines. -/
theorem feedAll_invariant (Inv : Scanner → Prop)
    (hobey : ∀ s line value k, Inv s → s.isDone = false → line.Says k value →
      Inv (s.obey line value k).scanner)
    {s : Scanner} (hs : Inv s) (lines : List Line) : Inv (s.feedAll lines) :=
  feedAll_keeps Inv hs fun t line _ => hobey t line

@[simp] theorem settings_feedAll (s : Scanner) (lines : List Line) :
    (s.feedAll lines).settings = s.settings :=
  feedAll_invariant (fun t => t.settings = s.settings)
    (fun t line value k ht _ _ => (becomes_obey t line value k).settings.trans ht) rfl lines

/-- A report is there exactly when the table is complete. -/
def Reported (s : Scanner) : Prop := s.report.isSome = s.isDone

theorem Becomes.reported {s t : Scanner} {value : String} {k : Keyword} (h : s.Becomes value k t)
    (hr : s.Reported) (hs : s.isDone = false) : t.Reported := by
  have hdone := h.isDone hs
  have hnone : s.report.isSome = false := hr.trans hs
  cases h with
  | drafting hk _ =>
    exact hnone.trans (hdone fun hkeys => hk (by simp [hkeys])).symm
  | naming | describing | adding => exact hnone.trans (hdone (by decide)).symm
  | ending => rfl

theorem reported_feedAll {s : Scanner} (h : s.Reported) (lines : List Line) :
    (s.feedAll lines).Reported :=
  feedAll_invariant Reported
    (fun t line value k ht hd _ => (becomes_obey t line value k).reported ht hd) h lines

/-! ### A whole scan -/

/-- Lines that pass are read one by one before the rest. -/
theorem readThrough_append {s : Scanner} {lines : List Line} (h : s.PassesAll lines)
    (rest : List Line) :
    (s.readThrough (lines ++ rest)).outcome = ((s.feedAll lines).readThrough rest).outcome ∧
      (s.readThrough (lines ++ rest)).scanner = ((s.feedAll lines).readThrough rest).scanner := by
  induction lines generalizing s with
  | nil => exact ⟨rfl, rfl⟩
  | cons line more ih =>
    obtain ⟨⟨⟨phase, hok⟩, hdone⟩, hmore⟩ := h
    have := ih hmore
    simp only [List.cons_append, readThrough, hok, hdone, Bool.false_eq_true, if_false, feedAll]
    exact this

/-- What a scan answers when primary keys are read. -/
def output (s : Scanner) (primaryKeys : String) : ScanOutput :=
  ⟨{ s.table with primaryKeys := primaryKeys }, s.builder.finish primaryKeys s.clock.now⟩

end Scanner

section Scan
variable {settings : ScanSettings} {names : RenderSettings} {clock : Clock} {source : String}

/-- The scanner that has read some lines of a schema from its start. -/
abbrev Scanner.after (settings : ScanSettings) (names : RenderSettings) (clock : Clock)
    (lines : List Line) : Scanner :=
  (Scanner.start settings names clock).feedAll lines

theorem Scanner.after_append (before more : List Line) : after settings names clock
    (before ++ more) = (after settings names clock before).feedAll more :=
  feedAll_append _ before more

/-- Without a line that ends the table there is no table. -/
theorem scanSource_passing
    (h : (Scanner.start settings names clock).PassesAll (sourceLines source)) :
    (scanSource settings names clock source).result = .error .missingPrimaryKeys := by
  obtain ⟨hout, hscanner⟩ := Scanner.readThrough_append h []
  rw [List.append_nil] at hout hscanner
  have hreport : (Scanner.after settings names clock (sourceLines source)).report = none := by
    have hr := Scanner.reported_feedAll (s := .start settings names clock) rfl (sourceLines source)
    rw [Scanner.Reported, Scanner.isDone_feedAll rfl h] at hr
    simpa using hr
  unfold scanSource
  simp only [hout, hscanner, Scanner.readThrough, Scanner.finish, hreport]

/-- A line that is refused ends the scan with its error. -/
theorem scanSource_refused {before rest : List Line} {line : Line} {e : ScanError}
    (hlines : sourceLines source = before ++ line :: rest)
    (h : (Scanner.start settings names clock).PassesAll before)
    (he : ((Scanner.after settings names clock before).feed line).outcome = .error e) :
    (scanSource settings names clock source).result = .error e := by
  obtain ⟨hout, -⟩ := Scanner.readThrough_append h (line :: rest)
  unfold scanSource
  simp only [hlines, hout, Scanner.readThrough, he]

/-- Reading stops where primary keys end the table. -/
theorem readThrough_ended {before rest : List Line} {line : Line} {value : String}
    (hlines : sourceLines source = before ++ line :: rest)
    (h : (Scanner.start settings names clock).PassesAll before)
    (hv : line.Says .primaryKeys value) :
    ((Scanner.start settings names clock).readThrough (sourceLines source)).outcome = .ok rest ∧
      ((Scanner.start settings names clock).readThrough (sourceLines source)).scanner =
        ((Scanner.after settings names clock before).endTable line value).scanner := by
  obtain ⟨hout, hscanner⟩ := Scanner.readThrough_append h (line :: rest)
  have hs : (Scanner.after settings names clock before).isDone = false :=
    Scanner.isDone_feedAll rfl h
  obtain ⟨hfed, hok⟩ := Scanner.feed_directive hs hv
  have hdone : ((Scanner.after settings names clock before).feed line).scanner.isDone = true := by
    rw [hfed]
    rfl
  have hok' : ((Scanner.after settings names clock before).feed line).outcome = .ok .done := by
    rw [hok]
    rfl
  rw [hlines, hout, hscanner]
  simp only [Scanner.readThrough, hok', hdone, if_true, true_and]
  exact hfed

/-- Primary keys end the scan with the table and the report as they stand. -/
theorem scanSource_ended {before rest : List Line} {line : Line} {value : String}
    (hlines : sourceLines source = before ++ line :: rest)
    (h : (Scanner.start settings names clock).PassesAll before)
    (hv : line.Says .primaryKeys value) :
    (scanSource settings names clock source).result =
      .ok ((Scanner.after settings names clock before).output value) := by
  obtain ⟨hout, hscanner⟩ := readThrough_ended hlines h hv
  unfold scanSource
  simp only [hout, hscanner]
  rfl

/-- A scan goes in one of three ways. -/
theorem scan_cases (settings : ScanSettings) (names : RenderSettings) (clock : Clock)
    (source : String) : (Scanner.start settings names clock).PassesAll (sourceLines source) ∨
    ∃ before line rest, sourceLines source = before ++ line :: rest ∧
      (Scanner.start settings names clock).PassesAll before ∧
      ((∃ e, ((Scanner.after settings names clock before).feed line).outcome = .error e) ∨
        ∃ value, line.Says .primaryKeys value) := by
  rcases Scanner.passesAll_or_stops (.start settings names clock) (sourceLines source) with
    h | ⟨before, line, rest, hlines, h, hstop⟩
  · exact .inl h
  · exact .inr ⟨before, line, rest, hlines, h,
      Scanner.stops_cases (Scanner.isDone_feedAll rfl h) hstop⟩

/-- How a scan of some lines comes to its result: they all pass, one of them is refused, or
primary keys end the table. -/
inductive Scans (settings : ScanSettings) (names : RenderSettings) (clock : Clock)
    (lines : List Line) : Except ScanError ScanOutput → Prop
  | passing : (Scanner.start settings names clock).PassesAll lines →
      Scans settings names clock lines (.error .missingPrimaryKeys)
  | refused {before line rest e} : lines = before ++ line :: rest →
      (Scanner.start settings names clock).PassesAll before →
      ((Scanner.after settings names clock before).feed line).outcome = .error e →
      Scans settings names clock lines (.error e)
  | ended {before line rest value} : lines = before ++ line :: rest →
      (Scanner.start settings names clock).PassesAll before → line.Says .primaryKeys value →
      Scans settings names clock lines
        (.ok ((Scanner.after settings names clock before).output value))

theorem scans_of_result {result : Except ScanError ScanOutput}
    (h : (scanSource settings names clock source).result = result) :
    Scans settings names clock (sourceLines source) result := by
  subst h
  rcases scan_cases settings names clock source with
    hpass | ⟨before, line, rest, hlines, hpass, ⟨e, he⟩ | ⟨value, hv⟩⟩
  · exact scanSource_passing hpass ▸ .passing hpass
  · exact scanSource_refused hlines hpass he ▸ .refused hlines hpass he
  · exact scanSource_ended hlines hpass hv ▸ .ended hlines hpass hv

/-- A scan succeeds when primary keys are reached with every line before them passing. -/
theorem scanSource_eq_ok_iff {output : ScanOutput} :
    (scanSource settings names clock source).result = .ok output ↔
      ∃ before line rest value, sourceLines source = before ++ line :: rest ∧
        (Scanner.start settings names clock).PassesAll before ∧ line.Says .primaryKeys value ∧
        output = (Scanner.after settings names clock before).output value := by
  constructor
  · intro h
    cases scans_of_result h with
    | ended hlines hpass hv => exact ⟨_, _, _, _, hlines, hpass, hv, rfl⟩
  · rintro ⟨before, line, rest, value, hlines, hpass, hv, rfl⟩
    exact scanSource_ended hlines hpass hv

end Scan

/-- A result that can be checked is there. -/
theorem exists_ok_of_any {ε α : Type} {p : α → Bool} {result : Except ε α}
    (h : result.toOption.any p = true) : ∃ a, result = .ok a ∧ p a = true := by
  cases result with
  | error e => cases h
  | ok a => exact ⟨a, rfl, h⟩

end SchemaReport
