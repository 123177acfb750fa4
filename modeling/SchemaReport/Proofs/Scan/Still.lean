import SchemaReport.Scan.Source

/-! Clocks that stand still.

A clock whose readings are all the same tells the same time however often it has been looked at, so
a scan comes to the same result whenever it is begun (`scanSource_still`). -/
namespace SchemaReport
open Text Schema

namespace Clock

/-- All readings are the same. -/
def Still (clock : Clock) (time : Timestamp) : Prop := ∀ n, clock.readings n = time

theorem Still.now {clock : Clock} {time : Timestamp} (h : clock.Still time) :
    clock.now = time := h clock.taken

theorem Still.tick {clock : Clock} {time : Timestamp} (h : clock.Still time) :
    clock.tick.Still time := h

end Clock

namespace Scanner
variable {s : Scanner} {clock : Clock} {time : Timestamp}

/-- The scanner with another clock. -/
def withClock (s : Scanner) (clock : Clock) : Scanner := { s with clock := clock }

/-- A directive does the same by any clock that tells the same time. -/
theorem obey_withClock (hs : s.clock.Still time) (hclock : clock.Still time) (line : Line)
    (value : String) (keyword : Keyword) : ∃ clock', clock'.Still time ∧
    (s.obey line value keyword).scanner.clock.Still time ∧
    (s.withClock clock).obey line value keyword =
      { s.obey line value keyword with
        scanner := (s.obey line value keyword).scanner.withClock clock' } := by
  cases keyword with
  | tableName => exact ⟨clock, hclock, hs, rfl⟩
  | tableDescription => exact ⟨clock, hclock, hs, rfl⟩
  | columnDescription => exact ⟨clock, hclock, hs, rfl⟩
  | type => exact ⟨clock, hclock, hs, rfl⟩
  | length =>
    refine ⟨clock, hclock, ?_⟩
    show (s.setLength line value).scanner.clock.Still time ∧
      (s.withClock clock).setLength line value = _
    simp only [obey, setLength]
    cases Length.parse? value with
    | some length => exact ⟨hs, rfl⟩
    | none => exact ⟨hs, rfl⟩
  | nullable => exact ⟨clock, hclock, hs, rfl⟩
  | name =>
    refine ⟨clock, hclock, ?_⟩
    have hdraft : ((s.withClock clock).draft.getD {}).complete
      (s.withClock clock).settings.missingFields (s.withClock clock).previous value =
        (s.draft.getD {}).complete s.settings.missingFields s.previous value := rfl
    simp only [obey, closeColumn, hdraft]
    cases (s.draft.getD {}).complete s.settings.missingFields s.previous value with
    | error field => exact ⟨hs, rfl⟩
    | ok column => exact ⟨hs, rfl⟩
  | primaryKeys =>
    refine ⟨clock.tick, hclock.tick, hs.tick, ?_⟩
    have hnow : (s.withClock clock).clock.now = s.clock.now := hclock.now.trans hs.now.symm
    simp only [obey, endTable, hnow]
    rfl

theorem feed_withClock (hs : s.clock.Still time) (hclock : clock.Still time) (line : Line) :
    ∃ clock', clock'.Still time ∧ (s.feed line).scanner.clock.Still time ∧
    (s.withClock clock).feed line =
      { s.feed line with scanner := (s.feed line).scanner.withClock clock' } := by
  have hdone : (s.withClock clock).isDone = s.isDone := rfl
  unfold feed
  rw [hdone]
  split
  · exact ⟨clock, hclock, hs, rfl⟩
  · split
    · exact ⟨clock, hclock, hs, rfl⟩
    · exact ⟨clock, hclock, hs, rfl⟩
    · next keyword _ =>
      split
      · exact ⟨clock, hclock, hs, rfl⟩
      · next chars _ =>
        obtain ⟨clock', hclock', hs', hobey⟩ :=
          obey_withClock hs hclock line (String.ofList chars) keyword
        refine ⟨clock', hclock', hs', ?_⟩
        dsimp only
        rw [hobey]

theorem readThrough_withClock (hs : s.clock.Still time) (hclock : clock.Still time)
    (lines : List Line) : ∃ clock',
    (s.withClock clock).readThrough lines =
      { s.readThrough lines with scanner := (s.readThrough lines).scanner.withClock clock' } := by
  induction lines generalizing s clock with
  | nil => exact ⟨clock, rfl⟩
  | cons line rest ih =>
    obtain ⟨clock', hclock', hs', hfeed⟩ := feed_withClock hs hclock line
    obtain ⟨clock'', hrest⟩ := ih hs' hclock'
    have hdone : ((s.feed line).scanner.withClock clock').isDone =
      (s.feed line).scanner.isDone := rfl
    rw [readThrough, readThrough, hfeed]
    dsimp only
    cases (s.feed line).outcome with
    | error e => exact ⟨clock', rfl⟩
    | ok phase =>
      dsimp only
      rw [hdone]
      split
      · exact ⟨clock', rfl⟩
      · exact ⟨clock'', by rw [hrest]⟩

/-- Reading lines leaves a clock that stands still. -/
theorem still_readThrough (hs : s.clock.Still time) (lines : List Line) :
    (s.readThrough lines).scanner.clock.Still time := by
  induction lines generalizing s with
  | nil => exact hs
  | cons line rest ih =>
    obtain ⟨-, -, hs', -⟩ := feed_withClock hs hs line
    rw [readThrough]
    dsimp only
    cases (s.feed line).outcome with
    | error e => exact hs'
    | ok phase =>
      dsimp only
      split
      · exact hs'
      · exact ih hs'

end Scanner

theorem still_scanSource {clock : Clock} {time : Timestamp} (h : clock.Still time)
    (settings : ScanSettings) (names : RenderSettings) (source : String) :
    (scanSource settings names clock source).clock.Still time := by
  have hread := Scanner.still_readThrough (s := .start settings names clock) h.tick
    (sourceLines source)
  unfold scanSource
  dsimp only
  split <;> exact hread

/-- By a clock that stands still a schema is scanned to the same result, however often the clock
has been looked at. -/
theorem scanSource_still {clock clock' : Clock} {time : Timestamp} (h : clock.Still time)
    (h' : clock'.Still time) (settings : ScanSettings) (names : RenderSettings) (source : String) :
    (scanSource settings names clock' source).result =
      (scanSource settings names clock source).result := by
  have hstart : Scanner.start settings names clock' =
      (Scanner.start settings names clock).withClock clock'.tick := by
    rw [Scanner.start, h'.now, ← h.now]
    rfl
  obtain ⟨clock'', hread⟩ := Scanner.readThrough_withClock (s := .start settings names clock)
    h.tick h'.tick (sourceLines source)
  unfold scanSource
  rw [hstart, hread]
  dsimp only
  cases ((Scanner.start settings names clock).readThrough (sourceLines source)).outcome <;> rfl

end SchemaReport
