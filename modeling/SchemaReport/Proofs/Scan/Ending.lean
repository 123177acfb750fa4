import SchemaReport.Proofs.Scan.Reading

/-! Where the table ends, and what has been logged by then.

The first line with primary keys divides a schema in one way only (`EndsAt.unique`), and a
scan that succeeds has read the lines before it, one after the other, and that line
(`scanSource_endsAt`). Its log is what the scanner logged at each of these lines, and after
that what there is to say about the lines left over (`scanSource_events`). -/
namespace SchemaReport
open Text Schema

/-! ### The end of the table -/

/-- The lines end in a table at `last`, the first line with primary keys. -/
structure Schema.EndsAt (lines before : List Line) (last : Line) (rest : List Line) : Prop where
  split : lines = before ++ last :: rest
  before : ∀ line ∈ before, line.keyword ≠ .ok (some .primaryKeys)
  last : last.keyword = .ok (some .primaryKeys)

deriving instance DecidableEq for Schema.Line

instance (lines before : List Line) (last : Line) (rest : List Line) :
    Decidable (EndsAt lines before last rest) :=
  decidable_of_iff (lines = before ++ last :: rest ∧
      (∀ line ∈ before, line.keyword ≠ .ok (some .primaryKeys)) ∧
      last.keyword = .ok (some .primaryKeys))
    ⟨fun h => ⟨h.1, h.2.1, h.2.2⟩, fun h => ⟨h.split, h.before, h.last⟩⟩

/-- The first line with primary keys can be looked for. -/
theorem Schema.EndsAt.takeWhile {lines before rest : List Line} {last : Line}
    (h : EndsAt lines before last rest) :
    lines.takeWhile (fun line => !line.carries .primaryKeys) = before ∧
      lines.dropWhile (fun line => !line.carries .primaryKeys) = last :: rest := by
  have hbefore : ∀ line ∈ before, (!line.carries .primaryKeys) = true := by
    intro line hline
    rw [Line.carries_eq_false_iff.mpr (h.before line hline)]
    rfl
  rw [h.split, List.takeWhile_append_of_pos hbefore, List.dropWhile_append_of_pos hbefore]
  simp [Line.carries_iff.mpr h.last]

theorem Schema.EndsAt.unique {lines before before' rest rest' : List Line} {last last' : Line}
    (h : EndsAt lines before last rest) (h' : EndsAt lines before' last' rest') :
    before = before' ∧ last = last' ∧ rest = rest' := by
  have hrest : last :: rest = last' :: rest' := h.takeWhile.2.symm.trans h'.takeWhile.2
  exact ⟨h.takeWhile.1.symm.trans h'.takeWhile.1, List.cons.inj hrest⟩

namespace Scanner

/-- Primary keys do not pass: they end the table. -/
theorem Passes.keyword_ne {s : Scanner} {line : Line} (hs : s.isDone = false)
    (h : s.Passes line) : line.keyword ≠ .ok (some .primaryKeys) := by
  intro hk
  rcases (passes_iff hs).mp h with hp | ⟨k, value, hv, ha⟩
  · rw [hp] at hk
    cases hk
  · obtain rfl := hv.keyword_unique hk
    exact ha

theorem PassesAll.keyword_ne {s : Scanner} {lines : List Line} (hs : s.isDone = false)
    (h : s.PassesAll lines) : ∀ line ∈ lines, line.keyword ≠ .ok (some .primaryKeys) := by
  intro line hline
  obtain ⟨earlier, later, rfl⟩ := List.append_of_mem hline
  obtain ⟨hearlier, hpasses, -⟩ := passesAll_append.mp h
  exact hpasses.keyword_ne (isDone_feedAll hs hearlier)

end Scanner

section Scan
variable {settings : ScanSettings} {names : RenderSettings} {clock : Clock} {source : String}
variable {before rest : List Line} {last : Line}

/-- A scan that succeeds has read the lines up to the first with primary keys, and answers
with what it has made of them. -/
theorem scanSource_endsAt (hends : EndsAt (sourceLines source) before last rest)
    {output : ScanOutput} (h : (scanSource settings names clock source).result = .ok output) :
    ∃ value, (Scanner.start settings names clock).PassesAll before ∧
      last.Says .primaryKeys value ∧
      output = (Scanner.after settings names clock before).output value := by
  obtain ⟨before', last', rest', value, hlines, hpass, hv, hout⟩ := scanSource_eq_ok_iff.mp h
  obtain ⟨rfl, rfl, rfl⟩ := hends.unique ⟨hlines, hpass.keyword_ne rfl, hv.keyword⟩
  exact ⟨value, hpass, hv, hout⟩

/-! ### The log -/

/-- What the scanner logs while it is fed some lines. -/
def Scanner.logged (s : Scanner) : List Line → List Event
  | [] => []
  | line :: rest => (s.feed line).events ++ (s.feed line).scanner.logged rest

namespace Scanner

theorem events_directive {s : Scanner} {line : Line} {k : Keyword} {value : String}
    (hs : s.isDone = false) (h : line.Says k value) :
    (s.feed line).events = ⟨.trace, "Directive", [("line", .number line.number),
      ("keyword", .text k.label), ("value", .text value)], .core⟩ ::
        (s.obey line value k).events := by
  have hd : ¬ s.isDone = true := by simp [hs]
  rw [feed, if_neg hd, h.keyword]
  simp only [h.value, String.ofList_toList]

theorem events_prose {s : Scanner} {line : Line} (hs : s.isDone = false)
    (h : line.keyword = .ok none) : (s.feed line).events =
      [⟨.trace, "Skipping non-directive line", [("line", .number line.number),
        ("text", .text line.raw)], .core⟩] := by
  rw [feed, if_neg (by simp [hs]), h]
  rfl

/-- A step logs nothing, that it skips a line, or that it obeys a directive. -/
theorem events_cases (s : Scanner) (line : Line) : (s.feed line).events = [] ∨
    (∃ fields, (s.feed line).events =
      [⟨.trace, "Skipping non-directive line", fields, .core⟩]) ∨
    ∃ k value fields, line.Says k value ∧ (s.feed line).events =
      ⟨.trace, "Directive", fields, .core⟩ :: (s.obey line value k).events := by
  cases hs : s.isDone with
  | true => exact .inl (by rw [feed_done hs])
  | false =>
    rcases line.reads with ⟨cause, hu⟩ | hp | ⟨k, value, hv⟩
    · exact .inl (by rw [feed_unreadable hs hu]; rfl)
    · exact .inr (.inl ⟨_, events_prose hs hp⟩)
    · exact .inr (.inr ⟨k, value, _, hv, events_directive hs hv⟩)

/-- Lines that pass have logged their events when reading goes on. -/
theorem events_readThrough {s : Scanner} {lines : List Line} (h : s.PassesAll lines)
    (rest : List Line) : (s.readThrough (lines ++ rest)).events =
      s.logged lines ++ ((s.feedAll lines).readThrough rest).events := by
  induction lines generalizing s with
  | nil => rfl
  | cons line more ih =>
    obtain ⟨⟨⟨phase, hok⟩, hdone⟩, hmore⟩ := h
    have := ih hmore
    simp only [List.cons_append, readThrough, hok, hdone, Bool.false_eq_true, if_false, logged,
      feedAll, this, List.append_assoc]

/-- What no line makes the scanner log is not in its log. -/
theorem filter_logged {p : Event → Bool} {lines : List Line}
    (h : ∀ s, ∀ line ∈ lines, (feed s line).events.filter p = []) (s : Scanner) :
    (s.logged lines).filter p = [] := by
  induction lines generalizing s with
  | nil => rfl
  | cons line rest ih =>
    rw [logged, List.filter_append, h s line List.mem_cons_self,
      ih fun t other hother => h t other (List.mem_cons_of_mem line hother), List.append_nil]

end Scanner

/-- The log of a scan that succeeds. -/
theorem scanSource_events (hends : EndsAt (sourceLines source) before last rest)
    (hpass : (Scanner.start settings names clock).PassesAll before) {value : String}
    (hv : last.Says .primaryKeys value) :
    (scanSource settings names clock source).events =
      (Scanner.start settings names clock).logged before ++
        ((Scanner.after settings names clock before).feed last).events ++ furtherTable rest := by
  obtain ⟨hout, -⟩ := readThrough_ended hends.split hpass hv
  have hs : (Scanner.after settings names clock before).isDone = false :=
    Scanner.isDone_feedAll rfl hpass
  have hdone : ((Scanner.after settings names clock before).feed last).scanner.isDone = true := by
    rw [(Scanner.feed_directive hs hv).1]
    rfl
  have hok : ((Scanner.after settings names clock before).feed last).outcome = .ok .done := by
    rw [(Scanner.feed_directive hs hv).2]
    rfl
  have hread : ((Scanner.start settings names clock).readThrough (sourceLines source)).events =
      (Scanner.start settings names clock).logged before ++
        ((Scanner.after settings names clock before).feed last).events := by
    rw [hends.split, Scanner.events_readThrough hpass]
    simp only [Scanner.readThrough, hok, hdone, if_true]
  unfold scanSource
  simp only [hout, hread]

end Scan
end SchemaReport
