import SchemaReport.Proofs.Scan.Acceptance

/-! Two readings of one schema: columns that inherit, and columns that may lack nothing.

Run side by side, the two scanners differ in their settings and at times in their drafts: a
type that stands before its description is classified by the name of the column before in
one and by no name in the other. `Shadows` is what holds all the way: as soon as the strict
draft has a heading, the two drafts are one. A name closes a column under the strict reading
only if there is a heading, so the difference never reaches the table
(`scanSource_inherit`). -/
namespace SchemaReport
open Text Schema

namespace Scanner

/-- The scanner in the reading that inherits, with some draft. -/
def inheriting (s : Scanner) (draft : Option Draft) : Scanner :=
  { s with settings := { s.settings with missingFields := .inherit }, draft := draft }

/-- `t` reads leniently what `s` reads strictly; with a heading in the strict draft nothing
but the mode tells them apart. -/
structure Shadows (t s : Scanner) : Prop where
  strict : s.settings.missingFields = .error
  same : t = s.inheriting t.draft
  draft : s.draft.bind Draft.heading ≠ none → t.draft = s.draft

/-- The strict reading refuses the line for a field its column lacks. -/
def Lacks (s : Scanner) (line : Line) : Prop :=
  ∃ column field, (s.feed line).outcome =
    .error (.atLine line.number line.raw (.missingField column field))

theorem heading_getD (draft : Option Draft) :
    (draft.getD {}).heading = draft.bind Draft.heading := by
  cases draft <;> rfl

/-- A name that is written holds in either reading. -/
theorem currentName_inheriting {s : Scanner} (h : s.draft.bind Draft.heading ≠ none) :
    (s.inheriting s.draft).currentName = s.currentName := by
  obtain ⟨heading, hheading⟩ := Option.ne_none_iff_exists'.mp h
  have hdraft : (s.inheriting s.draft).draft = s.draft := rfl
  rw [currentName, currentName, hdraft, hheading]
  simp only [Option.map_some, Draft.settled_some]

end Scanner

/-- A draft that may lack nothing completes to the same column whatever it could inherit. -/
theorem Draft.complete_inherit_of_error {d : Draft} {previous c : Column} {name : String}
    (h : d.complete .error previous name = .ok c) : d.complete .inherit previous name = .ok c := by
  have hall := (complete_error_iff d previous name).mp ⟨c, h⟩
  obtain ⟨heading, columnType, length, nullable⟩ := d
  obtain ⟨hheading, htype, hlength, hnullable⟩ := hall
  obtain ⟨heading, rfl⟩ := Option.ne_none_iff_exists'.mp hheading
  obtain ⟨columnType, rfl⟩ := Option.ne_none_iff_exists'.mp htype
  obtain ⟨length, rfl⟩ := Option.ne_none_iff_exists'.mp hlength
  obtain ⟨nullable, rfl⟩ := Option.ne_none_iff_exists'.mp hnullable
  rw [← h]
  rfl

namespace Scanner

/-- A change to the draft that leaves its heading alone keeps the two readings together. -/
theorem shadows_sketch {s : Scanner} {draft : Option Draft} {strict lenient : Draft → Draft}
    (hs : s.settings.missingFields = .error)
    (hdraft : s.draft.bind Draft.heading ≠ none → draft = s.draft)
    (hheading : ∀ d, (strict d).heading = d.heading)
    (hchange : s.draft.bind Draft.heading ≠ none → lenient = strict) :
    Shadows ((s.inheriting draft).sketch lenient) (s.sketch strict) := by
  refine ⟨hs, rfl, fun h => ?_⟩
  have hs' : s.draft.bind Draft.heading ≠ none := by
    rw [← heading_getD, ← hheading]
    exact h
  show some (lenient (draft.getD {})) = some (strict (s.draft.getD {}))
  rw [hchange hs', hdraft hs']

/-- A column that is complete strictly has a heading, so that both drafts are the same. -/
theorem complete_inheriting {s : Scanner} {draft : Option Draft} {column : Column} {name : String}
    (hs : s.settings.missingFields = .error)
    (hdraft : s.draft.bind Draft.heading ≠ none → draft = s.draft)
    (h : (s.draft.getD {}).complete s.settings.missingFields s.previous name = .ok column) :
    (draft.getD {}).complete .inherit s.previous name = .ok column := by
  rw [hs] at h
  have hheading : s.draft.bind Draft.heading ≠ none := by
    rw [← heading_getD]
    exact ((Draft.complete_error_iff _ _ _).mp ⟨column, h⟩).1
  rw [hdraft hheading]
  exact Draft.complete_inherit_of_error h

/-- A directive keeps the two readings together, or the strict one misses a field. -/
theorem shadows_obey {s : Scanner} {draft : Option Draft}
    (hs : s.settings.missingFields = .error)
    (hdraft : s.draft.bind Draft.heading ≠ none → draft = s.draft) (line : Line) (value : String)
    (k : Keyword) :
    (∃ field, (s.obey line value k).outcome =
        .error (.atLine line.number line.raw (.missingField value field))) ∨
      ((s.inheriting draft).obey line value k).outcome = (s.obey line value k).outcome ∧
        Shadows ((s.inheriting draft).obey line value k).scanner (s.obey line value k).scanner := by
  cases k with
  | tableName | tableDescription | primaryKeys =>
    exact .inr ⟨rfl, hs, rfl, hdraft⟩
  | columnDescription => exact .inr ⟨rfl, hs, rfl, fun _ => rfl⟩
  | type =>
    simp only [obey, setType, accepted]
    refine .inr ⟨rfl, shadows_sketch hs hdraft ?_ ?_⟩
    · intro d
      rfl
    · intro h
      rw [hdraft h, currentName_inheriting h]
      rfl
  | length =>
    simp only [obey, setLength]
    cases Length.parse? value with
    | none => exact .inr ⟨rfl, hs, rfl, hdraft⟩
    | some length =>
      simp only [accepted]
      refine .inr ⟨rfl, shadows_sketch hs hdraft ?_ ?_⟩
      · intro d
        rfl
      · intro _
        rfl
  | nullable =>
    simp only [obey, setNullable, accepted]
    refine .inr ⟨rfl, shadows_sketch hs hdraft ?_ ?_⟩
    · intro d
      rfl
    · intro _
      rfl
  | name =>
    simp only [obey, closeColumn]
    cases hc : (s.draft.getD {}).complete s.settings.missingFields s.previous value with
    | error field => exact .inl ⟨field, rfl⟩
    | ok column =>
      have hlenient : ((s.inheriting draft).draft.getD {}).complete
          (s.inheriting draft).settings.missingFields (s.inheriting draft).previous value =
          .ok column := complete_inheriting (s := s) hs hdraft hc
      rw [hlenient]
      exact .inr ⟨rfl, hs, rfl, fun h => absurd rfl h⟩

/-- One line keeps the two readings together, or the strict one misses a field. -/
theorem shadows_feed {t s : Scanner} (h : Shadows t s) (line : Line) : s.Lacks line ∨
    (t.feed line).outcome = (s.feed line).outcome ∧
      Shadows (t.feed line).scanner (s.feed line).scanner := by
  obtain ⟨hs, hsame, hdraft⟩ := h
  obtain ⟨draft, hd⟩ : ∃ draft, draft = t.draft := ⟨_, rfl⟩
  rw [← hd] at hsame hdraft
  subst hsame
  cases hdone : s.isDone with
  | true =>
    rw [feed_done hdone, feed_done (s := s.inheriting draft) hdone]
    exact .inr ⟨rfl, hs, rfl, hdraft⟩
  | false =>
    have hdone' : (s.inheriting draft).isDone = false := hdone
    rcases line.reads with ⟨cause, hu⟩ | hp | ⟨k, value, hv⟩
    · rw [feed_unreadable hdone hu, feed_unreadable hdone' hu]
      exact .inr ⟨rfl, hs, rfl, hdraft⟩
    · obtain ⟨hscanner, hout⟩ := feed_prose hdone hp
      obtain ⟨hscanner', hout'⟩ := feed_prose hdone' hp
      rw [hscanner, hscanner', hout, hout']
      exact .inr ⟨rfl, hs, rfl, hdraft⟩
    · obtain ⟨hscanner, hout⟩ := feed_directive hdone hv
      obtain ⟨hscanner', hout'⟩ := feed_directive hdone' hv
      unfold Lacks
      rw [hscanner, hscanner', hout, hout']
      rcases shadows_obey hs hdraft line value k with ⟨field, hlacks⟩ | hkeep
      · exact .inl ⟨value, field, hlacks⟩
      · exact .inr hkeep

/-- Lines that pass strictly pass leniently, and leave the two readings together. -/
theorem shadows_feedAll {t s : Scanner} {lines : List Line} (h : Shadows t s)
    (hpass : s.PassesAll lines) :
    t.PassesAll lines ∧ Shadows (t.feedAll lines) (s.feedAll lines) := by
  induction lines generalizing t s with
  | nil => exact ⟨trivial, h⟩
  | cons line rest ih =>
    obtain ⟨⟨⟨phase, hok⟩, hdone⟩, hrest⟩ := hpass
    rcases shadows_feed h line with ⟨column, field, hlacks⟩ | ⟨hout, hnext⟩
    · rw [hok] at hlacks
      cases hlacks
    · obtain ⟨hpasses, hshadows⟩ := ih hnext hrest
      have hdone' : (t.feed line).scanner.isDone = false := by
        rw [hnext.same]
        exact hdone
      exact ⟨⟨⟨⟨phase, by rw [hout, hok]⟩, hdone'⟩, hpasses⟩, hshadows⟩

theorem Shadows.output_eq {t s : Scanner} (h : Shadows t s) (primaryKeys : String) :
    t.output primaryKeys = s.output primaryKeys := by
  rw [h.same]
  rfl

/-- Where columns inherit, no line is refused for a field its column lacks. -/
theorem feed_inherit_ne {s : Scanner} (hs : s.settings.missingFields = .inherit) (line : Line)
    (number : Nat) (raw column : String) (field : ColumnField) :
    (s.feed line).outcome ≠ .error (.atLine number raw (.missingField column field)) := by
  intro h
  obtain ⟨fault, he, hrefuses⟩ := feed_error h
  cases he
  cases hrefuses with
  | missingField hv hc =>
    obtain ⟨c, hcomplete⟩ := Draft.complete_inherit (s.draft.getD {}) s.previous column
    rw [hs, hcomplete] at hc
    cases hc

end Scanner

/-- **Inheriting adds to the strict reading and changes nothing in it.** Unless the strict
scan misses a field of a column, both scans have one result; and the scan that inherits never
misses one. -/
theorem scanSource_inherit (floatKeywords : List String) (names : RenderSettings) (clock : Clock)
    (source : String) :
    ((∃ number raw column field,
        (scanSource ⟨.error, floatKeywords⟩ names clock source).result =
          .error (.atLine number raw (.missingField column field))) ∨
      (scanSource ⟨.inherit, floatKeywords⟩ names clock source).result =
        (scanSource ⟨.error, floatKeywords⟩ names clock source).result) ∧
    ∀ number raw column field,
      (scanSource ⟨.inherit, floatKeywords⟩ names clock source).result ≠
        .error (.atLine number raw (.missingField column field)) := by
  have hstart : Scanner.Shadows (.start ⟨.inherit, floatKeywords⟩ names clock)
      (.start ⟨.error, floatKeywords⟩ names clock) := ⟨rfl, rfl, fun h => absurd rfl h⟩
  refine ⟨?_, fun number raw column field hresult => ?_⟩
  · rcases scan_cases ⟨.error, floatKeywords⟩ names clock source with
      hpass | ⟨before, line, rest, hlines, hpass, hstop⟩
    · obtain ⟨hpass', -⟩ := Scanner.shadows_feedAll hstart hpass
      rw [scanSource_passing hpass, scanSource_passing hpass']
      exact .inr rfl
    · obtain ⟨hpass', hshadows⟩ := Scanner.shadows_feedAll hstart hpass
      rcases hstop with ⟨e, he⟩ | ⟨value, hv⟩
      · rw [scanSource_refused hlines hpass he]
        rcases Scanner.shadows_feed hshadows line with ⟨column, field, hlacks⟩ | ⟨hout, -⟩
        · rw [hlacks] at he
          rw [← Except.error.inj he]
          exact .inl ⟨_, _, column, field, rfl⟩
        · exact .inr (scanSource_refused hlines hpass' (hout.trans he))
      · rw [scanSource_ended hlines hpass hv, scanSource_ended hlines hpass' hv,
          hshadows.output_eq]
        exact .inr rfl
  · rcases scan_cases ⟨.inherit, floatKeywords⟩ names clock source with
      hpass | ⟨before, line, rest, hlines, hpass, ⟨e, he⟩ | ⟨value, hv⟩⟩
    · rw [scanSource_passing hpass] at hresult
      cases hresult
    · rw [scanSource_refused hlines hpass he] at hresult
      rw [Except.error.inj hresult] at he
      refine Scanner.feed_inherit_ne ?_ line number raw column field he
      rw [Scanner.settings_feedAll]
      rfl
    · rw [scanSource_ended hlines hpass hv] at hresult
      cases hresult

end SchemaReport
