import Mathlib.Data.List.DropRight
import SchemaReport.Proofs.Scan.Reading

/-! The window of a column: the lines that can still say something about it.

A name closes a column and a description opens one, so of the lines read so far only those
after the last name count, and of these only the last description and what follows it.
`draft_after` is the invariant of the scanner: at every line that passes, its draft is what
the window says (`Draft.ofWindow`), and nothing that was read before the window shows. -/
namespace SchemaReport
open Text Schema

namespace Schema

/-- The value of a directive, as text; empty when it has none. -/
def Line.value (line : Line) : String :=
  match extractValue line.text with
  | .ok chars => String.ofList chars
  | .error _ => ""

theorem Line.Says.value_eq {line : Line} {k : Keyword} {value : String} (h : line.Says k value) :
    line.value = value := by
  rw [Line.value, h.value]
  exact String.ofList_toList

/-- The last of some lines that carries the keyword. -/
def lastLine (k : Keyword) (lines : List Line) : Option Line := lines.reverse.find? (Line.carries k)

@[simp] theorem lastLine_nil (k : Keyword) : lastLine k [] = none := rfl

@[simp] theorem lastLine_concat (k : Keyword) (lines : List Line) (line : Line) :
    lastLine k (lines ++ [line]) = if line.carries k then some line else lastLine k lines := by
  rw [lastLine, List.reverse_append]
  by_cases h : line.carries k = true
  · simp [h]
  · simp [h, lastLine]

theorem lastLine_singleton (k : Keyword) (line : Line) :
    lastLine k [line] = if line.carries k then some line else none :=
  lastLine_concat k [] line

theorem lastLine_eq_none_iff {k : Keyword} {lines : List Line} :
    lastLine k lines = none ↔ ∀ line ∈ lines, line.carries k = false := by
  simp [lastLine]

theorem mem_of_lastLine {k : Keyword} {lines : List Line} {line : Line}
    (h : lastLine k lines = some line) : line ∈ lines ∧ line.carries k = true :=
  ⟨List.mem_reverse.mp (List.mem_of_find?_eq_some h), List.find?_some h⟩

/-- The lines after the last name. -/
def sinceName (lines : List Line) : List Line := lines.rtakeWhile fun line => !line.carries .name

/-- The lines that count for the column at hand: those after the last name, from the last
description among them on when there is one. -/
def window (lines : List Line) : List Line :=
  match lastLine .columnDescription (sinceName lines) with
  | some description =>
    description :: (sinceName lines).rtakeWhile fun line => !line.carries .columnDescription
  | none => sinceName lines

theorem sinceName_concat (lines : List Line) (line : Line) :
    sinceName (lines ++ [line]) = if line.carries .name then [] else sinceName lines ++ [line] := by
  rw [sinceName, List.rtakeWhile_concat]
  cases line.carries .name <;> rfl

theorem window_concat_name {line : Line} (h : line.carries .name = true) (lines : List Line) :
    window (lines ++ [line]) = [] := by
  rw [window, sinceName_concat, if_pos h, lastLine_nil]

theorem window_concat_description {line : Line} (h : line.keyword = .ok (some .columnDescription))
    (lines : List Line) : window (lines ++ [line]) = [line] := by
  have hd : line.carries .columnDescription = true := Line.carries_iff.mpr h
  have hn : ¬ line.carries .name = true := by rw [Line.carries_of_keyword h]; decide
  rw [window, sinceName_concat, if_neg hn, lastLine_concat, if_pos hd]
  simp only [List.rtakeWhile_concat, hd, Bool.not_true, Bool.false_eq_true, if_false]

/-- Every line but a name and a description adds to the window. -/
theorem window_concat_other {line : Line} (hn : line.carries .name = false)
    (hd : line.carries .columnDescription = false) (lines : List Line) :
    window (lines ++ [line]) = window lines ++ [line] := by
  have hsince : sinceName (lines ++ [line]) = sinceName lines ++ [line] := by
    rw [sinceName_concat, hn, if_neg Bool.false_ne_true]
  rw [window, window, hsince, lastLine_concat, hd, if_neg Bool.false_ne_true]
  cases lastLine .columnDescription (sinceName lines) with
  | none => rfl
  | some description => simp [hd]

end Schema

namespace Draft

/-- The display name in force among the lines of a window: what its description says, or
where columns inherit the name of the column before. -/
def nameInForce (mode : MissingFields) (previous : Column) (lines : List Line) : String :=
  (settled mode ((lastLine .columnDescription lines).map Line.value) previous.chineseName).getD ""

/-- The draft the lines of a window amount to. Of several lines with one keyword the last
counts. -/
def ofWindow (settings : ScanSettings) (previous : Column) (lines : List Line) : Draft where
  heading := (lastLine .columnDescription lines).map fun line =>
    ⟨line.value, Scanner.saysFixed line.text⟩
  columnType := (lastLine .type lines).map fun line =>
    ColumnType.classify line.value (nameInForce settings.missingFields previous lines)
      settings.floatKeywords
  length := (lastLine .length lines).map fun line => ⟨line.value⟩
  nullable := (lastLine .nullable lines).map fun line =>
    (Scanner.readNullable line.value).getD false

variable (settings : ScanSettings) (previous : Column) (lines : List Line) {line : Line}

theorem ofWindow_nil : ofWindow settings previous [] = {} := rfl

theorem nameInForce_concat (hd : line.carries .columnDescription = false) (mode : MissingFields) :
    nameInForce mode previous (lines ++ [line]) = nameInForce mode previous lines := by
  rw [nameInForce, nameInForce, lastLine_concat, hd, if_neg Bool.false_ne_true]

/-- A line with another keyword, or with none, says nothing about a column. -/
theorem ofWindow_concat_other
    (h : ∀ k ∈ [Keyword.columnDescription, .type, .length, .nullable], line.carries k = false) :
    ofWindow settings previous (lines ++ [line]) = ofWindow settings previous lines := by
  have hd := h .columnDescription (by decide)
  have ht := h .type (by decide)
  have hl := h .length (by decide)
  have hnull := h .nullable (by decide)
  simp only [ofWindow, nameInForce_concat previous lines hd, lastLine_concat, hd, ht, hl, hnull,
    Bool.false_eq_true, if_false]

theorem ofWindow_description (h : line.keyword = .ok (some .columnDescription)) :
    ofWindow settings previous [line] =
      { heading := some ⟨line.value, Scanner.saysFixed line.text⟩ } := by
  have hc := Line.carries_of_keyword h
  simp [ofWindow, lastLine_singleton, hc]

theorem ofWindow_concat_type (h : line.keyword = .ok (some .type)) :
    ofWindow settings previous (lines ++ [line]) =
      { ofWindow settings previous lines with
        columnType := some (ColumnType.classify line.value
          (nameInForce settings.missingFields previous lines) settings.floatKeywords) } := by
  have hc := Line.carries_of_keyword h
  simp [ofWindow, hc, nameInForce_concat previous lines (by rw [hc]; rfl)]

theorem ofWindow_concat_length (h : line.keyword = .ok (some .length)) :
    ofWindow settings previous (lines ++ [line]) =
      { ofWindow settings previous lines with length := some ⟨line.value⟩ } := by
  have hc := Line.carries_of_keyword h
  simp [ofWindow, hc, nameInForce_concat previous lines (by rw [hc]; rfl)]

theorem ofWindow_concat_nullable (h : line.keyword = .ok (some .nullable)) :
    ofWindow settings previous (lines ++ [line]) =
      { ofWindow settings previous lines with
        nullable := some ((Scanner.readNullable line.value).getD false) } := by
  have hc := Line.carries_of_keyword h
  simp [ofWindow, hc, nameInForce_concat previous lines (by rw [hc]; rfl)]

end Draft

namespace Scanner

/-- The scanner's draft is what the lines of a window amount to. -/
def Sketches (s : Scanner) (lines : List Line) : Prop :=
  s.draft.getD {} = Draft.ofWindow s.settings s.previous lines

/-- The name the scanner classifies a type by is the one in force in its window. -/
theorem currentName_eq {s : Scanner} {lines : List Line} (h : s.Sketches lines) :
    s.currentName = Draft.nameInForce s.settings.missingFields s.previous lines := by
  have hheading : (s.draft.bind Draft.heading).map Heading.chineseName =
      (lastLine .columnDescription lines).map Line.value := by
    have := congrArg Draft.heading h
    have hbind : s.draft.bind Draft.heading = (s.draft.getD {}).heading := by
      cases s.draft <;> rfl
    rw [hbind, this, Draft.ofWindow, Option.map_map]
    rfl
  rw [currentName, hheading, Draft.nameInForce]
  cases Draft.settled s.settings.missingFields
    ((lastLine .columnDescription lines).map Line.value) s.previous.chineseName <;> rfl

/-- A directive that the scanner takes does to its draft what the line does to the window. -/
theorem sketches_obey {s : Scanner} {lines : List Line} (h : s.Sketches (window lines))
    {line : Line} {k : Keyword} {value : String} (hv : line.Says k value)
    (ha : s.Admits value k) : (s.obey line value k).scanner.Sketches (window (lines ++ [line])) := by
  have hc := Line.carries_of_keyword hv.keyword
  have hvalue := hv.value_eq
  unfold Sketches at h ⊢
  cases k with
  | columnDescription =>
    rw [window_concat_description hv.keyword, Draft.ofWindow_description _ _ hv.keyword, hvalue]
    rfl
  | name =>
    obtain ⟨column, hcolumn⟩ := ha
    rw [window_concat_name hv.carries, Draft.ofWindow_nil]
    simp only [obey, closeColumn, hcolumn]
    rfl
  | length =>
    obtain ⟨length, hlength⟩ := ha
    have htext : length = ⟨value⟩ := by
      unfold Length.parse? at hlength
      split at hlength
      · exact (Option.some.inj hlength).symm
      · cases hlength
    rw [window_concat_other (by rw [hc]; rfl) (by rw [hc]; rfl)]
    simp only [obey, setLength, hlength, accepted, sketch, Option.getD_some, htext]
    rw [h, Draft.ofWindow_concat_length _ _ _ hv.keyword, hvalue]
    rfl
  | type =>
    rw [window_concat_other (by rw [hc]; rfl) (by rw [hc]; rfl)]
    simp only [obey, setType, accepted, sketch, Option.getD_some]
    rw [currentName_eq h, h, Draft.ofWindow_concat_type _ _ _ hv.keyword, hvalue]
    rfl
  | nullable =>
    rw [window_concat_other (by rw [hc]; rfl) (by rw [hc]; rfl)]
    simp only [obey, setNullable, accepted, sketch, Option.getD_some]
    rw [h, Draft.ofWindow_concat_nullable _ _ _ hv.keyword, hvalue]
    rfl
  | primaryKeys => exact ha.elim
  | tableName | tableDescription =>
    rw [window_concat_other (by rw [hc]; rfl) (by rw [hc]; rfl),
      Draft.ofWindow_concat_other _ _ _ (fun k hk => by rw [hc]; revert k; decide)]
    exact h

/-- From a scanner without a draft on, the draft is what the window of the lines says. -/
theorem sketches_feedAll {s : Scanner} {lines : List Line} (hs : s.isDone = false)
    (hdraft : s.draft = none) (h : s.PassesAll lines) :
    (s.feedAll lines).Sketches (window lines) := by
  induction lines using List.reverseRecOn with
  | nil => simp only [feedAll, Sketches, hdraft]; rfl
  | append_singleton lines line ih =>
    obtain ⟨hlines, hline⟩ := passesAll_concat.mp h
    have hdone := isDone_feedAll hs hlines
    have hsketches := ih hlines
    rw [feedAll_concat]
    rcases (passes_iff hdone).mp hline with hp | ⟨k, value, hv, ha⟩
    · have hc := Line.carries_of_prose hp
      rw [(feed_prose hdone hp).1, Sketches, window_concat_other (hc _) (hc _),
        Draft.ofWindow_concat_other _ _ _ (fun k _ => hc k)]
      exact hsketches
    · rw [(feed_directive hdone hv).1]
      exact sketches_obey hsketches hv ha

/-- **Whatever lines have passed, the draft is what their window says.** -/
theorem draft_after {settings : ScanSettings} {names : RenderSettings} {clock : Clock}
    {lines : List Line} (h : (Scanner.start settings names clock).PassesAll lines) :
    (after settings names clock lines).Sketches (window lines) :=
  sketches_feedAll rfl rfl h

end Scanner
end SchemaReport
