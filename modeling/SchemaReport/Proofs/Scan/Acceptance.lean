import SchemaReport.Proofs.Scan.Window

/-! Which schemas are accepted.

A schema is a table when some line has primary keys and every line before it is in order
(`Line.InOrder`): it is recognised, its value can be read, and a length is a number. Where
columns may not lack anything, every name must besides close a column that has been
described in full (`DescribesColumn`). `scanSource_accepts_iff` says that the scanner, which
knows of a column only its draft, accepts exactly these schemas. -/
namespace SchemaReport
open Text Schema

/-! ### The rules -/

/-- What is asked of a line by itself. -/
structure Schema.Line.InOrder (line : Line) : Prop where
  recognised : ∀ cause, line.keyword ≠ .error cause
  valued : ∀ k, line.keyword = .ok (some k) → ∃ value, extractValue line.text = .ok value
  measured : line.keyword = .ok (some .length) → ∀ value, extractValue line.text = .ok value →
    value ≠ [] ∧ ∀ c ∈ value, c.isDigit = true

/-- The lines before a name describe its column in full: there is a description after the
previous name, and after the last such there are a type, a length and a nullability. -/
def DescribesColumn (earlier : List Line) : Prop :=
  ∃ front description since, earlier = front ++ description :: since ∧
    description.keyword = .ok (some .columnDescription) ∧
    (∀ line ∈ since, line.keyword ≠ .ok (some .name) ∧
      line.keyword ≠ .ok (some .columnDescription)) ∧
    ∀ k ∈ [Keyword.type, .length, .nullable], ∃ line ∈ since, line.keyword = .ok (some k)

/-! ### Columns described in full -/

theorem Schema.window_append_others {more : List Line} (lines : List Line)
    (h : ∀ line ∈ more, line.carries .name = false ∧ line.carries .columnDescription = false) :
    window (lines ++ more) = window lines ++ more := by
  induction more using List.reverseRecOn with
  | nil => simp
  | append_singleton more line ih =>
    obtain ⟨hn, hd⟩ := h line (by simp)
    rw [← List.append_assoc, window_concat_other hn hd, ih fun l hl => h l (by simp [hl]),
      List.append_assoc]

/-- A window with a description starts at it, and no other follows. -/
theorem Schema.window_eq_cons {lines : List Line}
    (h : lastLine .columnDescription (window lines) ≠ none) :
    ∃ front description since, lines = front ++ description :: since ∧
      window lines = description :: since ∧ description.carries .columnDescription = true ∧
      ∀ line ∈ since, line.carries .name = false ∧ line.carries .columnDescription = false := by
  induction lines using List.reverseRecOn with
  | nil => exact absurd rfl h
  | append_singleton lines line ih =>
    cases hn : line.carries .name with
    | true => exact absurd (by rw [window_concat_name hn, lastLine_nil]) h
    | false =>
      cases hd : line.carries .columnDescription with
      | true =>
        exact ⟨lines, line, [], rfl, window_concat_description (Line.carries_iff.mp hd) lines, hd,
          fun l hl => absurd hl List.not_mem_nil⟩
      | false =>
        rw [window_concat_other hn hd, lastLine_concat, hd, if_neg Bool.false_ne_true] at h
        obtain ⟨front, description, since, rfl, hwindow, hdescription, hsince⟩ := ih h
        refine ⟨front, description, since ++ [line], by simp, ?_, hdescription, ?_⟩
        · rw [window_concat_other hn hd, hwindow, List.cons_append]
        · intro l hl
          rcases List.mem_append.mp hl with hl | hl
          · exact hsince l hl
          · rw [List.mem_singleton.mp hl]
            exact ⟨hn, hd⟩

/-- A column is described in full when its window has each of the four directives. -/
theorem describesColumn_iff {earlier : List Line} : DescribesColumn earlier ↔
    ∀ k ∈ [Keyword.columnDescription, .type, .length, .nullable],
      lastLine k (window earlier) ≠ none := by
  constructor
  · intro hdescribes
    obtain ⟨front, description, since, rfl, hd, hothers, hall⟩ := hdescribes
    have hwindow : window (front ++ description :: since) = description :: since := by
      rw [List.append_cons, window_append_others _ fun l hl =>
        ⟨Line.carries_eq_false_iff.mpr (hothers l hl).1,
          Line.carries_eq_false_iff.mpr (hothers l hl).2⟩, window_concat_description hd]
      rfl
    intro k hk hnone
    rw [hwindow, lastLine_eq_none_iff] at hnone
    rcases List.mem_cons.mp hk with rfl | hk
    · have := hnone description (by simp)
      rw [Line.carries_iff.mpr hd] at this
      cases this
    · obtain ⟨line, hline, hkeyword⟩ := hall k hk
      have := hnone line (by simp [hline])
      rw [Line.carries_iff.mpr hkeyword] at this
      cases this
  · intro h
    obtain ⟨front, description, since, hearlier, hwindow, hd, hothers⟩ :=
      window_eq_cons (h .columnDescription (by simp))
    refine ⟨front, description, since, hearlier, Line.carries_iff.mp hd, fun l hl =>
      ⟨Line.carries_eq_false_iff.mp (hothers l hl).1,
        Line.carries_eq_false_iff.mp (hothers l hl).2⟩, fun k hk => ?_⟩
    obtain ⟨line, hline⟩ := Option.ne_none_iff_exists'.mp (h k (by simp [hk]))
    obtain ⟨hmem, hcarries⟩ := mem_of_lastLine hline
    have hkeyword := Line.carries_iff.mp hcarries
    rw [hwindow, List.mem_cons] at hmem
    rcases hmem with rfl | hmem
    · -- the description itself carries none of the other three
      rw [Line.carries_of_keyword hkeyword] at hd
      rw [beq_iff_eq] at hd
      subst hd
      simp at hk
    · exact ⟨line, hmem, hkeyword⟩

/-! ### Lines in order -/

theorem Length.parse?_ne_none_iff {text : String} : (∃ length, parse? text = some length) ↔
    text.toList ≠ [] ∧ ∀ c ∈ text.toList, c.isDigit = true := by
  unfold parse? isDigits
  simp

/-- A line that cannot be read is not in order. -/
theorem Schema.Line.not_inOrder_of_unreadable {line : Line} {cause : ValueError}
    (h : line.Unreadable cause) : ¬ line.InOrder := by
  intro horder
  rcases h with hu | ⟨k, hk, hu⟩
  · exact horder.recognised cause hu
  · obtain ⟨value, hvalue⟩ := horder.valued k hk
    rw [hu] at hvalue
    cases hvalue

/-- A directive is in order unless it is a length that is not a number. -/
theorem Schema.Line.inOrder_iff_of_says {line : Line} {k : Keyword} {value : String}
    (h : line.Says k value) :
    line.InOrder ↔ (k = .length → ∃ length, Length.parse? value = some length) := by
  rw [Length.parse?_ne_none_iff]
  constructor
  · rintro horder rfl
    exact horder.measured h.keyword _ h.value
  · intro hlength
    refine ⟨by simp [h.keyword], fun _ _ => ⟨_, h.value⟩, fun hk chars hchars => ?_⟩
    rw [h.value_unique hchars]
    exact hlength (h.keyword_unique hk).symm

/-! ### What the scanner accepts -/

namespace Draft

theorem complete_error_iff (d : Draft) (previous : Column) (name : String) :
    (∃ column, d.complete .error previous name = .ok column) ↔
      d.heading ≠ none ∧ d.columnType ≠ none ∧ d.length ≠ none ∧ d.nullable ≠ none := by
  obtain ⟨heading, columnType, length, nullable⟩ := d
  cases heading <;> cases columnType <;> cases length <;> cases nullable <;>
    simp [complete, required, bind, Except.bind, pure, Except.pure]

theorem complete_inherit (d : Draft) (previous : Column) (name : String) :
    ∃ column, d.complete .inherit previous name = .ok column := by
  simp [complete, required, bind, Except.bind, pure, Except.pure]

theorem complete_ofWindow_iff (settings : ScanSettings) (previous : Column) (earlier : List Line)
    (name : String) :
    (∃ column, (ofWindow settings previous (window earlier)).complete settings.missingFields
        previous name = .ok column) ↔
      (settings.missingFields = .error → DescribesColumn earlier) := by
  cases hmode : settings.missingFields with
  | inherit => simp [complete_inherit]
  | error =>
    rw [complete_error_iff, describesColumn_iff]
    simp [ofWindow]

end Draft

namespace Scanner
variable {settings : ScanSettings} {names : RenderSettings} {clock : Clock}

/-- The next line passes when it is in order and its name, if it has one, closes a column
that may be closed. -/
theorem passes_after_iff {earlier : List Line} {line : Line}
    (h : (Scanner.start settings names clock).PassesAll earlier) :
    (after settings names clock earlier).Passes line ↔
      line.InOrder ∧ line.keyword ≠ .ok (some .primaryKeys) ∧
        (settings.missingFields = .error → line.keyword = .ok (some .name) →
          DescribesColumn earlier) := by
  have hdone : (after settings names clock earlier).isDone = false := isDone_feedAll rfl h
  have hsketch := draft_after h
  have hsettings : (after settings names clock earlier).settings = settings :=
    settings_feedAll _ earlier
  rcases line.reads with ⟨cause, hu⟩ | hp | ⟨k, value, hv⟩
  · refine iff_of_false ?_ fun hall => Line.not_inOrder_of_unreadable hu hall.1
    intro hpasses
    obtain ⟨⟨phase, hok⟩, -⟩ := hpasses
    rw [feed_unreadable hdone hu] at hok
    cases hok
  · refine iff_of_true (passes_of_prose hdone hp) ⟨⟨?_, ?_, ?_⟩, ?_, ?_⟩ <;> simp [hp]
  · have hname := Draft.complete_ofWindow_iff settings (after settings names clock earlier).previous
      earlier value
    rw [Sketches, hsettings] at hsketch
    rw [passes_directive_iff hdone hv, Line.inOrder_iff_of_says hv, hv.keyword]
    cases k with
    | name =>
      simp only [Admits, hsketch, hsettings, hname]
      simp
    | primaryKeys => simp [Admits]
    | length => simp [Admits]
    | _ => simp [Admits]

end Scanner

/-- **A schema is accepted exactly when it has primary keys and every line before them is in
order**, closing only columns described in full where nothing may be missing. -/
theorem scanSource_accepts_iff (settings : ScanSettings) (names : RenderSettings) (clock : Clock)
    (source : String) :
    (∃ output, (scanSource settings names clock source).result = .ok output) ↔
      ∃ before last rest, sourceLines source = before ++ last :: rest ∧
        last.keyword = .ok (some .primaryKeys) ∧ (∃ value, extractValue last.text = .ok value) ∧
        (∀ line ∈ before, line.InOrder) ∧
        (settings.missingFields = .error → ∀ earlier name later, before = earlier ++ name :: later →
          name.keyword = .ok (some .name) → DescribesColumn earlier) := by
  constructor
  · intro haccepts
    obtain ⟨output, h⟩ := haccepts
    obtain ⟨before, last, rest, value, hlines, hpass, hv, -⟩ := scanSource_eq_ok_iff.mp h
    have hline : ∀ earlier line later, before = earlier ++ line :: later →
        line.InOrder ∧ (settings.missingFields = .error → line.keyword = .ok (some .name) →
          DescribesColumn earlier) := by
      intro earlier line later hbefore
      subst hbefore
      obtain ⟨hearlier, hpasses, -⟩ := Scanner.passesAll_append.mp hpass
      obtain ⟨horder, -, hname⟩ := (Scanner.passes_after_iff hearlier).mp hpasses
      exact ⟨horder, hname⟩
    refine ⟨before, last, rest, hlines, hv.keyword, ⟨_, hv.value⟩, fun line hmem => ?_,
      fun hmode earlier name later hbefore hk => (hline earlier name later hbefore).2 hmode hk⟩
    obtain ⟨earlier, later, hbefore⟩ := List.append_of_mem hmem
    exact (hline earlier line later hbefore).1
  · intro hrules
    obtain ⟨before, last, rest, hlines, hk, ⟨value, hvalue⟩, horder, hnames⟩ := hrules
    have hlast : last.Says .primaryKeys (String.ofList value) :=
      ⟨hk, by rw [hvalue, String.toList_ofList]⟩
    rcases Scanner.passesAll_or_stops (.start settings names clock) before with
      hpass | ⟨earlier, line, later, rfl, hearlier, hstop⟩
    · exact ⟨_, scanSource_ended hlines hpass hlast⟩
    · -- a line in order that does not pass can only be the end of the table, come early
      have hline := horder line (by simp)
      have hkeyword : line.keyword = .ok (some .primaryKeys) := by
        by_contra hne
        exact hstop ((Scanner.passes_after_iff hearlier).mpr
          ⟨hline, hne, fun hmode hname => hnames hmode earlier line later rfl hname⟩)
      obtain ⟨chars, hchars⟩ := hline.valued _ hkeyword
      have hv : line.Says .primaryKeys (String.ofList chars) :=
        ⟨hkeyword, by rw [hchars, String.toList_ofList]⟩
      have hlines' : sourceLines source = earlier ++ line :: (later ++ last :: rest) := by
        rw [hlines]
        simp
      exact ⟨_, scanSource_ended hlines' hearlier hv⟩

end SchemaReport
