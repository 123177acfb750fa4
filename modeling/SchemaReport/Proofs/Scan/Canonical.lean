import Mathlib.Logic.Relation
import SchemaReport.Proofs.Scan.Finality
import SchemaReport.Proofs.Schema.Skipped

/-! What counts in a schema.

Of a directive only its canonical text counts, and of a line that is skipped nothing: feeding
what counts (`Line.gist?`) comes to the same as feeding the lines, but for the number and the
text of an error (`feedThrough_gist`). So schemas whose directives have the same canonical
texts, up to the first primary keys, have the same result; and a schema may be edited freely
around its directives, and in the spacing and the width of their punctuation
(`scanSource_canonical`). -/
namespace SchemaReport
open Text Schema

/-- What is wrong with a schema, wherever it is: the fault of a line, or nothing but that there
are no primary keys. -/
def ScanError.fault? : ScanError → Option LineFault
  | atLine _ _ fault => some fault
  | missingPrimaryKeys => none

/-- A fault lies in some line. -/
theorem exists_atLine {α : Type} {result : Except ScanError α} {fault : LineFault}
    (h : result.mapError ScanError.fault? = .error (some fault)) :
    ∃ number raw, result = .error (.atLine number raw fault) := by
  match result with
  | .ok a => cases h
  | .error .missingPrimaryKeys => cases h
  | .error (.atLine number raw other) =>
    cases h
    exact ⟨number, raw, rfl⟩

/-! ### What counts of a line -/

namespace Schema

def Line.isDirective (line : Line) : Bool :=
  match line.keyword with
  | .ok (some _) => true
  | _ => false

/-- What counts of a line: nothing of one that is skipped, the canonical text of a directive,
and an error as it is written. -/
def Line.gist? (line : Line) : Option Line :=
  match line.keyword with
  | .ok none => none
  | .ok (some _) => some ⟨0, String.ofList line.text⟩
  | .error _ => some ⟨0, line.raw⟩

/-- The lines up to the first with primary keys, that one included. -/
def upToKeys : List Line → List Line
  | [] => []
  | line :: rest => if line.carries .primaryKeys then [line] else line :: upToKeys rest

theorem Line.gist?_of_directive {line : Line} {k : Keyword} (h : line.keyword = .ok (some k)) :
    line.gist? = some ⟨0, String.ofList line.text⟩ := by
  rw [gist?, h]

theorem Line.gist?_of_error {line : Line} {cause : ValueError} (h : line.keyword = .error cause) :
    line.gist? = some ⟨0, line.raw⟩ := by
  rw [gist?, h]

theorem Line.gist?_eq_none_iff {line : Line} : line.gist? = none ↔ line.keyword = .ok none := by
  unfold gist?
  split
  · next h => simp [h]
  · next h => simp [h]
  · next h => simp [h]

/-- The canonical text of a line is its own canonical text. -/
theorem Line.text_canonical (line : Line) :
    Line.text ⟨0, String.ofList line.text⟩ = line.text := by
  rw [text, String.toList_ofList]
  exact canonical_canonical _

theorem Line.keyword_canonical {line : Line} {k : Keyword} (h : line.keyword = .ok (some k)) :
    Line.keyword ⟨0, String.ofList line.text⟩ = .ok (some k) := by
  rw [keyword, text_canonical]
  exact keywordOf_congr h

/-- Without errors, what counts of some lines are the canonical texts of the directives. -/
theorem filterMap_gist {lines : List Line}
    (h : ∀ line ∈ lines, line.keyword.isOk = true) : lines.filterMap Line.gist? =
      ((lines.filter Line.isDirective).map Line.text).map fun text => ⟨0, String.ofList text⟩ := by
  induction lines with
  | nil => rfl
  | cons line rest ih =>
    have hrest := ih fun other hother => h other (List.mem_cons_of_mem line hother)
    match hk : line.keyword with
    | .error cause =>
      have hok := h line List.mem_cons_self
      rw [hk] at hok
      cases hok
    | .ok none =>
      rw [List.filterMap_cons_none (Line.gist?_eq_none_iff.mpr hk), hrest,
        List.filter_cons_of_neg (by simp [Line.isDirective, hk])]
    | .ok (some k) =>
      rw [List.filterMap_cons_some (Line.gist?_of_directive hk), hrest,
        List.filter_cons_of_pos (by simp [Line.isDirective, hk])]
      rfl

end Schema

/-! ### Feeding what counts -/

theorem mapError_bind {ε ε' α β : Type} (x : Except ε α) (next : α → Except ε β) (f : ε → ε') :
    (x.bind next).mapError f = (x.mapError f).bind fun a => (next a).mapError f := by
  cases x <;> rfl

namespace Scanner

/-- Of the line of a directive only the canonical text has a say in what the directive does. -/
theorem obey_congr (s : Scanner) {a b : Line} (h : a.text = b.text) (value : String)
    (k : Keyword) : (s.obey a value k).scanner = (s.obey b value k).scanner ∧
      (s.obey a value k).outcome.mapError ScanError.fault? =
        (s.obey b value k).outcome.mapError ScanError.fault? := by
  cases k with
  | columnDescription =>
    exact ⟨by simp only [obey, openColumn, h], rfl⟩
  | length =>
    simp only [obey, setLength]
    split <;> exact ⟨rfl, rfl⟩
  | name =>
    simp only [obey, closeColumn]
    split <;> exact ⟨rfl, rfl⟩
  | tableName | tableDescription | type | nullable | primaryKeys => exact ⟨rfl, rfl⟩

/-- Feeding what counts of a line does what feeding the line does. -/
theorem feed_gist (s : Scanner) {line gist : Line} (h : line.gist? = some gist) :
    (s.feed gist).scanner = (s.feed line).scanner ∧
      (s.feed gist).outcome.mapError ScanError.fault? =
        (s.feed line).outcome.mapError ScanError.fault? := by
  cases hs : s.isDone with
  | true =>
    rw [feed_done hs, feed_done hs]
    exact ⟨rfl, rfl⟩
  | false =>
    rcases line.reads with ⟨cause, hu⟩ | hp | ⟨k, value, hv⟩
    · have hgist : gist.Unreadable cause := by
        rcases hu with hk | ⟨k, hk, hvalue⟩
        · rw [Line.gist?_of_error hk] at h
          exact .inl (Option.some.inj h ▸ hk)
        · rw [Line.gist?_of_directive hk] at h
          rw [← Option.some.inj h]
          exact .inr ⟨k, Line.keyword_canonical hk, by rw [Line.text_canonical, hvalue]⟩
      rw [feed_unreadable hs hu, feed_unreadable hs hgist]
      exact ⟨rfl, rfl⟩
    · rw [Line.gist?_eq_none_iff.mpr hp] at h
      cases h
    · rw [Line.gist?_of_directive hv.keyword] at h
      obtain rfl := Option.some.inj h
      have hgist : Line.Says ⟨0, String.ofList line.text⟩ k value :=
        ⟨Line.keyword_canonical hv.keyword, by rw [Line.text_canonical, hv.value]⟩
      obtain ⟨hscanner, hout⟩ := feed_directive hs hv
      obtain ⟨hscanner', hout'⟩ := feed_directive hs hgist
      rw [hscanner, hout, hscanner', hout']
      exact obey_congr s line.text_canonical value k

/-- Feeding what counts of some lines comes to what feeding the lines comes to. -/
theorem feedThrough_gist (s : Scanner) (lines : List Line) :
    (s.feedThrough (lines.filterMap Line.gist?)).mapError ScanError.fault? =
      (s.feedThrough lines).mapError ScanError.fault? := by
  induction lines generalizing s with
  | nil => rfl
  | cons line rest ih =>
    cases hg : line.gist? with
    | none =>
      rw [List.filterMap_cons_none hg, ih]
      cases hs : s.isDone with
      | true => rw [feedThrough_done hs, feedThrough_done hs]
      | false =>
        obtain ⟨hscanner, hout⟩ := feed_prose hs (Line.gist?_eq_none_iff.mp hg)
        rw [feedThrough_ok hout, hscanner]
    | some gist =>
      obtain ⟨hscanner, hout⟩ := feed_gist s hg
      rw [List.filterMap_cons_some hg, feedThrough_cons, feedThrough_cons, mapError_bind,
        mapError_bind, hout, hscanner]
      simp only [ih]

theorem feedThrough_upToKeys (s : Scanner) (lines : List Line) :
    s.feedThrough (upToKeys lines) = s.feedThrough lines := by
  induction lines generalizing s with
  | nil => rfl
  | cons line rest ih =>
    rw [upToKeys]
    split
    · next hk => rw [feedThrough_primaryKeys (Line.carries_iff.mp hk) s rest]
    · cases h : (s.feed line).outcome with
      | error e => rw [feedThrough_error h, feedThrough_error h]
      | ok phase => rw [feedThrough_ok h, feedThrough_ok h, ih]

end Scanner

/-! ### Editing a schema -/

namespace Schema

/-- One edit of the lines of a schema: a line that is skipped comes in, or a directive gets one
more space (or byte order mark) or has one of its punctuation marks in ASCII. -/
inductive Edit : List (List Char) → List (List Char) → Prop
  | insert (front back : List (List Char)) {raw : List Char} (h : Skipped raw) :
      Edit (front ++ back) (front ++ raw :: back)
  | space (front back : List (List Char)) {before after : List Char} {k : Keyword} {c : Char}
      (h : classify (before ++ after) = .ok (some k)) (hc : isInvisible c = true) :
      Edit (front ++ (before ++ after) :: back) (front ++ (before ++ c :: after) :: back)
  | narrow (front back : List (List Char)) {before after : List Char} {k : Keyword} {c : Char}
      (h : classify (before ++ c :: after) = .ok (some k)) :
      Edit (front ++ (before ++ c :: after) :: back) (front ++ (before ++ narrow c :: after) :: back)

/-- What counts of a line as it is written, wherever it stands. -/
def gistOf? (raw : List Char) : Option Line := Line.gist? ⟨0, String.ofList raw⟩

theorem keyword_ofList (raw : List Char) :
    Line.keyword ⟨0, String.ofList raw⟩ = classify raw := by
  rw [Line.keyword_eq_classify, String.toList_ofList]

theorem gistOf?_skipped {raw : List Char} (h : Skipped raw) : gistOf? raw = none := by
  rw [gistOf?, Line.gist?_eq_none_iff, keyword_ofList, h.classify]

theorem gistOf?_directive {raw : List Char} {k : Keyword} (h : classify raw = .ok (some k)) :
    gistOf? raw = some ⟨0, String.ofList (canonical raw)⟩ := by
  rw [gistOf?, Line.gist?_of_directive (keyword_ofList raw ▸ h), Line.text, String.toList_ofList]

/-- Two ways to write a directive count the same. -/
theorem gistOf?_congr {raw raw' : List Char} {k : Keyword} (h : classify raw = .ok (some k))
    (hcanonical : canonical raw' = canonical raw) : gistOf? raw' = gistOf? raw := by
  rw [gistOf?_directive h, gistOf?_directive (classify_congr hcanonical h), hcanonical]

/-- What an edit changes does not count. -/
theorem Edit.filterMap_gistOf {a b : List (List Char)} (h : Edit a b) :
    a.filterMap gistOf? = b.filterMap gistOf? := by
  cases h with
  | insert front back h =>
    rw [List.filterMap_append, List.filterMap_append,
      List.filterMap_cons_none (gistOf?_skipped h)]
  | @space front back before after k c h hc =>
    simp only [List.filterMap_append, List.filterMap_cons,
      gistOf?_congr h (canonical_insert hc before after)]
  | @narrow front back before after k c h =>
    simp only [List.filterMap_append, List.filterMap_cons,
      gistOf?_congr h (canonical_narrow c before after)]

/-- Nor does what any number of edits and their reversals change. -/
theorem filterMap_gistOf_congr {a b : List (List Char)} (h : Relation.EqvGen Edit a b) :
    a.filterMap gistOf? = b.filterMap gistOf? := by
  induction h with
  | rel a b h => exact h.filterMap_gistOf
  | refl a => rfl
  | symm a b _ ih => exact ih.symm
  | trans a b c _ _ ihab ihbc => exact ihab.trans ihbc

theorem filterMap_gist_numbered (n : Nat) (raws : List (List Char)) :
    (numbered n (raws.map String.ofList)).filterMap Line.gist? = raws.filterMap gistOf? := by
  induction raws generalizing n with
  | nil => rfl
  | cons raw rest ih =>
    rw [List.map_cons, numbered, List.filterMap_cons, List.filterMap_cons, ih]
    rfl

end Schema

/-! ### Whole scans -/

section Scan
variable {settings : ScanSettings} {names : RenderSettings} {clock : Clock}

/-- What lines come to: a table and its report, or what is wrong. -/
def comesTo (settings : ScanSettings) (names : RenderSettings) (clock : Clock)
    (lines : List Line) : Except (Option LineFault) ScanOutput :=
  (((Scanner.start settings names clock).feedThrough lines).bind Scanner.finish).mapError
    ScanError.fault?

theorem comesTo_gist (lines : List Line) :
    comesTo settings names clock (lines.filterMap Line.gist?) =
      comesTo settings names clock lines := by
  rw [comesTo, comesTo, mapError_bind, mapError_bind, Scanner.feedThrough_gist]

theorem comesTo_upToKeys (lines : List Line) :
    comesTo settings names clock (upToKeys lines) = comesTo settings names clock lines := by
  rw [comesTo, comesTo, Scanner.feedThrough_upToKeys]

/-- But for where an error is, a scan answers what its lines come to. -/
theorem scanSource_comesTo (source : String) :
    (scanSource settings names clock source).result.mapError ScanError.fault? =
      comesTo settings names clock (sourceLines source) := by
  rw [scanSource_eq_feedThrough, comesTo]

end Scan

/-- **Only the canonical directives of a schema count.** Let no line up to the first with
primary keys be an error in two schemas, and let the directives there have the same canonical
texts: then both have the same table and report, or fail for the same reason, and only the
number and the text of the line may differ. So it is, errors or not, with schemas that come
from one another by inserting and deleting lines that are skipped, adding and removing white
space or byte order marks in directives, and writing their punctuation wide or in ASCII. -/
theorem scanSource_canonical (settings : ScanSettings) (names : RenderSettings) (clock : Clock) :
    (∀ source other,
      (∀ line ∈ upToKeys (sourceLines source), line.keyword.isOk = true) →
      (∀ line ∈ upToKeys (sourceLines other), line.keyword.isOk = true) →
      ((upToKeys (sourceLines source)).filter Line.isDirective).map Line.text =
        ((upToKeys (sourceLines other)).filter Line.isDirective).map Line.text →
      (scanSource settings names clock source).result.mapError ScanError.fault? =
        (scanSource settings names clock other).result.mapError ScanError.fault?) ∧
    ∀ source other, Relation.EqvGen Edit (lines source.toList) (lines other.toList) →
      (scanSource settings names clock source).result.mapError ScanError.fault? =
        (scanSource settings names clock other).result.mapError ScanError.fault? := by
  refine ⟨fun source other hsource hother h => ?_, fun source other h => ?_⟩
  · rw [scanSource_comesTo, scanSource_comesTo, ← comesTo_upToKeys (sourceLines source),
      ← comesTo_upToKeys (sourceLines other), ← comesTo_gist (upToKeys (sourceLines source)),
      ← comesTo_gist (upToKeys (sourceLines other)), filterMap_gist hsource,
      filterMap_gist hother, h]
  · rw [scanSource_comesTo, scanSource_comesTo, ← comesTo_gist (sourceLines source),
      ← comesTo_gist (sourceLines other), sourceLines, sourceLines, filterMap_gist_numbered,
      filterMap_gist_numbered, filterMap_gistOf_congr h]

/-- A column that is closed without its type. -/
def tidySchema : String :=
  "table-name:t_order\n-description:金额\nname:amount\nprimary-keys:amount"

/-- The same with prose, a comment, a note, blanks, marks and wide punctuation; and what
follows the primary keys is no good. -/
def untidySchema : String :=
  "\uFEFFtable-name：t_order\n\nThe orders of the shop\n  # one row each\n- description： 金 额\n" ++
    "note: in cents\n\tname : amount\nprimary-keys:amount\ntypeNumber\n"

/-- Both fail for the same reason, each in a line of its own. -/
theorem scanSource_canonical_untidy :
    (scanSource {} {} (.ofList ⟨2024, 5, 6, 7, 8, 9⟩ []) tidySchema).result =
      .error (.atLine 3 "name:amount" (.missingField "amount" .type)) ∧
    (∃ number raw, (scanSource {} {} (.ofList ⟨2024, 5, 6, 7, 8, 9⟩ []) untidySchema).result =
      .error (.atLine number raw (.missingField "amount" .type))) ∧
    (scanSource {} {} (.ofList ⟨2024, 5, 6, 7, 8, 9⟩ []) "primary-keys：id\n").result.mapError
        ScanError.fault? =
      (scanSource {} {} (.ofList ⟨2024, 5, 6, 7, 8, 9⟩ []) "# keys\nprimary-keys: id").result.mapError
        ScanError.fault? := by
  obtain ⟨hcanonical, hedit⟩ := scanSource_canonical {} {} (.ofList ⟨2024, 5, 6, 7, 8, 9⟩ [])
  have htidy : (scanSource {} {} (.ofList ⟨2024, 5, 6, 7, 8, 9⟩ []) tidySchema).result =
      .error (.atLine 3 "name:amount" (.missingField "amount" .type)) := by decide +kernel
  refine ⟨htidy, ?_, ?_⟩
  · have hsame := hcanonical tidySchema untidySchema (by decide +kernel) (by decide +kernel)
      (by decide +kernel)
    rw [htidy] at hsame
    exact exists_atLine hsame.symm
  · have hnarrow : Edit ["primary-keys：id".toList] ["primary-keys:id".toList] :=
      @Edit.narrow [] [] "primary-keys".toList "id".toList .primaryKeys '：' (by decide +kernel)
    have hspace : Edit ["primary-keys:id".toList] ["primary-keys: id".toList] :=
      @Edit.space [] [] "primary-keys:".toList "id".toList .primaryKeys ' ' (by decide +kernel)
        (by decide)
    have hcomment : Edit ["primary-keys: id".toList] ["# keys".toList, "primary-keys: id".toList] :=
      .insert [] _ (@Skipped.comment _ "keys".toList (by decide +kernel))
    exact hedit _ _ (.trans _ _ _ (.rel _ _ hnarrow)
      (.trans _ _ _ (.rel _ _ hspace) (.rel _ _ hcomment)))

end SchemaReport
