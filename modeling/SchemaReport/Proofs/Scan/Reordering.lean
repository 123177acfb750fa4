import SchemaReport.Proofs.Scan.Canonical
import SchemaReport.Proofs.Scan.Inheriting

/-! The order of directives inside a column.

A type, a length and a nullability fill in a field of the draft each, and a type is read by a name
that none of them touches. So two neighbours of these with different keywords may change places
wherever the scanner stands (`obey_comm`), and whether one of them is refused does not depend on
the scanner at all (`passes_inside`). Hence lines inside a column may come in any order that keeps
lines with one keyword as they were (`feedThrough_reorders`): at most another one of several faults
is found first. -/
namespace SchemaReport
open Text Schema

/-! ### Reorderings -/

/-- Two lists have the same items, and of those with one key the order is the same, too. An item
without a key may go anywhere. -/
structure Reorders {α κ : Type} [DecidableEq κ] (key : α → Option κ) (old new : List α) : Prop where
  perm : old.Perm new
  order : ∀ k, old.filter (fun a => key a == some k) = new.filter (fun a => key a == some k)

namespace Reorders
variable {α β κ : Type} [DecidableEq κ] {key : α → Option κ} {old new : List α}

/-- What comes first in the new order has none of its key before it in the old one. -/
theorem head {first : α} {rest : List α} (h : Reorders key old (first :: rest)) :
    ∃ before later, old = before ++ first :: later ∧
      (∀ a ∈ before, ∀ k, key first = some k → key a ≠ some k) ∧
      Reorders key (before ++ later) rest := by
  obtain ⟨before, later, rfl, hbefore⟩ : ∃ before later, old = before ++ first :: later ∧
      ∀ a ∈ before, ∀ k, key first = some k → key a ≠ some k := by
    cases hk : key first with
    | none =>
      obtain ⟨before, later, rfl⟩ := List.append_of_mem (h.perm.mem_iff.mpr List.mem_cons_self)
      exact ⟨before, later, rfl, fun _ _ _ => nofun⟩
    | some k =>
      have horder := h.order k
      rw [List.filter_cons_of_pos (by simp [hk])] at horder
      obtain ⟨before, later, rfl, hbefore, -, -⟩ := List.filter_eq_cons_iff.mp horder
      refine ⟨before, later, rfl, fun a ha k' hk' => ?_⟩
      rw [← Option.some.inj hk']
      simpa using hbefore a ha
  refine ⟨before, later, rfl, hbefore, ?_, fun k => ?_⟩
  · exact (List.perm_middle.symm.trans h.perm).cons_inv
  · have horder := h.order k
    rw [List.filter_append, List.filter_cons, List.filter_cons] at horder
    rw [List.filter_append]
    by_cases hk : key first = some k
    · -- nothing before it has its key, so on both sides it heads the list
      have hnone : before.filter (fun a => key a == some k) = [] := by
        simpa using fun a ha => hbefore a ha k hk
      simpa [hk, hnone] using horder
    · simpa [hk] using horder

/-- What counts of the items is reordered with them. -/
theorem filterMap {f : α → Option β} {key' : β → Option κ}
    (hkey : ∀ a b, f a = some b → key' b = key a) (h : Reorders key old new) :
    Reorders key' (old.filterMap f) (new.filterMap f) where
  perm := h.perm.filterMap f
  order k := by
    have hfilter : ∀ l : List α, (l.filterMap f).filter (fun b => key' b == some k) =
        (l.filter fun a => key a == some k).filterMap f := by
      intro l
      rw [List.filter_filterMap, List.filterMap_filter]
      congr 1
      funext a
      cases hf : f a with
      | none => simp
      | some b => simp [Option.filter, hkey a b hf]
    rw [hfilter, hfilter, h.order]

end Reorders

/-! ### Lines inside a column -/

namespace Schema

/-- The keyword of a line as it is written, if it is a directive. -/
def directiveOf? (raw : List Char) : Option Keyword := (classify raw).toOption.join

/-- The keyword of a line, if it is a directive. -/
def Line.directive? (line : Line) : Option Keyword := line.keyword.toOption.join

/-- The directives that say something about a column without opening or closing it. -/
def insideColumn : List Keyword := [.type, .length, .nullable]

/-- The line carries no directive but one of these. -/
def Line.Inside (line : Line) : Prop := ∀ k ∈ line.directive?, k ∈ insideColumn

theorem Line.directive?_of_keyword {line : Line} {k : Keyword} (h : line.keyword = .ok (some k)) :
    line.directive? = some k := by
  rw [directive?, h]
  rfl

theorem Line.Inside.mem {line : Line} {k : Keyword} {value : String} (h : line.Inside)
    (hv : line.Says k value) : k ∈ insideColumn :=
  h k (directive?_of_keyword hv.keyword)

/-- What counts of a line carries the directive of the line. -/
theorem directive?_gistOf {raw : List Char} {gist : Line} (h : gistOf? raw = some gist) :
    gist.directive? = directiveOf? raw := by
  rw [directiveOf?]
  match hk : classify raw with
  | .error cause =>
    rw [gistOf?, Line.gist?_of_error (keyword_ofList raw ▸ hk)] at h
    rw [← Option.some.inj h, Line.directive?, keyword_ofList, hk]
  | .ok none =>
    rw [gistOf?, Line.gist?_eq_none_iff.mpr (keyword_ofList raw ▸ hk)] at h
    cases h
  | .ok (some k) =>
    rw [gistOf?_directive hk] at h
    rw [← Option.some.inj h, Line.directive?, keyword_ofList,
      classify_congr (canonical_canonical raw) hk]

end Schema

namespace Scanner
variable {s t : Scanner} {a b line : Line} {lines : List Line}

/-! ### One such line -/

/-- Such a line is accepted by all scanners or by none. -/
theorem passes_inside (hs : s.isDone = false) (ht : t.isDone = false) (hline : line.Inside) :
    s.Passes line ↔ t.Passes line := by
  have hadmits : ∀ k value, line.Says k value → (s.Admits value k ↔ t.Admits value k) := by
    intro k value hv
    have hk := hline.mem hv
    cases k with
    | type | length | nullable => exact Iff.rfl
    | _ => exact absurd hk (by decide)
  rw [passes_iff hs, passes_iff ht]
  refine or_congr_right (exists_congr fun k => exists_congr fun value => ?_)
  exact and_congr_right (hadmits k value)

/-- It does not end the table. -/
theorem refused_inside (hs : s.isDone = false) (hline : line.Inside) (h : ¬ s.Passes line) :
    ∃ e, (s.feed line).outcome = .error e := by
  rcases stops_cases hs h with he | ⟨value, hv⟩
  · exact he
  · exact absurd (hline.mem hv) (by decide)

theorem passesAll_inside (hs : s.isDone = false) (hlines : ∀ line ∈ lines, line.Inside) :
    s.PassesAll lines ↔ ∀ line ∈ lines, s.Passes line := by
  induction lines generalizing s with
  | nil => simp [PassesAll]
  | cons line rest ih =>
    rw [PassesAll, List.forall_mem_cons]
    refine and_congr_right fun hline => ?_
    rw [ih hline.2 fun other hother => hlines other (List.mem_cons_of_mem line hother)]
    refine forall₂_congr fun other hother => ?_
    exact passes_inside hline.2 hs (hlines other (List.mem_cons_of_mem line hother))

/-! ### Two of them -/

/-- A change to the draft that leaves its heading alone leaves the name in force. -/
theorem currentName_sketch {change : Draft → Draft} (h : ∀ d, (change d).heading = d.heading) :
    (s.sketch change).currentName = s.currentName := by
  have hheading : (s.sketch change).draft.bind Draft.heading = s.draft.bind Draft.heading :=
    (h _).trans (heading_getD s.draft)
  rw [currentName, hheading]
  rfl

/-- A type is read the same before and after a change that has to do with neither the heading nor
the type. -/
theorem setType_sketch (s : Scanner) (change : Draft → Draft)
    (hheading : ∀ d, (change d).heading = d.heading)
    (htype : ∀ (d : Draft) t, change { d with columnType := t } = { change d with columnType := t })
    (value : String) :
    ((s.sketch change).setType value).scanner = (s.setType value).scanner.sketch change := by
  simp only [setType, accepted, currentName_sketch hheading]
  exact congrArg (fun draft => { s with draft := some draft }) (htype _ _).symm

theorem setType_setLength (s : Scanner) (b : Line) (value other : String) :
    ((s.setType value).scanner.setLength b other).scanner =
      ((s.setLength b other).scanner.setType value).scanner := by
  simp only [setLength]
  split
  · next length _ =>
    exact (s.setType_sketch (fun d => { d with length := some length }) (fun _ => rfl)
      (fun _ _ => rfl) value).symm
  · rfl

theorem setType_setNullable (s : Scanner) (b : Line) (value other : String) :
    ((s.setType value).scanner.setNullable b other).scanner =
      ((s.setNullable b other).scanner.setType value).scanner :=
  (s.setType_sketch (fun d => { d with nullable := some ((readNullable other).getD false) })
    (fun _ => rfl) (fun _ _ => rfl) value).symm

theorem setLength_setNullable (s : Scanner) (a b : Line) (value other : String) :
    ((s.setLength a value).scanner.setNullable b other).scanner =
      ((s.setNullable b other).scanner.setLength a value).scanner := by
  simp only [setLength]
  split <;> rfl

/-- Two different directives inside a column may be obeyed in either order. -/
theorem obey_comm (s : Scanner) (a b : Line) (value other : String) {k k' : Keyword}
    (hk : k ∈ insideColumn) (hk' : k' ∈ insideColumn) (hne : k ≠ k') :
    ((s.obey a value k).scanner.obey b other k').scanner =
      ((s.obey b other k').scanner.obey a value k).scanner := by
  simp only [insideColumn, List.mem_cons, List.not_mem_nil, or_false] at hk hk'
  rcases hk with rfl | rfl | rfl <;> rcases hk' with rfl | rfl | rfl
  · exact absurd rfl hne
  · exact s.setType_setLength b value other
  · exact s.setType_setNullable b value other
  · exact (s.setType_setLength a other value).symm
  · exact absurd rfl hne
  · exact s.setLength_setNullable a b value other
  · exact (s.setType_setNullable a other value).symm
  · exact (s.setLength_setNullable b a other value).symm
  · exact absurd rfl hne

/-- Two lines inside a column that do not carry the same directive may be fed in either order. -/
theorem feed_comm (hs : s.isDone = false) (ha : a.Inside) (hb : b.Inside) (hpa : s.Passes a)
    (hpb : s.Passes b) (hne : ∀ k, a.directive? = some k → b.directive? ≠ some k) :
    ((s.feed a).scanner.feed b).scanner = ((s.feed b).scanner.feed a).scanner := by
  rcases (passes_iff hs).mp hpa with hprose | ⟨k, value, hv, -⟩
  · rw [(feed_prose hs hprose).1, (feed_prose hpb.2 hprose).1]
  · rcases (passes_iff hs).mp hpb with hprose | ⟨k', other, hv', -⟩
    · rw [(feed_prose hs hprose).1, (feed_prose hpa.2 hprose).1]
    · have hkeys : k ≠ k' := by
        rintro rfl
        exact hne k (Line.directive?_of_keyword hv.keyword)
          (Line.directive?_of_keyword hv'.keyword)
      rw [(feed_directive hpa.2 hv').1, (feed_directive hpb.2 hv).1, (feed_directive hs hv).1,
        (feed_directive hs hv').1]
      exact obey_comm s a b value other (ha.mem hv) (hb.mem hv') hkeys

/-! ### All of them -/

/-- A line may be fed before lines that do not carry its directive. -/
theorem feedAll_move {before : List Line} (hs : s.isDone = false) (hline : line.Inside)
    (hpass : s.Passes line) (hinside : ∀ a ∈ before, a.Inside) (hpasses : ∀ a ∈ before, s.Passes a)
    (hne : ∀ a ∈ before, ∀ k, line.directive? = some k → a.directive? ≠ some k)
    (later : List Line) :
    s.feedAll (before ++ line :: later) = (s.feed line).scanner.feedAll (before ++ later) := by
  induction before generalizing s with
  | nil => rfl
  | cons a rest ih =>
    rw [List.forall_mem_cons] at hinside hpasses hne
    have hrest : ∀ b ∈ rest, (s.feed a).scanner.Passes b := fun b hb =>
      (passes_inside hs hpasses.1.2 (hinside.2 b hb)).mp (hpasses.2 b hb)
    rw [List.cons_append, feedAll, List.cons_append, feedAll,
      ← feed_comm hs hinside.1 hline hpasses.1 hpass fun k ha hk => hne.1 k hk ha]
    exact ih hpasses.1.2 ((passes_inside hs hpasses.1.2 hline).mp hpass) hinside.2 hrest hne.2

/-- Lines inside a column that are accepted may be fed in any order. -/
theorem feedAll_reorders {new : List Line} (hs : s.isDone = false)
    (hinside : ∀ line ∈ new, line.Inside) (hpass : ∀ line ∈ new, s.Passes line)
    (h : Reorders Line.directive? lines new) : s.feedAll lines = s.feedAll new := by
  induction new generalizing s lines with
  | nil => rw [h.perm.eq_nil]
  | cons first rest ih =>
    obtain ⟨before, later, rfl, hne, hrest⟩ := h.head
    rw [List.forall_mem_cons] at hinside hpass
    have hmem : ∀ a ∈ before, a ∈ rest := fun a ha =>
      hrest.perm.subset (List.mem_append_left later ha)
    have hpass' : ∀ line ∈ rest, (s.feed first).scanner.Passes line := fun line hline =>
      (passes_inside hs hpass.1.2 (hinside.2 line hline)).mp (hpass.2 line hline)
    rw [feedAll_move hs hinside.1 hpass.1 (fun a ha => hinside.2 a (hmem a ha))
      (fun a ha => hpass.2 a (hmem a ha)) hne, feedAll]
    exact ih hpass.1.2 hinside.2 hpass' hrest

theorem feedThrough_passing (h : s.PassesAll lines) (rest : List Line) :
    s.feedThrough (lines ++ rest) = (s.feedAll lines).feedThrough rest := by
  induction lines generalizing s with
  | nil => rfl
  | cons line more ih =>
    obtain ⟨⟨⟨phase, hok⟩, -⟩, hmore⟩ := h
    rw [List.cons_append, feedThrough_ok hok, feedAll, ih hmore]

/-- Lines inside a column come to a scanner if all of them are accepted. -/
theorem feedThrough_inside (hs : s.isDone = false) (hinside : ∀ line ∈ lines, line.Inside) :
    (∀ line ∈ lines, s.Passes line) ∧ s.feedThrough lines = .ok (s.feedAll lines) ∨
      (∃ line ∈ lines, ¬ s.Passes line) ∧ ∃ e, s.feedThrough lines = .error e := by
  rcases passesAll_or_stops s lines with hpass | ⟨before, line, rest, rfl, hpass, hstop⟩
  · refine .inl ⟨(passesAll_inside hs hinside).mp hpass, ?_⟩
    have hfeed := feedThrough_passing hpass []
    rwa [List.append_nil] at hfeed
  · have hline := hinside line (by simp)
    have hdone := isDone_feedAll hs hpass
    obtain ⟨e, he⟩ := refused_inside hdone hline hstop
    refine .inr ⟨⟨line, by simp, fun h => hstop ((passes_inside hs hdone hline).mp h)⟩, e, ?_⟩
    rw [feedThrough_passing hpass, feedThrough_error he]

/-- **However the lines inside a column are ordered, they come to the same scanner or to an
error**, as long as lines with one directive keep their order. -/
theorem feedThrough_reorders (s : Scanner) {new : List Line}
    (hinside : ∀ line ∈ new, line.Inside) (h : Reorders Line.directive? lines new) :
    (s.feedThrough lines).toOption = (s.feedThrough new).toOption := by
  cases hs : s.isDone with
  | true => rw [feedThrough_done hs, feedThrough_done hs]
  | false =>
    have hinside' : ∀ line ∈ lines, line.Inside := fun line hline =>
      hinside line (h.perm.subset hline)
    rcases feedThrough_inside hs hinside with ⟨hpass, hok⟩ | ⟨⟨line, hline, hstop⟩, e, he⟩
    · rcases feedThrough_inside hs hinside' with ⟨-, hok'⟩ | ⟨⟨line, hline, hstop⟩, -⟩
      · rw [hok, hok', feedAll_reorders hs hinside hpass h]
      · exact absurd (hpass line (h.perm.subset hline)) hstop
    · rcases feedThrough_inside hs hinside' with ⟨hpass, -⟩ | ⟨-, e', he'⟩
      · exact absurd (hpass line (h.perm.symm.subset hline)) hstop
      · rw [he, he']
        rfl

end Scanner

/-! ### Whole scans -/

theorem toOption_bind {ε α β : Type} (x : Except ε α) (next : α → Except ε β) :
    (x.bind next).toOption = x.toOption.bind fun a => (next a).toOption := by
  cases x <;> rfl

theorem mapError_eq_ok_iff {ε ε' α : Type} {x : Except ε α} {f : ε → ε'} {a : α} :
    x.mapError f = .ok a ↔ x = .ok a := by
  cases x <;> simp [Except.mapError]

theorem toOption_eq_some_iff {ε α : Type} {x : Except ε α} {a : α} :
    x.toOption = some a ↔ x = .ok a := by
  cases x <;> simp [Except.toOption]

section Scan
variable {settings : ScanSettings} {names : RenderSettings} {clock : Clock}

/-- What the lines of a schema as they are written come to, if it is a table with its report. -/
theorem scanSource_eq_ok_iff_gist {source : String} {raws : List (List Char)} {output : ScanOutput}
    (h : lines source.toList = raws) :
    (scanSource settings names clock source).result = .ok output ↔
      ((Scanner.start settings names clock).feedThrough (raws.filterMap gistOf?)).toOption.bind
        (fun s => s.finish.toOption) = some output := by
  rw [← toOption_bind, toOption_eq_some_iff, ← mapError_eq_ok_iff (f := ScanError.fault?),
    scanSource_comesTo, ← comesTo_gist, sourceLines, h, filterMap_gist_numbered, comesTo,
    mapError_eq_ok_iff]

/-- **The order of the directives inside a column is free.** Let two schemas be one but for a
stretch of lines without any directives other than types, lengths and nullabilities, such as the
lines between the description of a column and its name, and let the lines of this stretch be in
another order, but types among themselves, lengths among themselves and nullabilities among
themselves in the same one. Then a scan of the one succeeds exactly when a scan of the other does,
and both come to the same table and the same report. -/
theorem scanSource_reorders (settings : ScanSettings) (names : RenderSettings) (clock : Clock)
    {source other : String} {front inside inside' back : List (List Char)}
    (hsource : lines source.toList = front ++ inside ++ back)
    (hother : lines other.toList = front ++ inside' ++ back)
    (hinside : ∀ raw ∈ inside, ∀ k ∈ directiveOf? raw, k ∈ insideColumn)
    (h : Reorders directiveOf? inside inside') (output : ScanOutput) :
    (scanSource settings names clock source).result = .ok output ↔
      (scanSource settings names clock other).result = .ok output := by
  have hgist : ∀ line ∈ inside'.filterMap gistOf?, line.Inside := by
    intro line hline k hk
    obtain ⟨raw, hraw, hgist⟩ := List.mem_filterMap.mp hline
    rw [directive?_gistOf hgist] at hk
    exact hinside raw (h.perm.symm.subset hraw) k hk
  have hgists := h.filterMap fun _ _ => directive?_gistOf
  have hsame := fun s => Scanner.feedThrough_reorders s hgist hgists
  rw [scanSource_eq_ok_iff_gist hsource, scanSource_eq_ok_iff_gist hother]
  simp only [List.filterMap_append, Scanner.feedThrough_append, toOption_bind, hsame]

/-- A column that says its type twice. -/
def retypedSchema : String :=
  "table-name:t_order\n-description:金额\ntype:string\ntype:number\nlength:10\nnullable:no\n" ++
    "name:amount\nprimary-keys:amount"

/-- The same with its directives in another order, but for the two types. -/
def shuffledSchema : String :=
  "table-name:t_order\n-description:金额\nnullable:no\ntype:string\nlength:10\ntype:number\n" ++
    "name:amount\nprimary-keys:amount"

/-- Both come to the same table, in which the second type counts. -/
theorem scanSource_reorders_shuffled : ∃ output,
    (scanSource {} {} (.ofList ⟨2024, 5, 6, 7, 8, 9⟩ []) retypedSchema).result = .ok output ∧
    (scanSource {} {} (.ofList ⟨2024, 5, 6, 7, 8, 9⟩ []) shuffledSchema).result = .ok output ∧
    output.table.columns.map Column.columnType = [.float] := by
  have hany : (scanSource {} {} (.ofList ⟨2024, 5, 6, 7, 8, 9⟩ [])
      retypedSchema).result.toOption.any
        (fun output => output.table.columns.map Column.columnType == [.float]) = true := by
    decide +kernel
  obtain ⟨output, hretyped, hcolumns⟩ := exists_ok_of_any hany
  have hshuffled := (@scanSource_reorders {} {} (.ofList ⟨2024, 5, 6, 7, 8, 9⟩ [])
    retypedSchema shuffledSchema
    ["table-name:t_order".toList, "-description:金额".toList]
    ["type:string".toList, "type:number".toList, "length:10".toList, "nullable:no".toList]
    ["nullable:no".toList, "type:string".toList, "length:10".toList, "type:number".toList]
    ["name:amount".toList, "primary-keys:amount".toList]
    (by decide +kernel) (by decide +kernel) (by decide +kernel)
    ⟨by decide +kernel, fun k => by cases k <;> decide +kernel⟩ output).mp hretyped
  exact ⟨output, hretyped, hshuffled, by simpa using hcolumns⟩

end Scan
end SchemaReport
