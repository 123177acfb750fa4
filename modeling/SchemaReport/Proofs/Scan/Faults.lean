import Mathlib.Data.List.Basic
import SchemaReport.Proofs.Scan.Ending

/-! Where errors point.

A scan fails at the first line that is refused (`scanSource_eq_fault_iff`), or because no line
is refused and none ends the table (`scanSource_eq_missing_iff`). So the number and the text of
an error are those of that line, the lines before it are a schema without primary keys, and
the lines after it have no say (`scanSource_first_fault`). -/
namespace SchemaReport
open Text Schema

namespace Scanner
variable {settings : ScanSettings} {names : RenderSettings} {clock : Clock}

/-- Lines all pass when each is accepted after those before it, and none has primary keys. -/
theorem passesAll_iff {lines : List Line} : (start settings names clock).PassesAll lines ↔
    (∀ before line rest, lines = before ++ line :: rest →
      ∃ phase, ((after settings names clock before).feed line).outcome = .ok phase) ∧
    ∀ line ∈ lines, line.keyword ≠ .ok (some .primaryKeys) := by
  constructor
  · intro h
    refine ⟨fun before line rest hlines => ?_, h.keyword_ne rfl⟩
    subst hlines
    obtain ⟨-, hpasses, -⟩ := passesAll_append.mp h
    exact hpasses.1
  · intro hall
    obtain ⟨haccepted, hkeyword⟩ := hall
    rcases passesAll_or_stops (start settings names clock) lines with
      h | ⟨before, line, rest, rfl, hbefore, hstop⟩
    · exact h
    · obtain ⟨phase, hok⟩ := haccepted before line rest rfl
      rcases stops_cases (isDone_feedAll rfl hbefore) hstop with ⟨e, he⟩ | ⟨value, hv⟩
      · rw [after, he] at hok
        cases hok
      · exact absurd hv.keyword (hkeyword line (by simp))

end Scanner

section Scan
variable {settings : ScanSettings} {names : RenderSettings} {clock : Clock} {source : String}

theorem scanSource_eq_missing_iff :
    (scanSource settings names clock source).result = .error .missingPrimaryKeys ↔
      (Scanner.start settings names clock).PassesAll (sourceLines source) := by
  constructor
  · intro h
    cases scans_of_result h with
    | passing hpass => exact hpass
    | refused _ _ he =>
      obtain ⟨fault, hfault, -⟩ := Scanner.feed_error he
      cases hfault
  · exact scanSource_passing

/-- The error of a line is that of the first line that is refused. -/
theorem scanSource_eq_fault_iff {number : Nat} {raw : String} {fault : LineFault} :
    (scanSource settings names clock source).result = .error (.atLine number raw fault) ↔
      ∃ before line rest, sourceLines source = before ++ line :: rest ∧
        (Scanner.start settings names clock).PassesAll before ∧
        ((Scanner.after settings names clock before).feed line).outcome =
          .error (.atLine number raw fault) := by
  constructor
  · intro h
    cases scans_of_result h with
    | refused hlines hpass he => exact ⟨_, _, _, hlines, hpass, he⟩
  · rintro ⟨before, line, rest, hlines, hpass, he⟩
    exact scanSource_refused hlines hpass he

end Scan

/-- **An error points at the first line that is not accepted.** It has the number and the text
of that line, which no primary keys precede; the lines before it alone make a schema that only
lacks its primary keys, and whatever follows it the error is the same. Primary keys are
missing exactly when every line is accepted and none has them. -/
theorem scanSource_first_fault (settings : ScanSettings) (names : RenderSettings) (clock : Clock)
    (source : String) :
    (∀ number raw fault,
      (scanSource settings names clock source).result = .error (.atLine number raw fault) →
        1 ≤ number ∧ number ≤ (lines source.toList).length ∧
        (lines source.toList)[number - 1]? = some raw.toList ∧
        (∀ earlier ∈ (lines source.toList).take (number - 1),
          classify earlier ≠ .ok (some .primaryKeys)) ∧
        (∀ shorter : String, lines shorter.toList = (lines source.toList).take (number - 1) →
          (scanSource settings names clock shorter).result = .error .missingPrimaryKeys) ∧
        ∀ other : String, (lines other.toList).take number = (lines source.toList).take number →
          (scanSource settings names clock other).result = .error (.atLine number raw fault)) ∧
    ((scanSource settings names clock source).result = .error .missingPrimaryKeys ↔
      (∀ before line rest, sourceLines source = before ++ line :: rest →
        ∃ phase, ((Scanner.after settings names clock before).feed line).outcome = .ok phase) ∧
      ∀ raw ∈ lines source.toList, classify raw ≠ .ok (some .primaryKeys)) := by
  refine ⟨fun number raw fault h => ?_, ?_⟩
  · obtain ⟨before, line, rest, hlines, hpass, he⟩ := scanSource_eq_fault_iff.mp h
    obtain ⟨fault', hfault, -⟩ := Scanner.feed_error he
    cases hfault
    obtain ⟨hnumber, hraw⟩ := sourceLines_place hlines
    have hbefore : (sourceLines source).take before.length = before := by
      rw [hlines, List.take_left]
    have hupto : (sourceLines source).take (before.length + 1) = before ++ [line] := by
      rw [hlines, List.append_cons, List.take_left' (by simp)]
    rw [hnumber, Nat.add_sub_cancel]
    refine ⟨Nat.succ_pos _, (List.getElem?_eq_some_iff.mp hraw).1, hraw, ?_, ?_, ?_⟩
    · rw [← raws_sourceLines, ← List.map_take, hbefore, List.forall_mem_map]
      exact hpass.keyword_ne rfl
    · intro shorter hshorter
      apply scanSource_passing
      rw [sourceLines, hshorter, ← take_sourceLines, hbefore]
      exact hpass
    · intro other hother
      have hsplit : sourceLines other =
          before ++ line :: (sourceLines other).drop (before.length + 1) := by
        rw [List.append_cons, ← hupto, ← take_sourceLines_congr hother, List.take_append_drop]
      exact hnumber ▸ scanSource_refused hsplit hpass he
  · rw [scanSource_eq_missing_iff, Scanner.passesAll_iff, ← raws_sourceLines, List.forall_mem_map]
    rfl

/-- A column whose length is not told, and more after it. -/
def unmeasuredSchema : String :=
  "table-name:t_order\n-description:金额\ntype:Number\n  name: amount\r\nprimary-keys:amount\n"

/-- The line that closes the column is to blame. The lines before it only lack their primary
keys, and a worse line after it changes nothing. -/
theorem scanSource_first_fault_unmeasured :
    (scanSource {} {} (.ofList ⟨2024, 5, 6, 7, 8, 9⟩ []) unmeasuredSchema).result =
      .error (.atLine 4 "  name: amount" (.missingField "amount" .length)) ∧
    (lines unmeasuredSchema.toList)[3]? = some "  name: amount".toList ∧
    (scanSource {} {} (.ofList ⟨2024, 5, 6, 7, 8, 9⟩ [])
      "table-name:t_order\n-description:金额\ntype:Number").result = .error .missingPrimaryKeys ∧
    (scanSource {} {} (.ofList ⟨2024, 5, 6, 7, 8, 9⟩ [])
      "table-name:t_order\n-description:金额\ntype:Number\n  name: amount\ntypeNumber").result =
        .error (.atLine 4 "  name: amount" (.missingField "amount" .length)) := by
  have hfault : (scanSource {} {} (.ofList ⟨2024, 5, 6, 7, 8, 9⟩ []) unmeasuredSchema).result =
      .error (.atLine 4 "  name: amount" (.missingField "amount" .length)) := by
    decide
  obtain ⟨-, -, hraw, -, hshorter, hother⟩ :=
    (scanSource_first_fault {} {} (.ofList ⟨2024, 5, 6, 7, 8, 9⟩ []) unmeasuredSchema).1 _ _ _ hfault
  exact ⟨hfault, hraw, hshorter _ (by decide), hother _ (by decide)⟩

end SchemaReport
