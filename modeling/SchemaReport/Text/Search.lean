/-! Finding characters and words in a text: cutting at the first occurrence of a
character or at all of them, or into lines, and telling whether a word occurs at all. -/
namespace SchemaReport.Text

/-- The text before and after the first `mark`, or nothing when there is no `mark`. -/
def splitOnce (mark : Char) : List Char → Option (List Char × List Char)
  | [] => none
  | c :: rest =>
    if c = mark then some ([], rest)
    else (splitOnce mark rest).map fun (before, after) => (c :: before, after)

/-- What stands between the marks of a list: one part more than there are marks. -/
def parts [DecidableEq α] (mark : α) : List α → List (List α)
  | [] => [[]]
  | a :: rest =>
    if a = mark then [] :: parts mark rest
    else match parts mark rest with
      | [] => [[a]]
      | first :: others => (a :: first) :: others

/-- The lines of a text, without their endings. A line feed ends a line, a carriage return right
before it belongs to the ending, and a text that ends in a line feed has no empty line after it. A
carriage return anywhere else stays in its line. -/
def lines : List Char → List (List Char)
  | [] => []
  | '\n' :: rest => [] :: lines rest
  | '\r' :: '\n' :: rest => [] :: lines rest
  | c :: rest =>
    match lines rest with
    | [] => [[c]]
    | line :: others => (c :: line) :: others

example : lines ['a', '\r', '\n', '\n', 'b', '\r'] = [['a'], [], ['b', '\r']] := rfl
example : lines ['\n'] = [[]] ∧ lines ['a', '\n'] = [['a']] := ⟨rfl, rfl⟩

/-- Whether `word` stands somewhere in the text. The empty word stands everywhere. -/
def occurs (word : List Char) : List Char → Bool
  | [] => word.isEmpty
  | c :: rest => word.isPrefixOf (c :: rest) || occurs word rest

/-- The text without `tail` at its end, when it ends in `tail`. -/
def dropEnd? (tail text : List Char) : Option (List Char) :=
  if tail.isSuffixOf text then some (text.take (text.length - tail.length)) else none

theorem parts_ne_nil [DecidableEq α] (mark : α) (list : List α) : parts mark list ≠ [] := by
  cases list with
  | nil => simp [parts]
  | cons a rest =>
    rw [parts]
    split
    · simp
    · split <;> simp

/-- Joined by the mark, the parts are the list again. -/
theorem intercalate_parts [DecidableEq α] (mark : α) (list : List α) :
    List.intercalate [mark] (parts mark list) = list := by
  induction list with
  | nil => rfl
  | cons a rest ih =>
    have h := parts_ne_nil mark rest
    rw [parts]
    split
    · next ha =>
      subst ha
      cases hp : parts a rest with
      | nil => exact absurd hp h
      | cons first others =>
        rw [hp] at ih
        simpa [List.intercalate, List.intersperse] using ih
    · cases hp : parts mark rest with
      | nil => exact absurd hp h
      | cons first others =>
        rw [hp] at ih
        cases others <;> simpa [List.intercalate, List.intersperse] using ih

theorem splitOnce_eq_none_iff {mark : Char} {text : List Char} :
    splitOnce mark text = none ↔ mark ∉ text := by
  induction text with
  | nil => simp [splitOnce]
  | cons c rest ih =>
    by_cases h : c = mark
    · simp [splitOnce, h]
    · simp [splitOnce, h, ih, Ne.symm h]

theorem splitOnce_eq_some_iff {mark : Char} {text before after : List Char} :
    splitOnce mark text = some (before, after) ↔ text = before ++ mark :: after ∧ mark ∉ before := by
  induction text generalizing before with
  | nil => simp [splitOnce]
  | cons c rest ih =>
    by_cases h : c = mark
    · subst h
      cases before with
      | nil => simp [splitOnce, eq_comm]
      | cons b before => simp only [splitOnce, if_true, Option.some.injEq, Prod.mk.injEq]; grind
    · cases before with
      | nil => simp [splitOnce, h]
      | cons b before =>
        simp only [splitOnce, h, if_false, Option.map_eq_some_iff, Prod.mk.injEq, Prod.exists]
        grind

theorem occurs_iff {word text : List Char} : occurs word text = true ↔ word <:+: text := by
  induction text with
  | nil => simp [occurs, List.isEmpty_iff]
  | cons c rest ih =>
    rw [occurs, Bool.or_eq_true, List.isPrefixOf_iff_prefix, ih, List.infix_cons_iff]

theorem dropEnd?_eq_some_iff {tail text stem : List Char} :
    dropEnd? tail text = some stem ↔ text = stem ++ tail := by
  unfold dropEnd?
  constructor
  · intro h
    split at h
    · next hs =>
      obtain ⟨front, rfl⟩ := List.isSuffixOf_iff_suffix.mp hs
      simp only [Option.some.injEq] at h
      simp [← h]
    · cases h
  · rintro rfl
    simp

end SchemaReport.Text
