import SchemaReport.Text.Characters

/-! Lines of a schema. A line is read in a canonical form without white space and without
byte order marks, in which the wide punctuation of Chinese texts has become ASCII; the
line as written is kept for messages. -/
namespace SchemaReport.Schema
open Text

/-- The ASCII form of the wide comma, full stop and colon. -/
def narrow (c : Char) : Char :=
  if c = '，' then ',' else if c = '。' then '.' else if c = '：' then ':' else c

/-- The canonical form of a line. -/
def canonical (raw : List Char) : List Char :=
  (raw.filter fun c => !isInvisible c).map narrow

/-- One line of a schema, as written. Numbers count from one. -/
structure Line where
  number : Nat
  raw : String

/-- The line in canonical form. -/
def Line.text (line : Line) : List Char := canonical line.raw.toList

/-- The lines of a schema, numbered from `first`. -/
def numbered (first : Nat) : List String → List Line
  | [] => []
  | raw :: rest => ⟨first, raw⟩ :: numbered (first + 1) rest

theorem map_raw_numbered (first : Nat) (raws : List String) :
    (numbered first raws).map Line.raw = raws := by
  induction raws generalizing first with
  | nil => rfl
  | cons raw rest ih => exact congrArg (raw :: ·) (ih (first + 1))

theorem take_numbered (first n : Nat) (raws : List String) :
    (numbered first raws).take n = numbered first (raws.take n) := by
  induction raws generalizing first n with
  | nil => simp [numbered]
  | cons raw rest ih =>
    cases n with
    | zero => rfl
    | succ n => exact congrArg (Line.mk first raw :: ·) (ih (first + 1) n)

/-- A line is numbered by the lines before it. -/
theorem getElem?_numbered (first i : Nat) (raws : List String) :
    (numbered first raws)[i]? = raws[i]?.map (Line.mk (first + i)) := by
  induction raws generalizing first i with
  | nil => rfl
  | cons raw rest ih =>
    cases i with
    | zero => rfl
    | succ i =>
      rw [numbered, List.getElem?_cons_succ, List.getElem?_cons_succ, ih, Nat.add_right_comm,
        Nat.add_assoc]

theorem canonical_append (a b : List Char) : canonical (a ++ b) = canonical a ++ canonical b := by
  simp [canonical]

/-- A character is one of the wide marks, or stays as it is. -/
theorem narrow_cases (c : Char) : (c = '，' ∨ c = '。' ∨ c = '：') ∨ narrow c = c := by
  by_cases hwide : c = '，' ∨ c = '。' ∨ c = '：'
  · exact .inl hwide
  · rw [not_or, not_or] at hwide
    right
    rw [narrow, if_neg hwide.1, if_neg hwide.2.1, if_neg hwide.2.2]

theorem narrow_narrow (c : Char) : narrow (narrow c) = narrow c := by
  rcases narrow_cases c with (rfl | rfl | rfl) | hsame
  · rfl
  · rfl
  · rfl
  · rw [hsame, hsame]

/-- What white space and marks are left out never comes back by narrowing. -/
theorem isInvisible_narrow (c : Char) (h : isInvisible c = false) :
    isInvisible (narrow c) = false := by
  rcases narrow_cases c with (rfl | rfl | rfl) | hsame
  · decide
  · decide
  · decide
  · rw [hsame]
    exact h

/-- A canonical form is its own canonical form. -/
theorem canonical_canonical (raw : List Char) : canonical (canonical raw) = canonical raw := by
  have hf : ∀ c ∈ canonical raw, (!isInvisible c) = true := by
    intro c hc
    simp only [canonical, List.mem_map, List.mem_filter, Bool.not_eq_true'] at hc
    obtain ⟨d, ⟨_, hd⟩, rfl⟩ := hc
    simp [isInvisible_narrow d hd]
  rw [canonical, List.filter_eq_self.mpr hf, canonical, List.map_map]
  exact List.map_congr_left fun c _ => narrow_narrow c

end SchemaReport.Schema
