/-! Sets of characters given by closed spans of code points, the form in which the
character properties of the Unicode standard are tabulated here. The first of them is white
space. Lines of a schema are read without it and without byte order marks, so both classes are
fixed here once: `isBlank` is the `White_Space` property, and the byte order mark, which has no
such property, stands beside it in `isInvisible`. -/
namespace SchemaReport.Text

/-! ### Spans -/

/-- A closed span of code points, `first` and `last` included. -/
abbrev Span := Nat × Nat

/-- A character lies in a list of spans when one of them covers its code point. -/
def inSpans (spans : List Span) (c : Char) : Bool :=
  spans.any fun span => span.1 ≤ c.toNat && c.toNat ≤ span.2

theorem inSpans_iff {spans : List Span} {c : Char} :
    inSpans spans c = true ↔ ∃ span ∈ spans, span.1 ≤ c.toNat ∧ c.toNat ≤ span.2 := by
  simp [inSpans]

theorem inSpans_append (a b : List Span) (c : Char) :
    inSpans (a ++ b) c = (inSpans a c || inSpans b c) := by
  simp [inSpans]

/-! ### White space -/

/-- The characters with the `White_Space` property, twenty-five in all. -/
def blankSpans : List Span :=
  [(0x09, 0x0D), (0x20, 0x20), (0x85, 0x85), (0xA0, 0xA0), (0x1680, 0x1680), (0x2000, 0x200A),
   (0x2028, 0x2029), (0x202F, 0x202F), (0x205F, 0x205F), (0x3000, 0x3000)]

/-- White space, from the tab to the ideographic space. -/
def isBlank (c : Char) : Bool := inSpans blankSpans c

/-- The mark some editors put at the start of a file. It is not white space. -/
def byteOrderMark : Char := '\uFEFF'

/-- What a schema line is read without, wherever it stands in the line. -/
def isInvisible (c : Char) : Bool := isBlank c || c == byteOrderMark

/-- Drops from both ends the characters of a class. -/
def strip (p : Char → Bool) (text : List Char) : List Char :=
  ((text.dropWhile p).reverse.dropWhile p).reverse

example : (blankSpans.map fun span => span.2 + 1 - span.1).sum = 25 := rfl
example : isBlank '\u200B' = false ∧ isBlank byteOrderMark = false := by decide

end SchemaReport.Text
