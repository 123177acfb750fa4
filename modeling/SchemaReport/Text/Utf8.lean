/-! Reading bytes as UTF-8. File names and file contents are bytes; most are text. `text?`
reads those that are, and `lossyText` shows the others as well as it can: each longest
piece that could have begun a character, or else each single byte, becomes one
replacement character. -/
namespace SchemaReport.Text

/-- Bytes as they stand in a path, a variable or a captured output. -/
abbrev Bytes := List UInt8

/-- The bytes of a text. -/
def bytesOf (text : String) : Bytes := text.toUTF8.data.toList

/-- The text the bytes spell, if they spell one. -/
def text? (bytes : Bytes) : Option String := String.fromUTF8? ⟨bytes.toArray⟩

/-- A stretch of bytes: one character, or bytes that are part of none. -/
inductive Piece
  | char (c : Char)
  | broken (bytes : Bytes)

/-- What a leading byte announces: how many bytes continue the character, the span the
first of them must lie in, and the bits the leading byte itself contributes. -/
def leading (b : UInt8) : Option (Nat × UInt8 × UInt8 × Nat) :=
  if b < 0xC2 then none
  else if b < 0xE0 then some (1, 0x80, 0xBF, b.toNat - 0xC0)
  else if b < 0xF0 then
    some (2, if b = 0xE0 then 0xA0 else 0x80, if b = 0xED then 0x9F else 0xBF, b.toNat - 0xE0)
  else if b < 0xF5 then
    some (3, if b = 0xF0 then 0x90 else 0x80, if b = 0xF4 then 0x8F else 0xBF, b.toNat - 0xF0)
  else none

/-- Takes up to `count` continuation bytes, the first of them between `lo` and `hi`. The
answer holds the bytes taken, the code they make up with `code`, and whether all came. -/
def continued (code : Nat) (lo hi : UInt8) : Nat → Bytes → Bytes × Nat × Bool
  | 0, _ => ([], code, true)
  | count + 1, b :: rest =>
    if lo ≤ b && b ≤ hi then
      let (taken, code, complete) := continued (code * 64 + (b.toNat - 0x80)) 0x80 0xBF count rest
      (b :: taken, code, complete)
    else ([], code, false)
  | _ + 1, [] => ([], code, false)

/-- The piece that starts with `b`, and how many of the following bytes belong to it. -/
def pieceAt (b : UInt8) (rest : Bytes) : Piece × Nat :=
  if b < 0x80 then (.char (Char.ofNat b.toNat), 0)
  else match leading b with
    | none => (.broken [b], 0)
    | some (count, lo, hi, code) =>
      match continued code lo hi count rest with
      | (taken, code, true) => (.char (Char.ofNat code), taken.length)
      | (taken, _, false) => (.broken (b :: taken), taken.length)

/-- The bytes cut into pieces. -/
def pieces : Bytes → List Piece
  | [] => []
  | b :: rest =>
    let (piece, more) := pieceAt b rest
    piece :: pieces (rest.drop more)
termination_by bytes => bytes.length
decreasing_by simp only [List.length_drop, List.length_cons]; omega

/-- The text the bytes spell, with a replacement character for each broken piece. -/
def lossyText (bytes : Bytes) : String :=
  match text? bytes with
  | some text => text
  | none => String.ofList ((pieces bytes).map fun
      | .char c => c
      | .broken _ => '\uFFFD')

theorem lossyText_of_text? {bytes : Bytes} {text : String} (h : text? bytes = some text) :
    lossyText bytes = text := by
  simp [lossyText, h]

/-- The bytes of a text spell that text. -/
theorem text?_bytesOf (text : String) : text? (bytesOf text) = some text := by
  unfold text? bytesOf
  simp only [String.fromUTF8?, String.toUTF8_eq_toByteArray, Array.toArray_toList, text.isValidUTF8,
    dite_true]
  rfl

/-- The only bytes that spell a text are its own. -/
theorem text?_eq_some_iff {bytes : Bytes} {text : String} :
    text? bytes = some text ↔ bytes = bytesOf text := by
  constructor
  · intro h
    simp only [text?, String.fromUTF8?] at h
    split at h
    · cases h; rfl
    · cases h
  · rintro rfl
    exact text?_bytesOf text

end SchemaReport.Text
