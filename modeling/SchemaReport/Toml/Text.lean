import SchemaReport.Json.Document

/-! Texts in TOML. A text stands between quotes of one of two kinds: between double quotes
a backslash begins an escape, between single quotes it means itself. A text on several
lines has three quotes at either end. Here are the two halves of reading one: finding where
its body ends, and making out what the body says. -/
namespace SchemaReport.Toml
open Json

/-- Whether a character may stand in a text or in a comment: no control character does, the
tab excepted. -/
def isAllowed (c : Char) : Bool := c == '\t' || (0x20 ≤ c.toNat && c.toNat != 0x7F)

/-! ### Bodies -/

/-- The body of a text up to its closing quote, and how many characters that takes. An
escaped quote closes nothing. -/
def body? (quote : Char) (escapes : Bool) : List Char → Option (List Char × Nat)
  | [] => none
  | c :: rest =>
    if c = quote then some ([], 1)
    else if c = '\n' then none
    else if c = '\\' ∧ escapes then
      match rest with
      | [] => none
      | d :: rest => (body? quote escapes rest).map fun (body, n) => (c :: d :: body, n + 2)
    else (body? quote escapes rest).map fun (body, n) => (c :: body, n + 1)

/-- The body of a text on several lines. It may itself end in one quote or two. -/
def longBody? (quote : Char) (escapes : Bool) : List Char → Option (List Char × Nat)
  | [] => none
  | a :: rest =>
    if [a] ++ rest.take 4 = List.replicate 5 quote then some ([quote, quote], 5)
    else if [a] ++ rest.take 3 = List.replicate 4 quote then some ([quote], 4)
    else if [a] ++ rest.take 2 = List.replicate 3 quote then some ([], 3)
    else if a = '\\' ∧ escapes then
      match rest with
      | [] => none
      | b :: rest => (longBody? quote escapes rest).map fun (body, n) => (a :: b :: body, n + 2)
    else (longBody? quote escapes rest).map fun (body, n) => (a :: body, n + 1)

/-! ### Meaning -/

/-- The character with a code point, if there is one. -/
def charOfCode? (code : Nat) : Option Char :=
  if code < 0xD800 ∨ (0xDFFF < code ∧ code < 0x110000) then some (Char.ofNat code) else none

/-- The character a two-character escape stands for. -/
def escape? (c : Char) : Option Char :=
  if c = 'b' then some '\x08'
  else if c = 't' then some '\t'
  else if c = 'n' then some '\n'
  else if c = 'f' then some '\x0c'
  else if c = 'r' then some '\r'
  else if c = 'e' then some '\x1b'
  else if c = '"' then some '"'
  else if c = '\\' then some '\\'
  else none

/-- How many digits follow the letter of an escape that names a code point. -/
def codeWidth? (c : Char) : Option Nat :=
  if c = 'x' then some 2 else if c = 'u' then some 4 else if c = 'U' then some 8 else none

/-- The number a run of digits to base sixteen makes. -/
def hexNumber? (digits : List Char) : Option Nat :=
  digits.foldlM (fun n c => (hexValue? c).map (n * 16 + ·)) 0

/-- Whether the characters after a backslash lead to the end of the line. -/
def endsLine (text : List Char) : Bool :=
  match text.dropWhile fun c => c == ' ' || c == '\t' with
  | '\n' :: _ => true
  | '\r' :: '\n' :: _ => true
  | _ => false

/-- How many characters of white space and line ends begin a text. -/
def blankRun : List Char → Nat
  | '\r' :: '\n' :: rest => blankRun rest + 2
  | c :: rest => if c = ' ' ∨ c = '\t' ∨ c = '\n' then blankRun rest + 1 else 0
  | [] => 0

/-- What one step of reading a body yields: the character meant, if any, and how many
further characters of the body it takes. -/
def meaning? (escapes long : Bool) (c : Char) (rest : List Char) : Option (Option Char × Nat) :=
  if c = '\\' ∧ escapes then
    match rest with
    | [] => none
    | d :: after =>
      match escape? d, codeWidth? d with
      | some meant, _ => some (some meant, 1)
      | none, some width =>
        if after.length < width then none
        else ((hexNumber? (after.take width)).bind charOfCode?).map fun meant =>
          (some meant, width + 1)
      | none, none => if long && endsLine rest then some (none, blankRun rest) else none
  else if c = '\n' then if long then some (some c, 0) else none
  else if c = '\r' then if long && rest.head? == some '\n' then some (some c, 0) else none
  else if isAllowed c then some (some c, 0)
  else none

/-- The text a body stands for. -/
def read? (escapes long : Bool) : List Char → Option (List Char)
  | [] => some []
  | c :: rest => do
    let (meant, n) ← meaning? escapes long c rest
    let others ← read? escapes long (rest.drop n)
    return meant.toList ++ others
termination_by body => body.length
decreasing_by simp only [List.length_drop, List.length_cons]; omega

/-- A line end right after the opening quotes does not belong to the text. -/
def dropFirstBreak : List Char → List Char
  | '\n' :: rest => rest
  | '\r' :: '\n' :: rest => rest
  | body => body

/-- The text after the opening quote, and how many characters it takes up. -/
def text? (quote : Char) (escapes : Bool) (after : List Char) : Option (List Char × Nat) := do
  let (body, n) ← body? quote escapes after
  return (← read? escapes false body, n)

/-- The text after the three opening quotes, and how many characters it takes up. -/
def longText? (quote : Char) (escapes : Bool) (after : List Char) : Option (List Char × Nat) := do
  let (body, n) ← longBody? quote escapes after
  return (← read? escapes true (dropFirstBreak body), n)

example : text? '"' true ['a', '\\', 'x', '4', '1', '"', 'b'] = some (['a', 'A'], 6) ∧
    longText? '\'' false ['\n', 'a', '\'', '\'', '\'', '\'', 'b'] = some (['a', '\''], 6) ∧
    longText? '"' true ['a', '\\', ' ', '\n', ' ', 'b', '"', '"', '"'] = some (['a', 'b'], 9) := by
  decide +kernel

end SchemaReport.Toml
