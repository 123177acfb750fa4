import SchemaReport.Toml.Text

/-! The tokens of a TOML text: punctuation, white space, line ends, quoted texts, and
atoms, the runs of anything else. Comments are checked and left out. What an atom means
depends on where it stands. -/
namespace SchemaReport.Toml

inductive Token
  | dot
  | equals
  | comma
  | openBracket
  | closeBracket
  | openBrace
  | closeBrace
  /-- White space within a line. -/
  | blank (chars : List Char)
  | newline
  /-- A quoted text; `long` when it has three quotes at either end. -/
  | text (value : List Char) (long : Bool)
  | atom (chars : List Char)
  deriving DecidableEq

def isSpace (c : Char) : Bool := c == ' ' || c == '\t'

def mark? (c : Char) : Option Token :=
  if c = '.' then some .dot
  else if c = '=' then some .equals
  else if c = ',' then some .comma
  else if c = '[' then some .openBracket
  else if c = ']' then some .closeBracket
  else if c = '\x7b' then some .openBrace
  else if c = '\x7d' then some .closeBrace
  else if c = '\n' then some .newline
  else none

/-- Whether a character ends an atom. -/
def endsAtom (c : Char) : Bool := (mark? c).isSome || isSpace c || c == '#' || c == '\r'

/-- The quoted text that begins with a quote, given what follows the quote, and how many of
the following characters belong to it. -/
def quoted? (quote : Char) (escapes : Bool) : List Char → Option (Token × Nat)
  | a :: b :: rest =>
    if a = quote ∧ b = quote then
      (longText? quote escapes rest).map fun (value, n) => (.text value true, n + 2)
    else (text? quote escapes (a :: b :: rest)).map fun (value, n) => (.text value false, n)
  | rest => (text? quote escapes rest).map fun (value, n) => (.text value false, n)

/-- The token a character begins, if it begins one, and how many of the following
characters belong to it. A comment is no token. -/
def token? (c : Char) (rest : List Char) : Option (Option Token × Nat) :=
  match mark? c with
  | some mark => some (some mark, 0)
  | none =>
    if c = '\r' then if rest.head? = some '\n' then some (some .newline, 1) else none
    else if isSpace c then
      let more := rest.takeWhile isSpace
      some (some (.blank (c :: more)), more.length)
    else if c = '#' then
      let comment := rest.takeWhile fun d => d != '\n' && d != '\r'
      if comment.all isAllowed then some (none, comment.length) else none
    else if c = '"' then (quoted? '"' true rest).map fun (token, n) => (some token, n)
    else if c = '\'' then (quoted? '\'' false rest).map fun (token, n) => (some token, n)
    else
      let more := rest.takeWhile fun d => !endsAtom d
      some (some (.atom (c :: more)), more.length)

/-- The tokens of a text, if all of it makes tokens. -/
def tokens? : List Char → Option (List Token)
  | [] => some []
  | c :: rest => do
    let (token, n) ← token? c rest
    let others ← tokens? (rest.drop n)
    return token.toList ++ others
termination_by text => text.length
decreasing_by simp only [List.length_drop, List.length_cons]; omega

end SchemaReport.Toml
