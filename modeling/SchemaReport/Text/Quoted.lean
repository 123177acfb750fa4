import SchemaReport.Text.Printable
import SchemaReport.Text.Extending
import SchemaReport.Text.Utf8

/-! Quoted texts for messages: a text between quotes with everything escaped that could
not be told apart otherwise. Texts, single characters and paths differ only in which
quotes are escaped; a path may also hold bytes that are no text. -/
namespace SchemaReport.Text

/-- The digits of a number to base sixteen, in small letters. -/
def hexDigits (n : Nat) : List Char := Nat.toDigits 16 n

/-- Two capital digits to base sixteen. -/
def hexByte (b : UInt8) : List Char :=
  let digits := (hexDigits b.toNat).map Char.toUpper
  List.replicate (2 - digits.length) '0' ++ digits

/-- An escape that names the code point. -/
def codeEscape (c : Char) : List Char :=
  ['\\', 'u', '\x7b'] ++ hexDigits c.toNat ++ ['\x7d']

/-- A character as it stands in a quoted text; `isQuote` tells the quotes to escape. -/
def escaped (isQuote : Char → Bool) (c : Char) : List Char :=
  if c = '\x00' then ['\\', '0']
  else if c = '\t' then ['\\', 't']
  else if c = '\r' then ['\\', 'r']
  else if c = '\n' then ['\\', 'n']
  else if c = '\\' || isQuote c then ['\\', c]
  else if isExtending c || !isPrintable c then codeEscape c
  else [c]

/-- A text between double quotes. -/
def quoteText (text : String) : String :=
  String.ofList (['"'] ++ text.toList.flatMap (escaped (· == '"')) ++ ['"'])

/-- A character between single quotes. -/
def quoteChar (c : Char) : String :=
  String.ofList (['\''] ++ escaped (· == '\'') c ++ ['\''])

/-- Bytes between double quotes, both kinds of quotes escaped; a byte that belongs to no
character is written by its value. -/
def quoteBytes (bytes : Bytes) : String :=
  let show' : Piece → List Char
    | .char c => escaped (fun c => c == '"' || c == '\'') c
    | .broken bs => bs.flatMap fun b => ['\\', 'x'] ++ hexByte b
  String.ofList (['"'] ++ (pieces bytes).flatMap show' ++ ['"'])

example : quoteText "a\"b\\\n" = "\"a\\\"b\\\\\\n\"" := by decide +kernel
example : quoteChar '\'' = "'\\''" ∧ quoteChar '"' = "'\"'" := by decide +kernel

end SchemaReport.Text
