import SchemaReport.Text.Quoted

/-! JSON documents. Strings are kept as their bodies, what stands between the quotes, and
numbers as their digits, the way they stand in a text, so that nothing a text says is lost;
the members of an object keep their order, repeated keys included. `quote` writes a text as a
body and `unquote?` reads one; `isBody` tells which bodies are legal. A legal body may name half
of a surrogate pair, and then it stands for no text. -/
namespace SchemaReport

inductive Json
  | null
  | bool (value : Bool)
  | number (lexeme : List Char)
  | string (body : List Char)
  | array (items : List Json)
  | object (members : List (List Char × Json))

namespace Json
open Text

/-- Characters that may not stand in a body unescaped, quotes and backslashes apart. -/
def isControl (c : Char) : Bool := c.toNat < 0x20

/-- The character a two-character escape stands for. -/
def shortEscape? (c : Char) : Option Char :=
  if c = '"' then some '"'
  else if c = '\\' then some '\\'
  else if c = '/' then some '/'
  else if c = 'b' then some '\x08'
  else if c = 'f' then some '\x0c'
  else if c = 'n' then some '\n'
  else if c = 'r' then some '\r'
  else if c = 't' then some '\t'
  else none

/-- The value of a digit to base sixteen. -/
def hexValue? (c : Char) : Option Nat :=
  if '0' ≤ c ∧ c ≤ '9' then some (c.toNat - '0'.toNat)
  else if 'a' ≤ c ∧ c ≤ 'f' then some (c.toNat - 'a'.toNat + 10)
  else if 'A' ≤ c ∧ c ≤ 'F' then some (c.toNat - 'A'.toNat + 10)
  else none

/-- The number four digits to base sixteen make. -/
def hexFour? (a b c d : Char) : Option Nat := do
  let a ← hexValue? a
  let b ← hexValue? b
  let c ← hexValue? c
  let d ← hexValue? d
  return ((a * 16 + b) * 16 + c) * 16 + d

/-- Whether a body is legal: no quote and no control character stands in it, and every
backslash starts a complete escape. -/
def isBody : List Char → Bool
  | [] => true
  | '\\' :: 'u' :: a :: b :: c :: d :: rest => (hexFour? a b c d).isSome && isBody rest
  | '\\' :: c :: rest => (shortEscape? c).isSome && isBody rest
  | c :: rest => c != '\\' && c != '"' && !isControl c && isBody rest

def isLeadSurrogate (code : Nat) : Bool := 0xD800 ≤ code && code < 0xDC00

def isTrailSurrogate (code : Nat) : Bool := 0xDC00 ≤ code && code < 0xE000

/-- The code point of a surrogate pair. -/
def pairCode (lead trail : Nat) : Nat := 0x10000 + (lead - 0xD800) * 0x400 + (trail - 0xDC00)

/-- The text a body stands for. -/
def unquote? : List Char → Option (List Char)
  | [] => some []
  | '\\' :: 'u' :: a :: b :: c :: d :: '\\' :: 'u' :: e :: f :: g :: h :: rest =>
    match hexFour? a b c d with
    | none => none
    | some code =>
      if isLeadSurrogate code then
        match hexFour? e f g h with
        | none => none
        | some trail =>
          if isTrailSurrogate trail then
            (unquote? rest).map (Char.ofNat (pairCode code trail) :: ·)
          else none
      else if isTrailSurrogate code then none
      else (unquote? ('\\' :: 'u' :: e :: f :: g :: h :: rest)).map (Char.ofNat code :: ·)
  | '\\' :: 'u' :: a :: b :: c :: d :: rest =>
    match hexFour? a b c d with
    | none => none
    | some code =>
      if isLeadSurrogate code || isTrailSurrogate code then none
      else (unquote? rest).map (Char.ofNat code :: ·)
  | '\\' :: c :: rest =>
    match shortEscape? c with
    | none => none
    | some c => (unquote? rest).map (c :: ·)
  | c :: rest =>
    if c = '\\' || c = '"' || isControl c then none else (unquote? rest).map (c :: ·)

/-- A character as it stands in a body. The control characters that have a short escape
are written with it, the others by their code. -/
def quoteOne (c : Char) : List Char :=
  if c = '"' then ['\\', '"']
  else if c = '\\' then ['\\', '\\']
  else if c = '\x08' then ['\\', 'b']
  else if c = '\x0c' then ['\\', 'f']
  else if c = '\n' then ['\\', 'n']
  else if c = '\r' then ['\\', 'r']
  else if c = '\t' then ['\\', 't']
  else if isControl c then
    ['\\', 'u', '0', '0', Nat.digitChar (c.toNat / 16), Nat.digitChar (c.toNat % 16)]
  else [c]

/-- A text as a body. -/
def quote (text : List Char) : List Char := text.flatMap quoteOne

example : quote ['a', '"', '\x1f', '\x7f'] =
    ['a', '\\', '"', '\\', 'u', '0', '0', '1', 'f', '\x7f'] := by decide
example : unquote? ['\\', 'u', 'd', '8', '3', 'c', '\\', 'u', 'd', 'f', '8', '9'] = some ['🎉'] := by
  decide
example : unquote? ['\\', 'u', 'd', '8', '3', 'c'] = none := by decide

end Json
end SchemaReport
