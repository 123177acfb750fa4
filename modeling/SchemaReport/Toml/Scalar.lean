import SchemaReport.Settings.Document
import SchemaReport.Text.Search

/-! Values written without quotes: truth values, numbers, dates and times. Settings use
none of the numbers, so a number keeps only whether it fits the widest integer or float
type. -/
namespace SchemaReport.Toml
open Text

/-! ### Digits -/

def isHexDigit (c : Char) : Bool := (Json.hexValue? c).isSome

def isOctalDigit (c : Char) : Bool := '0' ≤ c && c ≤ '7'

def isBinaryDigit (c : Char) : Bool := c == '0' || c == '1'

/-- Whether a run of digits is well formed: underscores stand between digits only. -/
def isRun (isDigit : Char → Bool) : List Char → Bool
  | [] => false
  | [c] => isDigit c
  | c :: '_' :: rest => isDigit c && isRun isDigit rest
  | c :: rest => isDigit c && isRun isDigit rest

/-- The number the digits of a run make. -/
def runValue (base : Nat) (run : List Char) : Nat :=
  run.foldl (fun n c => match Json.hexValue? c with
    | some d => n * base + d
    | none => n) 0

/-- Whether a run makes a decimal number: no zero leads another digit. -/
def isDecimal : List Char → Bool
  | ['0'] => true
  | '0' :: _ => false
  | run => isRun Char.isDigit run

/-- The sign of a number, `true` for minus, and the rest. -/
def splitSign : List Char → Bool × List Char
  | '-' :: rest => (true, rest)
  | '+' :: rest => (false, rest)
  | rest => (false, rest)

/-! ### Numbers -/

/-- Whether an integer can be held in 128 bits, signed or not. -/
def fitsInteger (negative : Bool) (value : Nat) : Bool :=
  if negative then value ≤ Nat.pow 2 127 else value < Nat.pow 2 128

/-- Whether a decimal number rounds to a float of 64 bits that is finite. The number is
`mantissa` times ten to the power of `exponent`; everything below the midpoint between the
largest float and the next power of two does. -/
def fitsFloat (mantissa : Nat) (exponent : Int) : Bool :=
  let limit := Nat.pow 2 1024 - Nat.pow 2 970
  let size : Int := (toString mantissa).length + exponent
  if mantissa = 0 then true
  else if 310 < size then false
  else if size < 308 then true
  else match exponent with
    | .ofNat e => mantissa * Nat.pow 10 e < limit
    | .negSucc e => mantissa < limit * Nat.pow 10 (e + 1)

/-- An integer with the digits of a base other than ten. -/
def radix? (base : Nat) (isDigit : Char → Bool) (run : List Char) : Option Document :=
  if isRun isDigit run then some (.number (fitsInteger false (runValue base run))) else none

/-- The exponent of a float, without its letter. -/
def exponent? (text : List Char) : Option Int :=
  let (negative, run) := splitSign text
  if isRun Char.isDigit run then
    some (if negative then -(runValue 10 run : Int) else runValue 10 run)
  else none

/-- A float, given what stands before its exponent and the exponent. -/
def float? (significand : List Char) (exponent : Int) : Option Document :=
  match splitOnce '.' significand with
  | none =>
    if isDecimal significand then some (.number (fitsFloat (runValue 10 significand) exponent))
    else none
  | some (whole, fraction) =>
    if isDecimal whole && isRun Char.isDigit fraction then
      let places := (fraction.filter Char.isDigit).length
      some (.number (fitsFloat (runValue 10 (whole ++ fraction)) (exponent - places)))
    else none

/-- The part of a word before the letter of its exponent, and the part after it. -/
def splitExponent (word : List Char) : Option (List Char × List Char) :=
  match splitOnce 'e' word with
  | some parts => some parts
  | none => splitOnce 'E' word

/-- A decimal number, whole or not. -/
def decimal? (word : List Char) : Option Document :=
  let (negative, unsigned) := splitSign word
  if unsigned = ['i', 'n', 'f'] ∨ unsigned = ['n', 'a', 'n'] then some (.number true)
  else if isDecimal unsigned then some (.number (fitsInteger negative (runValue 10 unsigned)))
  else match splitExponent unsigned with
    | some (significand, exponent) => (exponent? exponent).bind (float? significand)
    | none => if unsigned.contains '.' then float? unsigned 0 else none

def number? : List Char → Option Document
  | '0' :: 'x' :: run => radix? 16 isHexDigit run
  | '0' :: 'o' :: run => radix? 8 isOctalDigit run
  | '0' :: 'b' :: run => radix? 2 isBinaryDigit run
  | word => decimal? word

/-! ### Dates and times -/

def isLeapYear (year : Nat) : Bool := year % 4 == 0 && (year % 100 != 0 || year % 400 == 0)

def daysIn (year month : Nat) : Nat :=
  if month = 2 then if isLeapYear year then 29 else 28
  else if month ∈ [4, 6, 9, 11] then 30
  else 31

/-- The number that a field of digits makes, if the text begins with that many digits, and
what follows them. -/
def field? (width : Nat) (text : List Char) : Option (Nat × List Char) :=
  let digits := text.take width
  if digits.length = width ∧ digits.all Char.isDigit then
    some (runValue 10 digits, text.drop width)
  else none

/-- What follows a mark. -/
def after? (mark : Char) : List Char → Option (List Char)
  | [] => none
  | c :: rest => if c = mark then some rest else none

/-- What follows a date at the start of a text. -/
def afterDate? (text : List Char) : Option (List Char) := do
  let (year, text) ← field? 4 text
  let (month, text) ← field? 2 (← after? '-' text)
  let (day, text) ← field? 2 (← after? '-' text)
  if 1 ≤ month ∧ month ≤ 12 ∧ 1 ≤ day ∧ day ≤ daysIn year month then some text else none

/-- What follows the fraction of a second. -/
def afterFraction? (text : List Char) : Option (List Char) :=
  match text with
  | '.' :: c :: rest => if c.isDigit then some (rest.dropWhile Char.isDigit) else none
  | '.' :: [] => none
  | text => some text

/-- What follows a time of day. Its seconds may be left out; a second may be a leap one. -/
def afterTime? (text : List Char) : Option (List Char) := do
  let (hour, text) ← field? 2 text
  let (minute, text) ← field? 2 (← after? ':' text)
  if hour ≤ 23 ∧ minute ≤ 59 then
    match after? ':' text with
    | none => some text
    | some text => do
      let (second, text) ← field? 2 text
      if second ≤ 60 then afterFraction? text else none
  else none

/-- Whether a text is an offset from universal time. -/
def isOffset : List Char → Bool
  | ['Z'] | ['z'] => true
  | sign :: text =>
    (sign == '+' || sign == '-') &&
      ((do
        let (hour, text) ← field? 2 text
        let (minute, text) ← field? 2 (← after? ':' text)
        if hour ≤ 23 ∧ minute ≤ 59 then some text else none) == some [])
  | [] => false

/-- Whether a text is a date, a time, or both with or without an offset. -/
def isMoment (word : List Char) : Bool :=
  match afterDate? word with
  | none => afterTime? word == some []
  | some [] => true
  | some (mark :: time) =>
    (mark == 'T' || mark == 't' || mark == ' ') &&
      match afterTime? time with
      | none => false
      | some rest => rest.isEmpty || isOffset rest

/-- Whether a word is a date, which a time may follow after a blank. -/
def isDate (word : List Char) : Bool := afterDate? word == some []

/-- The value a word stands for. -/
def ofWord? (word : List Char) : Option Document :=
  if word = ['t', 'r', 'u', 'e'] then some (.truth true)
  else if word = ['f', 'a', 'l', 's', 'e'] then some (.truth false)
  else if isMoment word then some .moment
  else number? word

example : isMoment "1979-05-27 07:32:00.5-07:00".toList = true ∧
    isMoment "2023-02-29".toList = false ∧ isMoment "07:32".toList = true := by decide
example : (ofWord? "1_000".toList).isSome = true ∧ (ofWord? "01".toList).isSome = false ∧
    (ofWord? "1.".toList).isSome = false ∧ (ofWord? "-1e06".toList).isSome = true := by
  decide

end SchemaReport.Toml
