import SchemaReport.Json.Document

/-! Reading JSON texts. A text is cut into tokens, and the tokens drive a machine whose
state is what the document still lacks: the arrays and objects that are open, with what
they hold so far. There is no bound on their depth. -/
namespace SchemaReport.Json

inductive Token
  | openBrace
  | closeBrace
  | openBracket
  | closeBracket
  | colon
  | comma
  | string (body : List Char)
  /-- A run of other characters: a number, a literal, or nothing legal. -/
  | word (chars : List Char)
  deriving DecidableEq

/-! ### Tokens -/

/-- The white space of JSON. -/
def isSpace (c : Char) : Bool := c == ' ' || c == '\t' || c == '\n' || c == '\r'

def punctuation? (c : Char) : Option Token :=
  if c = '\x7b' then some .openBrace
  else if c = '\x7d' then some .closeBrace
  else if c = '[' then some .openBracket
  else if c = ']' then some .closeBracket
  else if c = ':' then some .colon
  else if c = ',' then some .comma
  else none

/-- Where the lexer stands: between tokens, in a string (right after a backslash or not),
or in a word. What has been read of the token is held last character first. -/
inductive LexState
  | between
  | inString (seen : List Char)
  | escaped (seen : List Char)
  | inWord (seen : List Char)

/-- The token a character between tokens is, if it is one, and the state after it. -/
def beginToken (c : Char) : List Token × LexState :=
  match punctuation? c with
  | some token => ([token], .between)
  | none =>
    if isSpace c then ([], .between)
    else if c = '"' then ([], .inString [])
    else ([], .inWord [c])

/-- Whether a character ends a word. -/
def endsWord (c : Char) : Bool := isSpace c || c == '"' || (punctuation? c).isSome

/-- The tokens of a text, or nothing when a string is not closed. -/
def tokens : LexState → List Char → Option (List Token)
  | .between, [] => some []
  | .inWord seen, [] => some [.word seen.reverse]
  | .inString _, [] => none
  | .escaped _, [] => none
  | .between, c :: rest =>
    let (found, state) := beginToken c
    (tokens state rest).map (found ++ ·)
  | .inWord seen, c :: rest =>
    if endsWord c then
      let (found, state) := beginToken c
      (tokens state rest).map (.word seen.reverse :: found ++ ·)
    else tokens (.inWord (c :: seen)) rest
  | .inString seen, c :: rest =>
    if c = '"' then (tokens .between rest).map (.string seen.reverse :: ·)
    else if c = '\\' then tokens (.escaped (c :: seen)) rest
    else tokens (.inString (c :: seen)) rest
  | .escaped seen, c :: rest => tokens (.inString (c :: seen)) rest

/-! ### Words -/

/-- One digit or more, and what follows them. -/
def digitsThen (k : List Char → Bool) (text : List Char) : Bool :=
  match text with
  | c :: rest => c.isDigit && k (rest.dropWhile Char.isDigit)
  | [] => false

/-- The exponent of a number, if there is one, up to the end of the word. -/
def isExponent : List Char → Bool
  | [] => true
  | e :: rest =>
    (e == 'e' || e == 'E') &&
      match rest with
      | '+' :: digits => digitsThen List.isEmpty digits
      | '-' :: digits => digitsThen List.isEmpty digits
      | digits => digitsThen List.isEmpty digits

/-- The fraction and the exponent of a number. -/
def isFraction : List Char → Bool
  | '.' :: rest => digitsThen isExponent rest
  | rest => isExponent rest

/-- A number without its sign: no zero leads another digit. -/
def isUnsigned : List Char → Bool
  | '0' :: rest => isFraction rest
  | text => digitsThen isFraction text

/-- Whether a word is a number. -/
def isNumber : List Char → Bool
  | '-' :: rest => isUnsigned rest
  | text => isUnsigned text

/-- The value a word stands for. -/
def ofWord? (chars : List Char) : Option Json :=
  if chars = ['n', 'u', 'l', 'l'] then some .null
  else if chars = ['t', 'r', 'u', 'e'] then some (.bool true)
  else if chars = ['f', 'a', 'l', 's', 'e'] then some (.bool false)
  else if isNumber chars then some (.number chars)
  else none

/-! ### Documents -/

/-- An array or an object that is open: the items so far, or the members so far and the
key of the member whose value is being read. Both are held last first. -/
inductive Frame
  | array (items : List Json)
  | object (members : List (List Char × Json)) (key : List Char)

/-- What the machine is waiting for. -/
inductive ReadState
  /-- A value. -/
  | value (frames : List Frame)
  /-- The first item of an array, or its end. -/
  | firstItem (frames : List Frame)
  /-- A comma or the end of an array. -/
  | afterItem (items : List Json) (frames : List Frame)
  /-- The first key of an object, or its end. -/
  | firstKey (frames : List Frame)
  /-- A key. -/
  | nextKey (members : List (List Char × Json)) (frames : List Frame)
  /-- The colon after a key. -/
  | afterKey (members : List (List Char × Json)) (key : List Char) (frames : List Frame)
  /-- A comma or the end of an object. -/
  | afterMember (members : List (List Char × Json)) (frames : List Frame)
  /-- Nothing more. -/
  | finished (document : Json)

/-- The state once a value is complete. -/
def completed (value : Json) : List Frame → ReadState
  | [] => .finished value
  | .array items :: frames => .afterItem (value :: items) frames
  | .object members key :: frames => .afterMember ((key, value) :: members) frames

/-- What a token that begins a value leads to. -/
def beginValue (frames : List Frame) : Token → Option ReadState
  | .openBrace => some (.firstKey frames)
  | .openBracket => some (.firstItem frames)
  | .string body => if isBody body then some (completed (.string body) frames) else none
  | .word chars => (ofWord? chars).map fun value => completed value frames
  | _ => none

/-- What a key leads to. -/
def takeKey (members : List (List Char × Json)) (frames : List Frame) : Token → Option ReadState
  | .string body => if isBody body then some (.afterKey members body frames) else none
  | _ => none

/-- One token. -/
def step : ReadState → Token → Option ReadState
  | .value frames, token => beginValue frames token
  | .firstItem frames, .closeBracket => some (completed (.array []) frames)
  | .firstItem frames, token => beginValue (.array [] :: frames) token
  | .afterItem items frames, .comma => some (.value (.array items :: frames))
  | .afterItem items frames, .closeBracket => some (completed (.array items.reverse) frames)
  | .afterItem _ _, _ => none
  | .firstKey frames, .closeBrace => some (completed (.object []) frames)
  | .firstKey frames, token => takeKey [] frames token
  | .nextKey members frames, token => takeKey members frames token
  | .afterKey members key frames, .colon => some (.value (.object members key :: frames))
  | .afterKey _ _ _, _ => none
  | .afterMember members frames, .comma => some (.nextKey members frames)
  | .afterMember members frames, .closeBrace => some (completed (.object members.reverse) frames)
  | .afterMember _ _, _ => none
  | .finished _, _ => none

/-- The document a text is, if it is one. -/
def parse? (text : List Char) : Option Json := do
  let found ← tokens .between text
  match ← found.foldlM step (.value []) with
  | .finished document => some document
  | _ => none

end SchemaReport.Json
