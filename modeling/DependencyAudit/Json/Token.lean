import DependencyAudit.Text.Quoted

/-!
How JSON texts are written, and the tokens that they are read as.

Texts are written in ASCII. The quotation mark and the backslash get a backslash, five control
characters have short forms, and every other character outside printable ASCII is written by its
UTF-16 units, with four hexadecimal digits each.

A text is read character by character by a machine whose modes say what has begun: nothing, a bare
word (a number or a literal), or a string, possibly inside an escape. A bare word goes on as long as
its characters can be part of one and is judged as a whole at its end. Besides RFC 8259 the words
`NaN`, `Infinity` and `-Infinity` count as numbers. A string holds no raw control character below
U+0020, and an escape for half of a surrogate pair must be part of a whole pair.

The whole part of a number has a greatest number of digits; its fraction and exponent have none. The
format knows no such limit: it is the one of the JSON reader that is in use, and an assumption here.
-/

namespace DependencyAudit.Json

/-- The UTF-16 units of a character. -/
def units (c : Char) : List Nat :=
  if c.toNat < 0x10000 then [c.toNat]
  else [0xD800 + (c.toNat - 0x10000) / 0x400, 0xDC00 + (c.toNat - 0x10000) % 0x400]

/-- The written form of one character. -/
def escape (c : Char) : List Char :=
  if c = '"' ∨ c = '\\' then ['\\', c]
  else if c = '\n' then ['\\', 'n']
  else if c = '\r' then ['\\', 'r']
  else if c = '\t' then ['\\', 't']
  else if c = '\x08' then ['\\', 'b']
  else if c = '\x0c' then ['\\', 'f']
  else if 0x20 ≤ c.toNat ∧ c.toNat < 0x7F then [c]
  else (units c).flatMap fun u => '\\' :: 'u' :: Text.hex 4 u

def quoted (s : String) : String := String.ofList ('"' :: s.toList.flatMap escape ++ ['"'])

/-- The written form of a list whose items are written already. -/
def list (items : List String) : String := "[" ++ ", ".intercalate items ++ "]"

/-- The written form of a table whose values are written already. -/
def table (fields : List (String × String)) : String :=
  "\x7b" ++ ", ".intercalate (fields.map fun f => quoted f.1 ++ ": " ++ f.2) ++ "\x7d"

/-! ## Tokens -/

inductive Token where
  | openList
  | closeList
  | openTable
  | closeTable
  | comma
  | colon
  | null
  | flag (value : Bool)
  | number (written : List Char)
  | text (value : List Char)
  deriving DecidableEq

/-- What has begun but not ended. Characters already read are kept in reverse. -/
inductive Mode where
  | between
  | bare (read : List Char)
  | inside (read : List Char)
  | escaped (read : List Char)
  /-- In the digits of an escape; after the first half of a pair, `high` holds that half. -/
  | digits (read : List Char) (high : Option Nat) (missing : Nat) (code : Nat)
  /-- After the first half of a surrogate pair, before the backslash of the second. -/
  | half (read : List Char) (high : Nat)
  /-- After that backslash. -/
  | halfEscaped (read : List Char) (high : Nat)

/-- A run of the machine: its mode, and the tokens found so far in reverse. -/
structure Lexer where
  mode : Mode := .between
  found : List Token := []

/-- Whether a character can be part of a bare word. -/
def isBare (c : Char) : Bool := c.isAlphanum || c == '-' || c == '+' || c == '.'

/-- Whether a character is white space between tokens. -/
def isSpace (c : Char) : Bool := c == ' ' || c == '\t' || c == '\n' || c == '\r'

/-- What stands after at least one digit. -/
def afterDigits? (s : List Char) : Option (List Char) :=
  match s with
  | [] => none
  | c :: rest => if c.isDigit then some (rest.dropWhile Char.isDigit) else none

/-- What stands after the whole part of a number: zero, or digits that do not start with it. -/
def afterWhole? : List Char → Option (List Char)
  | '0' :: rest => some rest
  | s => afterDigits? s

def afterFraction? : List Char → Option (List Char)
  | '.' :: rest => afterDigits? rest
  | s => some s

def afterSign : List Char → List Char
  | '+' :: rest => rest
  | '-' :: rest => rest
  | s => s

def afterExponent? : List Char → Option (List Char)
  | 'e' :: rest => afterDigits? (afterSign rest)
  | 'E' :: rest => afterDigits? (afterSign rest)
  | s => some s

/-- The word without a leading minus. -/
def unsigned : List Char → List Char
  | '-' :: rest => rest
  | s => s

/-- The greatest number of digits in the whole part of a number, as the reader in use has it. -/
def maxWholeDigits : Nat := 4300

/-- What stands after the whole part of a number, unless that part is too long. -/
def afterBoundedWhole? (s : List Char) : Option (List Char) :=
  (afterWhole? s).filter fun rest => s.length ≤ maxWholeDigits + rest.length

def isNumber (word : List Char) : Bool :=
  (afterBoundedWhole? (unsigned word) >>= afterFraction? >>= afterExponent?) == some []
    || unsigned word == "Infinity".toList || word == "NaN".toList

/-- The token that a bare word makes. -/
def Token.ofBare? (word : List Char) : Option Token :=
  if word = "null".toList then some .null
  else if word = "true".toList then some (.flag true)
  else if word = "false".toList then some (.flag false)
  else if isNumber word then some (.number word)
  else none

def Token.ofMark? : Char → Option Token
  | '[' => some .openList
  | ']' => some .closeList
  | '\x7b' => some .openTable
  | '\x7d' => some .closeTable
  | ',' => some .comma
  | ':' => some .colon
  | _ => none

/-- The character that a short escape stands for. -/
def shortEscape? : Char → Option Char
  | '"' => some '"'
  | '\\' => some '\\'
  | '/' => some '/'
  | 'b' => some '\x08'
  | 'f' => some '\x0c'
  | 'n' => some '\n'
  | 'r' => some '\r'
  | 't' => some '\t'
  | _ => none

/-- The mode after the four digits of an escape. -/
def afterCode? (read : List Char) (high : Option Nat) (code : Nat) : Option Mode :=
  match high with
  | none =>
    if 0xD800 ≤ code ∧ code < 0xDC00 then some (.half read code)
    else if 0xDC00 ≤ code ∧ code < 0xE000 then none
    else some (.inside (Char.ofNat code :: read))
  | some h =>
    if 0xDC00 ≤ code ∧ code < 0xE000 then
      some (.inside (Char.ofNat (0x10000 + (h - 0xD800) * 0x400 + (code - 0xDC00)) :: read))
    else none

namespace Lexer

/-- Reads a character between tokens. -/
def begin? (found : List Token) (c : Char) : Option Lexer :=
  if isSpace c then some ⟨.between, found⟩
  else if c = '"' then some ⟨.inside [], found⟩
  else if isBare c then some ⟨.bare [c], found⟩
  else (Token.ofMark? c).map fun t => ⟨.between, t :: found⟩

def step? (l : Lexer) (c : Char) : Option Lexer :=
  match l.mode with
  | .between => begin? l.found c
  | .bare read =>
    if isBare c then some { l with mode := .bare (c :: read) }
    else (Token.ofBare? read.reverse).bind fun t => begin? (t :: l.found) c
  | .inside read =>
    if c = '"' then some ⟨.between, .text read.reverse :: l.found⟩
    else if c = '\\' then some { l with mode := .escaped read }
    else if c.toNat < 0x20 then none
    else some { l with mode := .inside (c :: read) }
  | .escaped read =>
    if c = 'u' then some { l with mode := .digits read none 4 0 }
    else (shortEscape? c).map fun e => { l with mode := .inside (e :: read) }
  | .digits read high missing code =>
    match Text.hexValue? c with
    | none => none
    | some v =>
      let code := code * 16 + v
      if missing ≤ 1 then (afterCode? read high code).map fun m => { l with mode := m }
      else some { l with mode := .digits read high (missing - 1) code }
  | .half read high => if c = '\\' then some { l with mode := .halfEscaped read high } else none
  | .halfEscaped read high =>
    if c = 'u' then some { l with mode := .digits read (some high) 4 0 } else none

/-- The tokens, once the text is at its end. -/
def finish? (l : Lexer) : Option (List Token) :=
  match l.mode with
  | .between => some l.found.reverse
  | .bare read => (Token.ofBare? read.reverse).map fun t => (t :: l.found).reverse
  | _ => none

end Lexer

def tokens? (s : List Char) : Option (List Token) :=
  s.foldlM Lexer.step? {} >>= Lexer.finish?

end DependencyAudit.Json
