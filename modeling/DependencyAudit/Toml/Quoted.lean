import DependencyAudit.Text.Quoted

/-!
White space, control characters and strings of TOML 1.0. Lines are taken to end in line feeds only.
A string has one of four forms; each reader takes a string from the front of a text and gives back
the rest.
-/

namespace DependencyAudit.Toml

/-- White space within a line. -/
def isSpace (c : Char) : Bool := c == ' ' || c == '\t'

/-- White space, line ends included. -/
def isSpaceOrLineEnd (c : Char) : Bool := isSpace c || c == '\n'

/-- The text without white space at its front, within the line. -/
def skipSpace (s : List Char) : List Char := s.dropWhile isSpace

/-- Control characters, which stand nowhere but in line ends; the tab is none of them. -/
def isControl (c : Char) : Bool := (c.toNat < 0x20 && c != '\t') || c.toNat == 0x7F

/-! ## Strings -/

def hexNumber? (digits : List Char) : Option Nat :=
  digits.foldlM (fun n c => (Text.hexValue? c).map (n * 16 + ·)) 0

/-- The character with a given code, which must not be half of a surrogate pair. -/
def scalar? (code : Nat) : Option Char :=
  if code < 0xD800 ∨ (0xE000 ≤ code ∧ code < 0x110000) then some (Char.ofNat code) else none

def coded? (digits : List Char) : Option Char := hexNumber? digits >>= scalar?

/-- The character that a short escape stands for. -/
def shortEscape? : Char → Option Char
  | 'b' => some '\x08'
  | 't' => some '\t'
  | 'n' => some '\n'
  | 'f' => some '\x0c'
  | 'r' => some '\r'
  | '"' => some '"'
  | '\\' => some '\\'
  | _ => none

/-- Adds a character in front of a string that has been read. -/
def consTo (c : Char) : Option (List Char × List Char) → Option (List Char × List Char)
  | none => none
  | some (s, rest) => some (c :: s, rest)

/-- The rest of a string between double quotes on one line, up to its end. -/
def basicString? : List Char → Option (List Char × List Char)
  | [] => none
  | '"' :: rest => some ([], rest)
  | '\\' :: 'u' :: a :: b :: c :: d :: rest =>
    (coded? [a, b, c, d]).bind fun e => consTo e (basicString? rest)
  | '\\' :: 'U' :: a :: b :: c :: d :: e :: f :: g :: h :: rest =>
    (coded? [a, b, c, d, e, f, g, h]).bind fun e => consTo e (basicString? rest)
  | '\\' :: c :: rest => (shortEscape? c).bind fun e => consTo e (basicString? rest)
  | c :: rest => if isControl c || c == '\\' then none else consTo c (basicString? rest)

/-- What a string over several lines passes over at present. -/
inductive Skipping where
  | nothing
  /-- Behind a backslash, before the end of its line. -/
  | toLineEnd
  /-- Behind that line end. -/
  | blanks
  deriving DecidableEq

/-- The rest of a string between three double quotes, up to its end. A backslash before the end
of a line takes away all white space up to the next other character. -/
def multilineBasicString? (skipping : Skipping) : List Char → Option (List Char × List Char)
  | [] => none
  | c :: rest =>
    match skipping with
    | .toLineEnd =>
      if c = '\n' then multilineBasicString? .blanks rest
      else if isSpace c then multilineBasicString? .toLineEnd rest
      else none
    | _ =>
      if skipping = .blanks ∧ isSpaceOrLineEnd c then multilineBasicString? .blanks rest
      else
        match c, rest with
        | '"', '"' :: '"' :: rest => some ([], rest)
        | '\\', 'u' :: a :: b :: c :: d :: rest =>
          (coded? [a, b, c, d]).bind fun e => consTo e (multilineBasicString? .nothing rest)
        | '\\', 'U' :: a :: b :: c :: d :: e :: f :: g :: h :: rest =>
          (coded? [a, b, c, d, e, f, g, h]).bind fun e =>
            consTo e (multilineBasicString? .nothing rest)
        | '\\', c :: rest =>
          if c = '\n' then multilineBasicString? .blanks rest
          else if isSpace c then multilineBasicString? .toLineEnd rest
          else (shortEscape? c).bind fun e => consTo e (multilineBasicString? .nothing rest)
        | c, rest =>
          if (isControl c && c != '\n') || c == '\\' then none
          else consTo c (multilineBasicString? .nothing rest)

/-- The rest of a string between single quotes on one line, up to its end. -/
def literalString? : List Char → Option (List Char × List Char)
  | [] => none
  | '\'' :: rest => some ([], rest)
  | c :: rest => if isControl c then none else consTo c (literalString? rest)

/-- The rest of a string between three single quotes, up to its end. -/
def multilineLiteralString? : List Char → Option (List Char × List Char)
  | [] => none
  | '\'' :: '\'' :: '\'' :: rest => some ([], rest)
  | c :: rest =>
    if isControl c && c != '\n' then none else consTo c (multilineLiteralString? rest)

/-- The text without a line end at its front. -/
def skipLineEnd : List Char → List Char
  | '\n' :: rest => rest
  | s => s

/-- Takes up to two quotes behind the end of a string over several lines into the string. -/
def withQuotesBehind (quote : Char) : List Char × List Char → List Char × List Char
  | (s, a :: b :: rest) =>
    if a = quote then
      if b = quote then (s ++ [quote, quote], rest) else (s ++ [quote], b :: rest)
    else (s, a :: b :: rest)
  | (s, [a]) => if a = quote then (s ++ [quote], []) else (s, [a])
  | (s, []) => (s, [])

/-- A string in any of its forms. -/
def string? : List Char → Option (List Char × List Char)
  | '"' :: '"' :: '"' :: rest =>
    (multilineBasicString? .nothing (skipLineEnd rest)).map (withQuotesBehind '"')
  | '"' :: rest => basicString? rest
  | '\'' :: '\'' :: '\'' :: rest =>
    (multilineLiteralString? (skipLineEnd rest)).map (withQuotesBehind '\'')
  | '\'' :: rest => literalString? rest
  | _ => none

end DependencyAudit.Toml
