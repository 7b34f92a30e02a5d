import EntityScene.Toml.Reader

/-!
Blanks, comments, strings and keys of TOML text.
-/

namespace EntityScene.Toml

open Reader

def isBlank (c : Char) : Bool := c == ' ' || c == '\t'

def blanks : Reader Unit := do
  let _ ← takeWhile isBlank

def newline : Reader Unit := char '\n' <|> literal "\r\n"

/-- Tabs and characters that are no control characters. -/
def isPlain (c : Char) : Bool := c == '\t' || (decide (' ' ≤ c) && c != '\x7f')

def comment : Reader Unit := do
  char '#'
  let _ ← takeWhile isPlain

/-- The end of a line after something of note. -/
def lineEnd : Reader Unit := do
  blanks
  let _ ← optional comment
  newline <|> finished

/-- Blanks, newlines and comments that a newline ends. -/
def padding : Reader Unit := do
  let _ ← many ((do let _ ← satisfy isBlank) <|> newline <|> (comment *> newline))

def isHexDigit (c : Char) : Bool :=
  c.isDigit || (decide ('a' ≤ c) && decide (c ≤ 'f')) || (decide ('A' ≤ c) && decide (c ≤ 'F'))

/-- The value of a digit in a base up to sixteen. -/
def digitValue (c : Char) : Nat :=
  if c.isDigit then c.toNat - '0'.toNat
  else if c.isLower then c.toNat - 'a'.toNat + 10
  else c.toNat - 'A'.toNat + 10

/-- The number that the digits write. -/
def digitsValue (base : Nat) (digits : List Char) : Nat :=
  digits.foldl (fun value digit => value * base + digitValue digit) 0

/-- A character given by the digits of its code point. -/
def codePoint (count : Nat) : Reader Char := do
  let code := digitsValue 16 (← exactly count isHexDigit)
  if code.isValidChar then pure (Char.ofNat code) else failure

/-- What follows a backslash. -/
def escaped : Reader Char := do
  match ← satisfy fun _ => true with
  | 'b' => pure '\x08'
  | 't' => pure '\t'
  | 'n' => pure '\n'
  | 'f' => pure '\x0c'
  | 'r' => pure '\r'
  | '"' => pure '"'
  | '\\' => pure '\\'
  | 'u' => codePoint 4
  | 'U' => codePoint 8
  | _ => failure

def isBasic (c : Char) : Bool := isPlain c && c != '"' && c != '\\'

def isLiteral (c : Char) : Bool := isPlain c && c != '\''

/-- A string between double quotes, on one line. -/
def basicString : Reader String := do
  char '"'
  let parts ← many (takeWhile1 isBasic <|> (do char '\\'; pure [← escaped]))
  char '"'
  pure (String.ofList parts.flatten)

/-- A string between single quotes, on one line, without escapes. -/
def literalString : Reader String := do
  char '\''
  let text ← takeWhile isLiteral
  char '\''
  pure (String.ofList text)

/-- Quotes inside a string of several lines: fewer than would end it. -/
def innerQuotes (quote : Char) : Reader (List Char) := fun input =>
  let run := input.takeWhile fun c => c == quote
  if run.isEmpty || 2 < run.length then none else some (run, input.drop run.length)

/-- The quotes that end a string of several lines; up to two more belong to the string. -/
def closingQuotes (quote : Char) : Reader (List Char) := fun input =>
  let run := (input.takeWhile fun c => c == quote).take 5
  if run.length < 3 then none else some (run.drop 3, input.drop run.length)

/-- A backslash at the end of a line, which joins the lines. -/
def lineJoin : Reader (List Char) := do
  char '\\'
  blanks
  newline
  let _ ← many ((do let _ ← satisfy isBlank) <|> newline)
  pure []

/-- A string of several lines. A newline right after the opening quotes is dropped. -/
def longString (quote : Char) (content : Reader (List Char)) : Reader String := do
  literal (String.ofList [quote, quote, quote])
  let _ ← optional newline
  let parts ← many (content <|> (do newline; pure ['\n']) <|> innerQuotes quote)
  let last ← closingQuotes quote
  pure (String.ofList (parts.flatten ++ last))

def longBasicString : Reader String :=
  longString '"' (takeWhile1 isBasic <|> lineJoin <|> (do char '\\'; pure [← escaped]))

def longLiteralString : Reader String := longString '\'' (takeWhile1 isLiteral)

def string : Reader String :=
  longBasicString <|> basicString <|> longLiteralString <|> literalString

def isBareKey (c : Char) : Bool := c.isAlphanum || c == '-' || c == '_'

def simpleKey : Reader String :=
  basicString <|> literalString <|> (do pure (String.ofList (← takeWhile1 isBareKey)))

/-- One or more keys with dots between them. -/
def key : Reader (List String) :=
  separated (do blanks; let key ← simpleKey; blanks; pure key) (char '.')

end EntityScene.Toml
