import Probe.Toml.Scan

namespace Probe.Toml

def hexadecimal (digits : List Char) : Nat :=
  digits.foldl (fun n c =>
    16 * n + (if c.isDigit then c.toNat - '0'.toNat else c.toLower.toNat - 'a'.toNat + 10)) 0

def isHexDigit (c : Char) : Bool :=
  c.isDigit || ('a' ≤ c && c ≤ 'f') || ('A' ≤ c && c ≤ 'F')

/-- A character by its code point in the given number of digits. -/
def codePoint (count : Nat) : Scan Char := do
  let n := hexadecimal (← Scan.times (Scan.satisfy isHexDigit) count)
  if n < 0xd800 ∨ 0xdfff < n ∧ n < 0x110000 then pure (Char.ofNat n) else failure

/-- What stands for one character: a backslash and a letter. -/
def escape : Scan Char := do
  Scan.char '\\'
  match ← Scan.satisfy (fun _ => true) with
  | 'b' => pure '\x08'
  | 't' => pure '\t'
  | 'n' => pure '\n'
  | 'f' => pure '\x0c'
  | 'r' => pure '\r'
  | '"' => pure '"'
  | '\\' => pure '\\'
  | 'u' => codePoint 4
  | 'U' => codePoint 8
  | _ => failure

/-- A backslash at the end of a line joins what follows the blanks and line ends after it. -/
def joint : Scan Unit := do
  Scan.char '\\'
  blanks
  newline
  let _ ← Scan.many (newline <|> (Scan.satisfy (fun c => c = ' ' || c = '\t') *> pure ()))

/-- A character that stands for itself. -/
def plain (quote : Char) : Scan Char :=
  Scan.satisfy fun c => inLine c && c ≠ quote && (quote = '\'' || c ≠ '\\')

/-- A character between quotes; escapes are known only between double quotes. -/
def inner (quote : Char) : Scan Char :=
  plain quote <|> (if quote = '"' then escape else failure)

def singleLine (quote : Char) : Scan String := do
  Scan.char quote
  let body ← Scan.many (inner quote)
  Scan.char quote
  return String.ofList body

/-- A quote within text on several lines, which three of them would end. -/
def loneQuote (quote : Char) : Scan Char := do
  if (← Scan.ahead 3) = [quote, quote, quote] then failure
  Scan.char quote
  return quote

/-- Part of text on several lines. -/
def innerPart (quote : Char) : Scan (List Char) :=
  (List.singleton <$> plain quote)
    <|> (if quote = '"' then joint *> pure [] else failure)
    <|> (List.singleton <$> inner quote)
    <|> (newline *> pure ['\n'])
    <|> (List.singleton <$> loneQuote quote)

/-- Three quotes end the text, and up to two more in front of them belong to it. -/
def closing (quote : Char) : Scan (List Char) := do
  let extra := ((← Scan.ahead 5).takeWhile (· = quote)).length - 3
  Scan.word (List.replicate (extra + 3) quote)
  return List.replicate extra quote

/-- Text on several lines. A line end right after the opening quotes is left out. -/
def multiLine (quote : Char) : Scan String := do
  Scan.word [quote, quote, quote]
  let _ ← Scan.option newline
  let parts ← Scan.many (innerPart quote)
  let last ← closing quote
  return String.ofList (parts.flatten ++ last)

/-- Text in any of the four ways to write it. -/
def quotedText : Scan String := do
  match ← Scan.ahead 3 with
  | ['"', '"', '"'] => multiLine '"'
  | ['\'', '\'', '\''] => multiLine '\''
  | '"' :: _ => singleLine '"'
  | _ => singleLine '\''

def bareName : Scan String := do
  let name ← Scan.takeWhile fun c => c.isAlphanum || c = '_' || c = '-'
  if name.isEmpty then failure
  return String.ofList name

/-- One part of a key. -/
def name : Scan String := do
  match ← Scan.ahead 1 with
  | ['"'] => singleLine '"'
  | ['\''] => singleLine '\''
  | _ => bareName

/-- A key has fewer parts than this. -/
def depthLimit : Nat := 80

/-- A key: names with dots between them. -/
def key : Scan (List String) := do
  let parts ← Scan.sepBy (blanks *> name <* blanks) '.'
  if parts.length < depthLimit then pure parts else failure

end Probe.Toml
