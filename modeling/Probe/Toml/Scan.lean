namespace Probe.Toml

/-- A reader gives a result and the characters it left, or fails. -/
abbrev Scan := StateT (List Char) Option

namespace Scan

variable {α : Type}

/-- The next character, if it passes a test. -/
def satisfy (test : Char → Bool) : Scan Char
  | c :: rest => if test c then some (c, rest) else none
  | [] => none

def char (c : Char) : Scan Unit := (satisfy (· = c)) *> pure ()

def word : List Char → Scan Unit
  | [] => pure ()
  | c :: rest => char c *> word rest

/-- All next characters that pass a test. -/
def takeWhile (test : Char → Bool) : Scan (List Char) :=
  fun cs => some (cs.takeWhile test, cs.dropWhile test)

/-- The next characters without taking them. -/
def ahead (count : Nat) : Scan (List Char) := fun cs => some (cs.take count, cs)

/-- Succeeds at the end of the text only. -/
def atEnd : Scan Unit
  | [] => some ((), [])
  | _ :: _ => none

def option (item : Scan α) : Scan (Option α) := (some <$> item) <|> pure none

/-- As many items as can be read, at most the given number of them. -/
def manyWithin (item : Scan α) : Nat → Scan (List α)
  | 0 => pure []
  | count + 1 => (do
      let first ← item
      let rest ← manyWithin item count
      return first :: rest) <|> pure []

/-- As many items as can be read. Each item takes at least one character. -/
def many (item : Scan α) : Scan (List α) := fun cs => manyWithin item cs.length cs

/-- One or more items with a character between them. -/
def sepBy (item : Scan α) (separator : Char) : Scan (List α) := do
  let first ← item
  let rest ← many (char separator *> item)
  return first :: rest

def times (item : Scan α) : Nat → Scan (List α)
  | 0 => pure []
  | count + 1 => do
    let first ← item
    let rest ← times item count
    return first :: rest

end Scan

/-- The blanks within a line. -/
def blanks : Scan Unit := Scan.takeWhile (fun c => c = ' ' || c = '\t') *> pure ()

def newline : Scan Unit := Scan.char '\n' <|> (Scan.char '\r' *> Scan.char '\n')

/-- The characters that may stand in a line: the tab and all that are not ASCII controls. -/
def inLine (c : Char) : Bool := c = '\t' || (0x20 ≤ c.toNat && c.toNat ≠ 0x7f)

def comment : Scan Unit := Scan.char '#' *> Scan.takeWhile inLine *> pure ()

/-- What may follow a statement in its line, and the end of the line. -/
def lineEnd : Scan Unit := do
  blanks
  let _ ← Scan.option comment
  newline <|> Scan.atEnd

/-- Blanks, comments and ends of lines. -/
def gaps : Scan Unit := do
  blanks
  let _ ← Scan.many ((Scan.option comment *> newline) *> blanks)

end Probe.Toml
