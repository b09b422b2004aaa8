import Probe.Toml.Item

namespace Probe.Toml

inductive Statement where
  | assign (path : List String) (value : Item)
  /-- The header of a table. -/
  | table (path : List String)
  /-- The header of one of several tables. -/
  | row (path : List String)

def header (isRow : Bool) : Scan Statement := do
  let brackets := if isRow then 2 else 1
  Scan.word (List.replicate brackets '[')
  let path ← key
  Scan.word (List.replicate brackets ']')
  return if isRow then .row path else .table path

/-- One line: a statement, or none if the line is empty but for a comment. -/
def line : Scan (Option Statement) := do
  blanks
  match ← Scan.ahead 2 with
  | '#' :: _ => lineEnd *> pure none
  | '\n' :: _ => newline *> pure none
  | '\r' :: _ => newline *> pure none
  | ['[', '['] => some <$> (header true <* lineEnd)
  | '[' :: _ => some <$> (header false <* lineEnd)
  | _ => some <$> ((fun pair => .assign pair.1 pair.2) <$> assignment value <* lineEnd)

/-- All lines of a text, which may start with a byte order mark. -/
def statements : Scan (List Statement) := do
  let _ ← Scan.option (Scan.char '\ufeff')
  let lines ← Scan.many line
  blanks
  Scan.atEnd
  return lines.filterMap id

/-- A document in the making: its entries and the header in force. -/
structure Draft where
  entries : Entries := []
  header : List String := []

namespace Draft

def extend (d : Draft) : Statement → Option Draft
  | .assign path item => do
    return { d with entries := ← Entries.change (Entries.add item path) d.header d.entries }
  | .table path => do
    let opened ← Entries.change (Entries.openTable (← path.getLast?)) path.dropLast d.entries
    return ⟨opened, path⟩
  | .row path => do
    let opened ← Entries.change (Entries.openRow (← path.getLast?)) path.dropLast d.entries
    return ⟨opened, path⟩

end Draft

/-- The entries of a document in the order in which they came in, if the text is well formed and
defines nothing twice. -/
def parse? (text : String) : Option Entries := do
  let (list, _) ← statements text.toList
  return (← list.foldlM Draft.extend {}).entries

end Probe.Toml
