import Probe.Table
import Probe.Toml.Moment

namespace Probe.Toml

/-- What made a table, which decides what may still be added to it. -/
inductive Origin where
  /-- A header of one of its tables. -/
  | implied
  /-- Its own header. -/
  | header
  /-- A key with dots. -/
  | dotted
  deriving DecidableEq

inductive Item where
  | text (s : String)
  | integer (n : Int)
  | float (x : Float)
  | boolean (b : Bool)
  | moment
  | list (items : List Item)
  /-- A table between braces, to which nothing can be added. -/
  | inline (entries : List (String × Item))
  | table (origin : Origin) (entries : List (String × Item))
  /-- Tables that have the same doubly bracketed header. -/
  | tables (rows : List (List (String × Item)))

abbrev Entries := List (String × Item)

namespace Entries

/-- Adds a value under a key. Keys with dots reach only into tables that such keys made. -/
def add (value : Item) : List String → Entries → Option Entries
  | [], _ => none
  | [name], entries =>
    if (Table.lookup name entries).isSome then none else some (entries ++ [(name, value)])
  | name :: rest, entries =>
    match Table.lookup name entries with
    | none => (add value rest []).map fun inner => entries ++ [(name, .table .dotted inner)]
    | some (.table origin inner) =>
      if origin = .header ∨ rest.length = 1 ∧ origin ≠ .dotted then none
      else (add value rest inner).map fun inner => Table.put name (.table origin inner) entries
    | some (.tables rows) =>
      if rest.length = 1 then none
      else do
        let row ← add value rest (← rows.getLast?)
        return Table.put name (.tables (rows.dropLast ++ [row])) entries
    | some _ => none

/-- Changes the table that the names of a header lead to. Tables that are missing on the way are
implied, and of several tables with one header the last is meant. -/
def change (act : Entries → Option Entries) : List String → Entries → Option Entries
  | [], entries => act entries
  | name :: rest, entries =>
    match Table.lookup name entries with
    | none => (change act rest []).map fun inner => entries ++ [(name, .table .implied inner)]
    | some (.table origin inner) =>
      (change act rest inner).map fun inner => Table.put name (.table origin inner) entries
    | some (.tables rows) => do
      let row ← change act rest (← rows.getLast?)
      return Table.put name (.tables (rows.dropLast ++ [row])) entries
    | some _ => none

/-- Starts the table of a header, which may until now only have been implied. -/
def openTable (name : String) (entries : Entries) : Option Entries :=
  match Table.lookup name entries with
  | none => some (entries ++ [(name, .table .header [])])
  | some (.table .implied inner) =>
    some (entries.filter (fun e => e.1 ≠ name) ++ [(name, .table .header inner)])
  | some _ => none

/-- Starts one more table under a doubly bracketed header. -/
def openRow (name : String) (entries : Entries) : Option Entries :=
  match Table.lookup name entries with
  | none => some (entries ++ [(name, .tables [[]])])
  | some (.tables rows) => some (Table.put name (.tables (rows ++ [[]])) entries)
  | some _ => none

end Entries

/-- A key and the value that it gets. -/
def assignment (value : Scan Item) : Scan (List String × Item) := do
  let path ← key
  Scan.char '='
  blanks
  return (path, ← value)

/-- The items of a list, the bracket that closes it included. -/
def listBody (value : Scan Item) : Scan (List Item) := do
  let items ← Scan.option (Scan.sepBy (gaps *> value <* gaps) ',')
  if items.isSome then
    let _ ← Scan.option (Scan.char ',')
  gaps
  Scan.char ']'
  return items.getD []

/-- The entries of a table between braces, the brace that closes it included. -/
def inlineBody (value : Scan Item) : Scan Entries := do
  let pairs ← Scan.option (Scan.sepBy (assignment value <* blanks) ',')
  blanks
  Scan.char '}'
  (pairs.getD []).foldlM (fun entries pair => (entries.add pair.2 pair.1 : Option Entries)) []

/-- A value. Lists and tables in it are refused unless there is a reader for their values. -/
def valueWith (inner : Option (Scan Item)) : Scan Item := do
  match ← Scan.ahead 1, inner with
  | ['"'], _ | ['\''], _ => .text <$> quotedText
  | ['t'], _ => Scan.word "true".toList *> pure (.boolean true)
  | ['f'], _ => Scan.word "false".toList *> pure (.boolean false)
  | ['['], some inner => Scan.char '[' *> (.list <$> listBody inner)
  | ['{'], some inner => Scan.char '{' *> (.inline <$> inlineBody inner)
  | _, _ => (moment *> pure .moment) <|> (.float <$> float) <|> (.integer <$> integer)

/-- A value with brackets and braces up to the given depth. -/
def valueWithin : Nat → Scan Item
  | 0 => valueWith none
  | depth + 1 => valueWith (some (valueWithin depth))

def value : Scan Item := valueWithin (depthLimit - 1)

end Probe.Toml
