import Probe.Table
import Probe.Text.Alphanumeric
import Probe.Text.Blank

namespace Probe

/-- How detailed records may be, from none to all of them. -/
inductive Level where
  | off
  | error
  | warn
  | info
  | debug
  | trace
  deriving Repr, DecidableEq

namespace Level

def text : Level → String
  | off => "off"
  | error => "error"
  | warn => "warn"
  | info => "info"
  | debug => "debug"
  | trace => "trace"

def all : List Level := [off, error, warn, info, debug, trace]

/-- The value of a decimal numeral, which may have a plus sign. -/
def decimal? (cs : List Char) : Option Nat :=
  let digits := if cs.head? = some '+' then cs.tail else cs
  if digits ≠ [] ∧ digits.all Char.isDigit then
    some (digits.foldl (fun n c => 10 * n + (c.toNat - '0'.toNat)) 0)
  else none

/-- A level by its number, zero for none, or by its name in any case. -/
def ofText? (s : String) : Option Level :=
  match decimal? s.toList with
  | some n => all[n]?
  | none => all.find? (fun level => level.text = Text.lower s)

end Level

/-- One directive: the level of a target, or of everything that no directive names. -/
structure Directive where
  target : Option String
  level : Level
  deriving Repr, DecidableEq

inductive FilterError where
  /-- A directive is no directive. -/
  | invalid
  /-- The reader itself breaks down. -/
  | crash
  deriving Repr, DecidableEq

/-- Where filters come from. -/
structure FilterReader (φ : Type) where
  /-- Reads a text of directives, none of which may be bad. -/
  strict : String → Except FilterError φ
  /-- Reads a text of directives and passes over bad ones. -/
  lenient : String → φ

namespace Directive

/-- The characters with which a directive may start after blanks. -/
def startsName (c : Char) : Bool := c = '-' || c = ':' || c = '_' || Text.isAlphanumeric c

def byteSize (cs : List Char) : Nat := cs.foldr (·.utf8Size + ·) 0

/-- Splits after a number of bytes, unless a character lies across the place. -/
def splitBytes : List Char → Nat → Option (List Char × List Char)
  | cs, 0 => some ([], cs)
  | [], _ => none
  | c :: rest, n =>
    if c.utf8Size ≤ n then
      (splitBytes rest (n - c.utf8Size)).map fun p => (c :: p.1, p.2)
    else none

/-- A text without an equals sign: a level, or a target that lets everything through. -/
def bare (text : String) : Directive :=
  match Level.ofText? text with
  | some level => ⟨none, level⟩
  | none => ⟨some text, .trace⟩

/-- A target and the text of its level. An empty text lets everything through. -/
def targeted (target level : List Char) : Except FilterError Directive :=
  if level = [] then .ok ⟨some (String.ofList target), .trace⟩
  else
    match Level.ofText? (String.ofList level) with
    | some level => .ok ⟨some (String.ofList target), level⟩
    | none => .error .invalid

/-- A directive is a level, a target, or a target and its level around an equals sign. The place
of the sign is counted in bytes from the first character that is not blank, and the piece is cut
at that distance from its own start, which may be within a character. -/
def parse (piece : List Char) : Except FilterError Directive :=
  let body := piece.dropWhile Text.isBlank
  if !body.head?.any startsName then .error .invalid
  else if '=' ∉ body then .ok (bare (String.ofList piece))
  else
    let place := byteSize (body.takeWhile (· ≠ '='))
    match splitBytes piece place, splitBytes piece (place + 1) with
    | some (target, _), some (_, level) => targeted target level
    | _, _ => .error .crash

def text (d : Directive) : String :=
  match d.target with
  | some target => target ++ "=" ++ d.level.text
  | none => d.level.text

/-- Longer targets come first, equally long ones in falling order, and the bare level last. -/
def precedes (a b : Directive) : Bool :=
  match a.target, b.target with
  | _, none => true
  | none, some _ => false
  | some s, some t =>
    t.utf8ByteSize < s.utf8ByteSize || (s.utf8ByteSize = t.utf8ByteSize && decide (t ≤ s))

end Directive

/-- The level of each target that is named; `none` stands for all others. -/
abbrev Filter := Table (Option String) Level

namespace Filter

/-- The texts between commas, empty ones included. -/
def split : List Char → List (List Char)
  | [] => [[]]
  | c :: rest => if c = ',' then [] :: split rest else (split rest).modifyHead (c :: ·)

/-- The texts between commas that are not empty. -/
def pieces (text : String) : List (List Char) := (split text.toList).filter (· ≠ [])

/-- A later directive replaces an earlier one of the same target. -/
def ofDirectives (directives : List Directive) : Filter :=
  Table.ofList (directives.map fun d => (d.target, d.level))

/-- The first bad directive makes the whole text invalid. -/
def parse (text : String) : Except FilterError Filter :=
  ((pieces text).mapM Directive.parse).map ofDirectives

def reader : FilterReader Filter where
  strict := parse
  lenient text :=
    ofDirectives ((pieces text).filterMap fun piece => (Directive.parse piece).toOption)

def directives (f : Filter) : List Directive := f.entries.map fun e => ⟨e.1, e.2⟩

def text (f : Filter) : String :=
  ",".intercalate ((f.directives.mergeSort Directive.precedes).map Directive.text)

end Filter

end Probe
