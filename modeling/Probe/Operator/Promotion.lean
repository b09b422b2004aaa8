import Probe.Value.Basic

namespace Probe

/-- The kind of an operand after promotion on its own. -/
def Kind.promoted : Kind → Kind
  | .byte | .short | .char => .int
  | k => k

/-- The place of a promoted kind in `int < long < float < double`. -/
def Kind.rank (k : Kind) : Nat :=
  match k.promoted with
  | .int => 0
  | .long => 1
  | .float => 2
  | _ => 3

/-- The common kind of two numeric operands. -/
def Kind.promotedWith? (l r : Kind) : Option Kind :=
  if l.isNumeric && r.isNumeric then
    some (if r.rank ≤ l.rank then l.promoted else r.promoted)
  else none

inductive Number where
  | int (v : Int32)
  | long (v : Int64)
  | float (v : Float32)
  | double (v : Float)
  deriving DecidableEq

namespace Number

def toValue : Number → Value
  | int v => .int v
  | long v => .long v
  | float v => .float v
  | double v => .double v

def toDouble : Number → Float
  | int v => Floating.toDouble (.ofInt v.toInt)
  | long v => Floating.toDouble (.ofInt v.toInt)
  | float v => Floating.widen v
  | double v => v

def toSingle : Number → Float32
  | int v => Floating.toSingle (.ofInt v.toInt)
  | long v => Floating.toSingle (.ofInt v.toInt)
  | float v => v
  | double v => Floating.narrow v

end Number

/-- The promoted operand; only numbers have one. -/
def Value.number? : Value → Option Number
  | .byte v => some (.int v.toInt32)
  | .char v => some (.int v.toUInt32.toInt32)
  | .short v => some (.int v.toInt32)
  | .int v => some (.int v)
  | .long v => some (.long v)
  | .float v => some (.float v)
  | .double v => some (.double v)
  | _ => none

inductive NumberPair where
  | ints (l r : Int32)
  | longs (l r : Int64)
  | floats (l r : Float32)
  | doubles (l r : Float)
  deriving DecidableEq

/-- Brings two promoted operands to their common kind. -/
def Number.pair : Number → Number → NumberPair
  | .int l, .int r => .ints l r
  | .int l, .long r => .longs l.toInt64 r
  | .long l, .int r => .longs l r.toInt64
  | .long l, .long r => .longs l r
  | .double l, r => .doubles l r.toDouble
  | l, .double r => .doubles l.toDouble r
  | .float l, r => .floats l r.toSingle
  | l, .float r => .floats l.toSingle r

def Value.pair? (l r : Value) : Option NumberPair :=
  match l.number?, r.number? with
  | some l, some r => some (l.pair r)
  | _, _ => none

end Probe
