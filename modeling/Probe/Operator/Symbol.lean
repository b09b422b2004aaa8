namespace Probe

inductive UnaryOp where
  | plus
  | minus
  | not
  /-- Bitwise complement. -/
  | complement
  deriving Repr, DecidableEq

inductive ArithOp where
  | add
  | sub
  | mul
  | div
  | rem
  deriving Repr, DecidableEq

inductive ShiftOp where
  | left
  /-- Shifts copies of the sign in. -/
  | right
  /-- Shifts zeros in. -/
  | rightZero
  deriving Repr, DecidableEq

/-- Bitwise on integral operands, logical on booleans. -/
inductive BitOp where
  | and
  | or
  | xor
  deriving Repr, DecidableEq

inductive OrderOp where
  | lt
  | le
  | gt
  | ge
  deriving Repr, DecidableEq

inductive BinaryOp where
  | arith (op : ArithOp)
  | shift (op : ShiftOp)
  | bit (op : BitOp)
  | order (op : OrderOp)
  | eq
  | ne
  deriving Repr, DecidableEq

def UnaryOp.symbol : UnaryOp → String
  | plus => "+"
  | minus => "-"
  | not => "!"
  | complement => "~"

def BinaryOp.symbol : BinaryOp → String
  | arith .add => "+"
  | arith .sub => "-"
  | arith .mul => "*"
  | arith .div => "/"
  | arith .rem => "%"
  | shift .left => "<<"
  | shift .right => ">>"
  | shift .rightZero => ">>>"
  | bit .and => "&"
  | bit .or => "|"
  | bit .xor => "^"
  | order .lt => "<"
  | order .le => "<="
  | order .gt => ">"
  | order .ge => ">="
  | eq => "=="
  | ne => "!="

def UnaryOp.all : List UnaryOp := [plus, minus, not, complement]

def BinaryOp.all : List BinaryOp :=
  [arith .add, arith .sub, arith .mul, arith .div, arith .rem,
    shift .left, shift .right, shift .rightZero, bit .and, bit .or, bit .xor,
    order .lt, order .le, order .gt, order .ge, eq, ne]

def UnaryOp.ofSymbol? (s : String) : Option UnaryOp := all.find? (·.symbol == s)

def BinaryOp.ofSymbol? (s : String) : Option BinaryOp := all.find? (·.symbol == s)

theorem UnaryOp.ofSymbol?_symbol (op : UnaryOp) : ofSymbol? op.symbol = some op := by
  cases op <;> rfl

theorem BinaryOp.ofSymbol?_symbol (op : BinaryOp) : ofSymbol? op.symbol = some op := by
  cases op with
  | arith op => cases op <;> rfl
  | shift op => cases op <;> rfl
  | bit op => cases op <;> rfl
  | order op => cases op <;> rfl
  | eq => rfl
  | ne => rfl

end Probe
