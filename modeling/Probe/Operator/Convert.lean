import Probe.Error.Expression
import Probe.Operator.Promotion

namespace Probe

/-- The number without its fraction: floating numbers are brought into the range of `long` if
that is the target and into the range of `int` otherwise. -/
def Number.integral (target : Kind) : Number → Int64
  | .int v => v.toInt64
  | .long v => v
  | n@(.float _) | n@(.double _) =>
    let datum := Floating.ofDouble n.toDouble
    match target with
    | .long => Int64.ofInt (datum.clamp (-0x8000000000000000) 0x7fffffffffffffff)
    | _ => Int64.ofInt (datum.clamp (-0x80000000) 0x7fffffff)

/-- A number in a numeric kind; integral kinds keep the low bits. -/
def Number.convert? (n : Number) (target : Kind) : Option Value :=
  match target with
  | .boolean => none
  | .byte => some (.byte (n.integral target).toInt8)
  | .char => some (.char (n.integral target).toUInt64.toUInt16)
  | .short => some (.short (n.integral target).toInt16)
  | .int => some (.int (n.integral target).toInt32)
  | .long => some (.long (n.integral target))
  | .float => some (.float n.toSingle)
  | .double => some (.double n.toDouble)

def Value.convert? : Value → Kind → Option Value
  | .boolean b, .boolean => some (.boolean b)
  | v, target => v.number?.bind (·.convert? target)

def Value.convert (v : Value) (target : Kind) : Except ExpressionError Value :=
  (v.convert? target).elim (.error (.classCast v.typeName target.name)) .ok

end Probe
