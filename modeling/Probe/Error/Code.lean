import Probe.Code.Instruction

namespace Probe

/-- What an instruction wanted to find on top of the stack. -/
inductive Expected where
  | value
  | type
  | boolean
  deriving Repr, DecidableEq

def Expected.text : Expected → String
  | value => "value"
  | type => "type"
  | boolean => "boolean"

inductive CodeError where
  | underflow (pc : Nat) (instruction : Instruction)
  | overflow (pc limit : Nat)
  | unexpected (pc : Nat) (instruction : Instruction) (expected : Expected)
  /-- The code ended with a type where its value should be. -/
  | typeLeft (pc : Nat)
  | invalidJump (pc target length : Nat)
  | resultCount (count : Nat)
  deriving DecidableEq

namespace CodeError

def wrongOperand (pc : Nat) (instruction expected : String) : String :=
  s!"instruction {pc} (`{instruction}`) expected a {expected} operand"

def message : CodeError → String
  | underflow pc instruction =>
    "stack underflow at instruction " ++ toString pc ++ " (`" ++ instruction.text ++ "`)"
  | overflow pc limit => s!"operand stack exceeded {limit} entries at instruction {pc}"
  | unexpected pc instruction expected => wrongOperand pc instruction.text expected.text
  | typeLeft pc => wrongOperand pc "end of sequence" "value"
  | invalidJump pc target length =>
    s!"jump at instruction {pc} targets {target}, only forward jumps within {length} " ++
      "instructions are allowed"
  | resultCount count =>
    s!"evaluation finished with {count} values on the stack, expected exactly one"

end CodeError

end Probe
