import Probe.Error.Code

namespace Probe

/-- The first jump that does not lead forward to an index of at most `length`, with its
target. -/
def badJumpFrom? (length : Nat) : Nat → List Instruction → Option (Nat × Nat)
  | _, [] => none
  | pc, i :: rest =>
    match i.target? with
    | some target =>
      if pc < target ∧ target ≤ length then badJumpFrom? length (pc + 1) rest
      else some (pc, target)
    | none => badJumpFrom? length (pc + 1) rest

def badJump? (instructions : List Instruction) : Option (Nat × Nat) :=
  badJumpFrom? instructions.length 0 instructions

/-- Instructions whose jumps all lead forward, with the source text they were compiled from. -/
structure Code where
  source : String
  instructions : List Instruction
  forward : badJump? instructions = none

namespace Code

def ofList (source : String) (instructions : List Instruction) : Except CodeError Code :=
  match h : badJump? instructions with
  | none => .ok ⟨source, instructions, h⟩
  | some (pc, target) => .error (.invalidJump pc target instructions.length)

def length (c : Code) : Nat := c.instructions.length

def isEmpty (c : Code) : Bool := c.instructions.isEmpty

def hasSideEffects (c : Code) : Bool := c.instructions.any Instruction.hasSideEffects

end Code

end Probe
