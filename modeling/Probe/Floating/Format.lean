namespace Probe.Floating

/-- A binary format by the widths of its stored fraction and of its exponent field. -/
structure Format where
  fraction : Nat
  exponent : Nat
  deriving Repr, DecidableEq

namespace Format

def single : Format := ⟨23, 8⟩

def double : Format := ⟨52, 11⟩

/-- The exponent of the last place of the smallest numbers. -/
def leastPlace (f : Format) : Int := 2 - Nat.pow 2 (f.exponent - 1) - f.fraction

/-- The pattern of positive infinity, above all finite magnitudes. -/
def infinity (f : Format) : Nat := (Nat.pow 2 f.exponent - 1) * Nat.pow 2 f.fraction

def signBit (f : Format) : Nat := Nat.pow 2 (f.fraction + f.exponent)

/-- The pattern of the one value that is not a number. -/
def quietNaN (f : Format) : Nat := f.infinity + Nat.pow 2 (f.fraction - 1)

end Format

/-- What a bit pattern stands for; a finite datum is `significand * 2 ^ place` with a sign. -/
inductive Datum where
  | notANumber
  | infinite (negative : Bool)
  | finite (negative : Bool) (significand : Nat) (place : Int)
  deriving Repr, DecidableEq

def Format.decode (f : Format) (bits : Nat) : Datum :=
  let fraction := bits % Nat.pow 2 f.fraction
  let biased := bits / Nat.pow 2 f.fraction % Nat.pow 2 f.exponent
  let negative := bits / f.signBit % 2 == 1
  if biased = Nat.pow 2 f.exponent - 1 then
    if fraction = 0 then .infinite negative else .notANumber
  else if biased = 0 then .finite negative fraction f.leastPlace
  else .finite negative (Nat.pow 2 f.fraction + fraction) (f.leastPlace + biased - 1)

/-- `m / 2 ^ s` to the nearest natural number, a half going to the even neighbour. -/
def roundShift (m s : Nat) : Nat :=
  let unit := Nat.pow 2 s
  let quotient := m / unit
  let rest := m % unit
  if unit < 2 * rest ∨ 2 * rest = unit ∧ quotient % 2 = 1 then quotient + 1 else quotient

/-- The pattern of the magnitude nearest to `m * 2 ^ q`. -/
def Format.magnitude (f : Format) (m : Nat) (q : Int) : Nat :=
  if m = 0 then 0
  else
    let place := max f.leastPlace (q + m.log2 - f.fraction)
    let scaled :=
      if place ≤ q then m * Nat.pow 2 (q - place).toNat else roundShift m (place - q).toNat
    min f.infinity ((place - f.leastPlace).toNat * Nat.pow 2 f.fraction + scaled)

def Format.encode (f : Format) : Datum → Nat
  | .notANumber => f.quietNaN
  | .infinite negative => (if negative then f.signBit else 0) + f.infinity
  | .finite negative m q => (if negative then f.signBit else 0) + f.magnitude m q

end Probe.Floating
