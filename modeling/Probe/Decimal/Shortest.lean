import Probe.Floating.Format

namespace Probe

open Floating (Format)

/-- The number `0.d₁d₂… * 10 ^ point`, written without leading or trailing zero digits. -/
structure Decimal where
  digits : List Char
  point : Int
  deriving Repr, DecidableEq

namespace Decimal

def dropTrailingZeros (digits : List Char) : List Char :=
  (digits.reverse.dropWhile (· == '0')).reverse

/-- The decimal `n * 10 ^ e`. -/
def ofScaled (n : Nat) (e : Int) : Decimal :=
  let digits := Nat.toDigits 10 n
  ⟨dropTrailingZeros digits, digits.length + e⟩

/-- The reals that round to `value / unit`, as naturals over the common denominator `unit`. -/
structure Interval where
  low : Nat
  value : Nat
  high : Nat
  unit : Nat
  closed : Bool

/-- The interval of `m * 2 ^ q`; below a power of two the spacing is half as wide. -/
def Interval.around (f : Format) (m : Nat) (q : Int) : Interval :=
  let stretch := Nat.pow 2 (q - 2).toNat
  let below := if m = Nat.pow 2 f.fraction ∧ f.leastPlace < q then 1 else 2
  { low := (4 * m - below) * stretch
    value := 4 * m * stretch
    high := (4 * m + 2) * stretch
    unit := Nat.pow 2 (2 - q).toNat
    closed := m % 2 == 0 }

/-- Whether `n * 10 ^ e` lies in the interval. -/
def Interval.holds (i : Interval) (e : Int) (n : Nat) : Bool :=
  let x := n * i.unit * Nat.pow 10 e.toNat
  let low := i.low * Nat.pow 10 (-e).toNat
  let high := i.high * Nat.pow 10 (-e).toNat
  if i.closed then low ≤ x && x ≤ high else low < x && x < high

/-- The multiple of `10 ^ e` in the interval that is nearest to its value; a half goes up. -/
def Interval.nearest? (i : Interval) (e : Int) : Option Nat :=
  let value := i.value * Nat.pow 10 (-e).toNat
  let step := i.unit * Nat.pow 10 e.toNat
  let n := value / step
  match i.holds e n, i.holds e (n + 1) with
  | true, true => some (if 2 * (value % step) < step then n else n + 1)
  | true, false => some n
  | false, true => some (n + 1)
  | false, false => none

/-- The exponent of the first decimal digit of `a / b`, for positive numbers. -/
def leadingPlace (a b : Nat) : Int :=
  if b ≤ a then (Nat.toDigits 10 (a / b)).length - 1
  else -(Nat.toDigits 10 ((b + a - 1) / a - 1)).length

/-- The fewest digits for `m * 2 ^ q`; seventeen always suffice for the formats in use. -/
def shortest (f : Format) (m : Nat) (q : Int) : Decimal :=
  let interval := Interval.around f m q
  let place := leadingPlace interval.value interval.unit
  let hit := (List.range 17).findSome? fun (n : Nat) =>
    (interval.nearest? (place - n)).map fun c => ofScaled c (place - n)
  hit.getD (ofScaled 0 0)

/-- All digits in front of the point and behind it, with no point for a whole number. -/
def positional (d : Decimal) : List Char :=
  if d.point ≤ 0 then
    if d.digits.isEmpty then ['0']
    else '0' :: '.' :: List.replicate (-d.point).toNat '0' ++ d.digits
  else
    let whole := d.point.toNat
    if d.digits.length ≤ whole then d.digits ++ List.replicate (whole - d.digits.length) '0'
    else d.digits.take whole ++ '.' :: d.digits.drop whole

/-- One digit in front of the point, and the power of ten after an `e`. -/
def exponential (d : Decimal) : List Char :=
  let rest := d.digits.drop 1
  let mantissa := d.digits.take 1 ++ if rest.isEmpty then [] else '.' :: rest
  mantissa ++ 'e' :: (toString (d.point - 1)).toList

end Decimal

end Probe
