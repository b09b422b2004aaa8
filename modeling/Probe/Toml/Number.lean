import Probe.Toml.Text

namespace Probe.Toml

/-- Digits with single underscores between them. -/
def digits (isDigit : Char → Bool) : Scan (List Char) := do
  let first ← Scan.satisfy isDigit
  let rest ← Scan.many ((Scan.option (Scan.char '_')) *> Scan.satisfy isDigit)
  return first :: rest

def digitsValue (base : Nat) (ds : List Char) : Nat :=
  ds.foldl (fun n c => base * n + hexadecimal [c]) 0

def sign : Scan Bool := (· == '-') <$> Scan.satisfy (fun c => c = '+' || c = '-')

/-- Decimal digits that do not start with a zero, or a zero alone. -/
def wholePart : Scan (List Char) := do
  match ← Scan.ahead 1 with
  | ['0'] => Scan.char '0' *> pure ['0']
  | _ => digits Char.isDigit

/-- An integer has to fit into 64 bits. -/
def inRange (n : Int) : Scan Int :=
  if -0x8000000000000000 ≤ n ∧ n < 0x8000000000000000 then pure n else failure

def decimalInteger : Scan Int := do
  let negative ← Scan.option sign
  let n := digitsValue 10 (← wholePart)
  inRange (if negative = some true then -n else n)

/-- An integer in the base that a letter after the zero tells. -/
def basedInteger (letter : Char) (base : Nat) (isDigit : Char → Bool) : Scan Int := do
  Scan.word ['0', letter]
  inRange (digitsValue base (← digits isDigit))

def integer : Scan Int := do
  match ← Scan.ahead 2 with
  | ['0', 'x'] => basedInteger 'x' 16 isHexDigit
  | ['0', 'o'] => basedInteger 'o' 8 (fun c => '0' ≤ c && c ≤ '7')
  | ['0', 'b'] => basedInteger 'b' 2 (fun c => c = '0' || c = '1')
  | _ => decimalInteger

def fraction : Scan (List Char) := Scan.char '.' *> digits Char.isDigit

def exponent : Scan Int := do
  let _ ← Scan.satisfy (fun c => c = 'e' || c = 'E')
  let negative ← Scan.option sign
  let n : Nat := digitsValue 10 (← digits Char.isDigit)
  return if negative = some true then -n else n

/-- The double nearest to `significand · 10^power`. Beyond the powers that the format knows,
only the side matters. -/
def nearestDouble (significand : Nat) (power : Int) : Float :=
  let top := (Nat.toDigits 10 significand).length + power
  if significand = 0 ∨ top < -400 then 0.0
  else if 400 < top then 1.0 / 0.0
  else Float.ofScientific significand (power < 0) power.natAbs

/-- A number with a point or a power of ten, which must not be too large. -/
def pointNumber : Scan Float := do
  let negative ← Scan.option sign
  let whole ← wholePart
  let after ← Scan.option fraction
  let power ← if after.isSome then Scan.option exponent else some <$> exponent
  let ds := whole ++ after.getD []
  let size := nearestDouble (digitsValue 10 ds) (power.getD 0 - (after.getD []).length)
  let x := if negative = some true then -size else size
  if x == 1.0 / 0.0 then failure
  return x

/-- Infinity and what is not a number. -/
def specialNumber : Scan Float := do
  let negative ← Scan.option sign
  let x : Float ←
    (Scan.word ['i', 'n', 'f'] *> pure (1.0 / 0.0)) <|>
      (Scan.word ['n', 'a', 'n'] *> pure (0.0 / 0.0))
  return if negative = some true then -x else x

def float : Scan Float := pointNumber <|> specialNumber

end Probe.Toml
