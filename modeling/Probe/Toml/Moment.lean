import Probe.Toml.Number

namespace Probe.Toml

/-- A number in the given number of digits that lies between two bounds. -/
def field (count low high : Nat) : Scan Nat := do
  let n := digitsValue 10 (← Scan.times (Scan.satisfy Char.isDigit) count)
  if low ≤ n ∧ n ≤ high then pure n else failure

def isLeap (year : Nat) : Bool := year % 4 = 0 && (year % 100 ≠ 0 || year % 400 = 0)

def daysIn (year : Nat) : Nat → Nat
  | 2 => if isLeap year then 29 else 28
  | 4 | 6 | 9 | 11 => 30
  | _ => 31

def date : Scan Unit := do
  let year ← field 4 0 9999
  Scan.char '-'
  let month ← field 2 1 12
  Scan.char '-'
  let _ ← field 2 1 (daysIn year month)

/-- A time of day. Its minutes may have a leap second. -/
def time : Scan Unit := do
  let _ ← field 2 0 23
  Scan.char ':'
  let _ ← field 2 0 59
  Scan.char ':'
  let _ ← field 2 0 60
  let _ ← Scan.option do
    Scan.char '.'
    let _ ← Scan.satisfy Char.isDigit
    Scan.takeWhile Char.isDigit

/-- The distance of a local time from universal time. -/
def zone : Scan Unit := do
  match ← Scan.satisfy (fun c => c = 'Z' || c = 'z' || c = '+' || c = '-') with
  | '+' | '-' =>
    let _ ← field 2 0 23
    Scan.char ':'
    let _ ← field 2 0 59
  | _ => pure ()

/-- A date, a time, or both with or without a zone. -/
def moment : Scan Unit :=
  (do
    date
    let _ ← Scan.option do
      let _ ← Scan.satisfy (fun c => c = 'T' || c = 't' || c = ' ')
      time
      Scan.option zone) <|> time

end Probe.Toml
