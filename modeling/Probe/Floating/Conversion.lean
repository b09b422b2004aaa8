import Probe.Floating.Format

namespace Probe.Floating

def ofDouble (x : Float) : Datum := Format.double.decode x.toBits.toNat

def ofSingle (x : Float32) : Datum := Format.single.decode x.toBits.toNat

def toDouble (d : Datum) : Float := Float.ofBits (Format.double.encode d).toUInt64

def toSingle (d : Datum) : Float32 := Float32.ofBits (Format.single.encode d).toUInt32

def widen (x : Float32) : Float := toDouble (ofSingle x)

def narrow (x : Float) : Float32 := toSingle (ofDouble x)

def Datum.ofInt (n : Int) : Datum := .finite (n < 0) n.natAbs 0

/-- The value without its fraction, brought into the range `low … high`; no number counts as
zero. -/
def Datum.clamp (low high : Int) : Datum → Int
  | .notANumber => 0
  | .infinite negative => if negative then low else high
  | .finite negative m q =>
    let whole : Nat := if 0 ≤ q then m * Nat.pow 2 q.toNat else m / Nat.pow 2 (-q).toNat
    max low (min high (if negative then -whole else whole))

/-- The remainder of a division whose quotient is cut toward zero. -/
def Datum.remainder : Datum → Datum → Datum
  | .finite s m q, .finite _ m' q' =>
    if m' = 0 then .notANumber
    else
      let place := min q q'
      .finite s (m * Nat.pow 2 (q - place).toNat % (m' * Nat.pow 2 (q' - place).toNat)) place
  | x@(.finite ..), .infinite _ => x
  | _, _ => .notANumber

def remDouble (x y : Float) : Float := toDouble ((ofDouble x).remainder (ofDouble y))

def remSingle (x y : Float32) : Float32 := toSingle ((ofSingle x).remainder (ofSingle y))

end Probe.Floating
