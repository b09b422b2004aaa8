import Probe.Decimal.Shortest
import Probe.Floating.Conversion

namespace Probe.Decimal

open Floating (Datum Format)

/-- The fewest digits of a magnitude; zero has none. -/
def ofMagnitude (f : Format) (m : Nat) (q : Int) : Decimal :=
  if m = 0 then ⟨[], 0⟩ else shortest f m q

def sign (negative : Bool) : List Char := if negative then ['-'] else []

/-- Appends `.0` to text without a point. -/
def withPoint (text : List Char) : List Char :=
  if text.contains '.' then text else text ++ ['.', '0']

/-- All digits positionally, and a whole number without a point. -/
def plainList (f : Format) : Datum → List Char
  | .notANumber => "NaN".toList
  | .infinite negative => sign negative ++ "inf".toList
  | .finite negative m q => sign negative ++ (ofMagnitude f m q).positional

/-- Positional with a point for zero and from `10⁻⁴` up to below `10¹⁶`, exponential
otherwise. -/
def diagnosticList (f : Format) : Datum → List Char
  | .finite negative m q =>
    let d := ofMagnitude f m q
    sign negative ++
      if m = 0 ∨ -4 < d.point ∧ d.point ≤ 16 then withPoint d.positional else d.exponential
  | d => plainList f d

/-- Positional text turned to one digit in front of the point and a power of ten behind an
`E`. -/
def scientificList (text : List Char) : List Char :=
  let negative := text.head? == some '-'
  let digits := if negative then text.drop 1 else text
  let whole := digits.takeWhile (· != '.')
  let fraction := (digits.dropWhile (· != '.')).drop 1
  let all := whole ++ fraction
  let leading := (all.takeWhile (· == '0')).length
  let significant := dropTrailingZeros (all.dropWhile (· == '0'))
  let power : Int := whole.length - 1 - leading
  let rest := significant.drop 1
  sign negative ++ significant.take 1 ++ '.' :: (if rest.isEmpty then ['0'] else rest) ++
    'E' :: (toString power).toList

/-- Positional with a point for zero and from `10⁻³` up to below `10⁷`, scientific otherwise. -/
def concatList (f : Format) (d : Datum) (size : Float) : List Char :=
  match d with
  | .notANumber => "NaN".toList
  | .infinite negative => sign negative ++ "Infinity".toList
  | .finite _ m _ =>
    if m = 0 ∨ (1e-3 : Float) ≤ size ∧ size < 1e7 then withPoint (plainList f d)
    else scientificList (plainList f d)

def plain (x : Float) : String := String.ofList (plainList .double (Floating.ofDouble x))

def diagnosticDouble (x : Float) : String :=
  String.ofList (diagnosticList .double (Floating.ofDouble x))

def diagnosticSingle (x : Float32) : String :=
  String.ofList (diagnosticList .single (Floating.ofSingle x))

def concatDouble (x : Float) : String :=
  String.ofList (concatList .double (Floating.ofDouble x) x.abs)

def concatSingle (x : Float32) : String :=
  String.ofList (concatList .single (Floating.ofSingle x) (Floating.widen x).abs)

def scientific (text : String) : String := String.ofList (scientificList text.toList)

end Probe.Decimal
