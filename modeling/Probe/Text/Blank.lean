namespace Probe.Text

/-- The code points with the property White_Space. -/
def isBlank (c : Char) : Bool :=
  let n := c.toNat
  (0x09 ≤ n && n ≤ 0x0d) || n == 0x20 || n == 0x85 || n == 0xa0 || n == 0x1680 ||
    (0x2000 ≤ n && n ≤ 0x200a) || n == 0x2028 || n == 0x2029 || n == 0x202f || n == 0x205f ||
    n == 0x3000

def trimList (cs : List Char) : List Char :=
  ((cs.dropWhile isBlank).reverse.dropWhile isBlank).reverse

/-- The text between the first and the last character that is not blank. -/
def trim (s : String) : String := String.ofList (trimList s.toList)

/-- The text with `A … Z` in lower case and all else kept. -/
def lower (s : String) : String := String.ofList (s.toList.map Char.toLower)

end Probe.Text
