import IssueBridge.Number.Shortest

/-! # How numbers are written

A floating point number is written with the shortest digits that read back: positionally, with at
least one place, while the exponent of its leading digit is from -4 to 15, else with a signed exponent
of at least two digits.
-/

namespace IssueBridge.Number

def digitsOf (n : Nat) : List Char := (Nat.repr n).toList

/-- The digits of `n`, filled up with zeros on the left to at least `width`. -/
def padded (width n : Nat) : String :=
  let ds := digitsOf n
  String.ofList (List.replicate (width - ds.length) '0' ++ ds)

/-- A run of digits without its zeros at the end, and their number. -/
def stripZeros (ds : List Char) : List Char × Nat :=
  let kept := (ds.reverse.dropWhile (· = '0')).reverse
  (kept, ds.length - kept.length)

/-- Digits and the exponent of the first of them, laid out positionally. -/
def positional (ds : List Char) (lead : Int) : List Char :=
  if lead < 0 then
    '0' :: '.' :: List.replicate (lead.natAbs - 1) '0' ++ ds
  else
    let whole := lead.toNat + 1
    let tail := ds.drop whole
    ds.take whole ++ List.replicate (whole - ds.length) '0' ++ '.' ::
      (if tail.isEmpty then ['0'] else tail)

def scientific (ds : List Char) (lead : Int) : List Char :=
  let tail := ds.drop 1
  ds.take 1 ++ (if tail.isEmpty then [] else '.' :: tail) ++ 'e' ::
    (if lead < 0 then '-' else '+') :: (padded 2 lead.natAbs).toList

/-- The layout of a positive decimal. -/
def Decimal.layout (d : Decimal) : List Char :=
  let (ds, zeros) := stripZeros (digitsOf d.digits)
  let lead := d.exp + zeros + ds.length - 1
  if -4 ≤ lead ∧ lead < 16 then positional ds lead else scientific ds lead

def ofFloat (x : Float) : String :=
  let sign := if isNegative x then "-" else ""
  if x.isNaN then "nan"
  else if x.isInf then sign ++ "inf"
  else
    let b := Binary.ofBits x.toBits
    if b.m = 0 then sign ++ "0.0" else sign ++ String.ofList b.shortest.layout

end IssueBridge.Number
