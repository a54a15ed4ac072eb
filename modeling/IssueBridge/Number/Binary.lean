/-! # Binary floating point numbers

A finite number of 64 bits is a sign and `m * 2 ^ q` for naturals `m` below `2 ^ 53`.
-/

namespace IssueBridge.Number

/-- The absolute value of a finite number. -/
structure Binary where
  m : Nat
  q : Int
  /-- The gap to the value below is half the gap to the value above. -/
  narrowBelow : Bool

/-- The absolute value that the bits of a finite number stand for. -/
def Binary.ofBits (b : UInt64) : Binary :=
  let e := ((b >>> 52) &&& 0x7FF).toNat
  let f := (b &&& 0xFFFFFFFFFFFFF).toNat
  if e = 0 then ⟨f, -1074, false⟩ else ⟨0x10000000000000 + f, (e : Int) - 1075, f = 0 && e > 1⟩

def isNegative (x : Float) : Bool := x.toBits >>> 63 == 1

/-- The value as a quotient, rounded towards zero. -/
def Binary.floor (b : Binary) : Nat :=
  if 0 ≤ b.q then b.m <<< b.q.toNat else b.m >>> b.q.natAbs

def Binary.isWhole (b : Binary) : Bool :=
  0 ≤ b.q || b.m % Nat.pow 2 b.q.natAbs == 0

/-- A finite number rounded towards zero. -/
def truncate (x : Float) : Int :=
  let n := (Binary.ofBits x.toBits).floor
  if isNegative x then -(n : Int) else n

def isWhole (x : Float) : Bool :=
  x.isFinite && (Binary.ofBits x.toBits).isWhole

end IssueBridge.Number
