import IssueBridge.Number.Binary

/-! # Shortest decimals

Of the decimals that read back to a given binary number the shortest is chosen, and of two equally
short ones the nearer; a tie goes to the even digit.
-/

namespace IssueBridge.Number

/-- The number `digits * 10 ^ exp`. -/
structure Decimal where
  digits : Nat
  exp : Int
  deriving DecidableEq, Repr

/-- Compares `a * 10 ^ i` with `n * 2 ^ j`. -/
def compareScaled (a : Nat) (i : Int) (n : Nat) (j : Int) : Ordering :=
  compare (a * Nat.pow 10 i.toNat * Nat.pow 2 (-j).toNat)
    (n * Nat.pow 2 j.toNat * Nat.pow 10 (-i).toNat)

/-- The decimal lies among the reals that round to `x`, a half going to the even neighbour. -/
def Binary.readsBack (x : Binary) (d : Decimal) : Bool :=
  let lo := if x.narrowBelow then 4 * x.m - 1 else 4 * x.m - 2
  let cl := compareScaled d.digits d.exp lo (x.q - 2)
  let ch := compareScaled d.digits d.exp (4 * x.m + 2) (x.q - 2)
  let ends := x.m % 2 = 0
  (cl = .gt || ends && cl = .eq) && (ch = .lt || ends && ch = .eq)

/-- The least `k`, from `start` on and within `steps`, such that `x` is below `10 ^ k`. -/
def Binary.scaleFrom (x : Binary) (start : Int) : Nat → Int
  | 0 => start
  | steps + 1 =>
    if compareScaled 1 start x.m x.q = .gt then start else x.scaleFrom (start + 1) steps

/-- The least `k` such that `x` is below `10 ^ k`. -/
def Binary.scale (x : Binary) : Int :=
  x.scaleFrom (((x.m.log2 : Int) + x.q) * 1233 / 4096 - 1) 5

/-- The multiples of `10 ^ e` next below and next above `x`, or twice `x` itself. -/
def Binary.neighbours (x : Binary) (e : Int) : Nat × Nat :=
  let num := x.m * Nat.pow 2 x.q.toNat * Nat.pow 10 (-e).toNat
  let den := Nat.pow 2 (-x.q).toNat * Nat.pow 10 e.toNat
  (num / den, if num % den = 0 then num / den else num / den + 1)

/-- The nearest multiple of `10 ^ e` that reads back to `x`. -/
def Binary.onGrid? (x : Binary) (e : Int) : Option Decimal :=
  let (a, b) := x.neighbours e
  match x.readsBack ⟨a, e⟩, x.readsBack ⟨b, e⟩ with
  | false, false => none
  | true, false => some ⟨a, e⟩
  | false, true => some ⟨b, e⟩
  | true, true =>
    match compareScaled (a + b) e (2 * x.m) x.q with
    | .gt => some ⟨a, e⟩
    | .lt => some ⟨b, e⟩
    | .eq => some ⟨if a % 2 = 0 then a else b, e⟩

/-- The shortest decimal that reads back, tried from one digit up. -/
def Binary.shortest (x : Binary) : Decimal :=
  if x.m = 0 then ⟨0, 0⟩
  else
    let k := x.scale
    match (List.range 17).findSome? fun n : Nat => x.onGrid? (k - ((n + 1 : Nat) : Int)) with
    | some d => d
    | none => ⟨x.m * Nat.pow 2 x.q.toNat * Nat.pow 5 (-x.q).toNat, if x.q < 0 then x.q else 0⟩

end IssueBridge.Number
