import IssueBridge.Text.Blank

/-! # Bytes written in hexadecimal

Two digits a byte. The reader takes digits of either case and skips ASCII blanks between bytes, never
inside one.
-/

namespace IssueBridge.Text.Hex

def digit (n : Nat) : Char := Nat.digitChar (n % 16)

def value? (c : Char) : Option Nat :=
  if '0' ≤ c ∧ c ≤ '9' then some (c.toNat - 0x30)
  else if 'a' ≤ c ∧ c ≤ 'f' then some (c.toNat - 0x57)
  else if 'A' ≤ c ∧ c ≤ 'F' then some (c.toNat - 0x37)
  else none

def encode (bytes : List UInt8) : List Char :=
  bytes.flatMap fun b => [digit (b.toNat / 16), digit b.toNat]

def decode : List Char → Option (List UInt8)
  | [] => some []
  | c :: rest =>
    if isAsciiBlank c then decode rest
    else match rest with
      | [] => none
      | d :: more => do
        let hi ← value? c
        let lo ← value? d
        return UInt8.ofNat (16 * hi + lo) :: (← decode more)

end IssueBridge.Text.Hex
