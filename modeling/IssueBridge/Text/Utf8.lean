/-! # Reading UTF-8

Bytes that are no UTF-8 are refused at the first byte that cannot start a character or with the first
character that breaks off, with the position and the reason; or the replacement character takes the
place of each such part.
-/

namespace IssueBridge.Text.Utf8

inductive Fault
  | startByte (byte : UInt8) (position : Nat)
  | continuation (byte : UInt8) (position : Nat) (length : Nat)
  | truncated (byte : UInt8) (position : Nat) (length : Nat)
  deriving DecidableEq, Repr

/-- How many bytes follow a first byte, and between which bounds the second one lies. -/
def shape? (b : Nat) : Option (Nat × Nat × Nat) :=
  if b < 0x80 then some (0, 0x80, 0xBF)
  else if 0xC2 ≤ b ∧ b ≤ 0xDF then some (1, 0x80, 0xBF)
  else if b = 0xE0 then some (2, 0xA0, 0xBF)
  else if b = 0xED then some (2, 0x80, 0x9F)
  else if 0xE1 ≤ b ∧ b ≤ 0xEF then some (2, 0x80, 0xBF)
  else if b = 0xF0 then some (3, 0x90, 0xBF)
  else if b = 0xF4 then some (3, 0x80, 0x8F)
  else if 0xF1 ≤ b ∧ b ≤ 0xF3 then some (3, 0x80, 0xBF)
  else none

/-- How many of the first `n` bytes continue a character, the first of them between `lo` and `hi`. -/
def continued (n lo hi : Nat) : List UInt8 → Nat
  | [] => 0
  | b :: rest =>
    if n = 0 then 0
    else if lo ≤ b.toNat ∧ b.toNat ≤ hi then 1 + continued (n - 1) 0x80 0xBF rest
    else 0

/-- The fault of a character that starts with `b` and is followed by `rest`, if it has one. -/
def faultAt (b : UInt8) (rest : List UInt8) (position : Nat) : Option Fault :=
  match shape? b.toNat with
  | none => some (.startByte b position)
  | some (n, lo, hi) =>
    let k := continued n lo hi rest
    if k = n then none
    else if k = rest.length then some (.truncated b position (k + 1))
    else some (.continuation b position (k + 1))

/-- The first fault of the bytes from `position` on; `skip` of them belong to a checked character. -/
def firstFault (position skip : Nat) : List UInt8 → Option Fault
  | [] => none
  | b :: rest =>
    if skip = 0 then
      match faultAt b rest position with
      | some f => some f
      | none => firstFault (position + 1) (((shape? b.toNat).map (·.1)).getD 0) rest
    else firstFault (position + 1) (skip - 1) rest

/-- The text of the bytes, or what is wrong with them. -/
def decode (bytes : ByteArray) : Except Fault String :=
  match String.fromUTF8? bytes with
  | some s => .ok s
  | none => .error ((firstFault 0 0 bytes.toList).getD (.startByte 0 0))

/-- The character of a first byte, which `n` bytes follow. -/
def character (b : UInt8) (n : Nat) (rest : List UInt8) : Char :=
  let lead := b.toNat % Nat.pow 2 (if n = 0 then 7 else 6 - n)
  Char.ofNat ((rest.take n).foldl (fun code c => code * 64 + c.toNat % 64) lead)

/-- The text of the bytes, with the replacement character for each byte that starts no character and for
each character that breaks off. -/
def replaced : List UInt8 → List Char
  | [] => []
  | b :: rest =>
    match shape? b.toNat with
    | none => '\ufffd' :: replaced rest
    | some (n, lo, hi) =>
      let k := continued n lo hi rest
      (if k = n then character b n rest else '\ufffd') :: replaced (rest.drop k)
termination_by bytes => bytes.length
decreasing_by all_goals simp [List.length_drop]; try omega

end IssueBridge.Text.Utf8
