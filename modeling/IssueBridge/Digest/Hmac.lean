import IssueBridge.Digest.Sha256

/-! # Keyed digests

A message is digested together with a key, so that only a holder of the key can produce the digest.
-/

namespace IssueBridge.Digest

def blockSize : Nat := 64

/-- The key filled up to a block; a longer key is digested first. -/
def blockKey (key : List UInt8) : List UInt8 :=
  let k := if key.length ≤ blockSize then key else Sha256.digest key
  k ++ List.replicate (blockSize - k.length) 0

def hmac (key message : List UInt8) : List UInt8 :=
  let k := blockKey key
  let inner := Sha256.digest (k.map (· ^^^ 0x36) ++ message)
  Sha256.digest (k.map (· ^^^ 0x5c) ++ inner)

end IssueBridge.Digest
