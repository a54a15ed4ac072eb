import IssueBridge.Digest.Hmac
import IssueBridge.Text.Hex

/-! # Signatures of deliveries

A delivery is signed with a shared secret: `sha256=` and the keyed digest of its body in hexadecimal.
-/

namespace IssueBridge.Digest

def scheme : String := "sha256"

def sign (secret : String) (body : ByteArray) : String :=
  scheme ++ "=" ++
    String.ofList (Text.Hex.encode (hmac secret.toUTF8.toList body.toList))

/-- The digest that a signature carries; the scheme is read in any letter case. -/
def readSignature (header : String) : Option (List UInt8) :=
  let cs := header.toList
  let name := cs.takeWhile (· ≠ '=')
  match cs.drop name.length with
  | '=' :: digest =>
    if name.map Char.toLower = scheme.toList ∧ digest ≠ [] then Text.Hex.decode digest else none
  | _ => none

end IssueBridge.Digest
