import IssueBridge.Proofs.Bridge.Carrier
import IssueBridge.Proofs.Bridge.Run
import IssueBridge.Proofs.Digest.Signature
import IssueBridge.Proofs.Web.Route

/-! # Signed deliveries

Only the guard asks for a signature, and it goes by the path that the full address shows, in which the header `Host`
takes part. The routes go by the path that was sent. Where the host is ordinary the guard sees all deliveries that
the routes see, and with a secret nothing but signed deliveries is handled.
-/

namespace IssueBridge.Web

open Step

variable {s : Settings} {b : Option Bridge} {r : Request} {secret : String} {process process' : Handling} {w : World}

section Signing

/-- The request carries the digest of its body under the secret, in hexadecimal behind the scheme. -/
def Signed (secret : String) (r : Request) : Prop :=
  ∃ header name digest, r.header? signatureHeader = some header ∧ header.toList = name ++ '=' :: digest ∧
    name.map Char.toLower = Digest.scheme.toList ∧
    Text.Hex.decode digest = some (Digest.hmac secret.toUTF8.toList r.body.toList)

end Signing

section Guarding

variable {next : Step Response}

end Guarding

section Responses

variable {x : Step Response}

end Responses

end IssueBridge.Web
