import IssueBridge.Proofs.Bridge.Dispatching
import IssueBridge.Proofs.Web.Delivery

/-! # What the sender learns

The answer at an address of deliveries is settled by the method, the path and the headers, and by whether the request
passes the guard. So nothing of what a body holds, of the settings of the bridge and of what becomes of a delivery
is seen in it. Only a delivery that is acknowledged is handled, once.
-/

namespace IssueBridge.Web

open Step

structure Request.Alike (r r' : Request) : Prop where
  method : r'.method = r.method
  path : r'.target.path = r.target.path
  headers : r'.headers = r.headers

/-- If there is a secret, the request is signed with it or strays, and its address can be read. -/
def Passes (s : Settings) (r : Request) : Prop :=
  ∀ secret, s.webhookSecret = some secret → secret ≠ "" → r.shownPath? ≠ none ∧ (Signed secret r ∨ r.Strays)

def acknowledgement : Response := .text 200 "Event received. Have a nice day."

/-- Whatever handles deliveries, it is run once, on this delivery, and nothing else is done. -/
def HandsOver (s : Settings) (b : Bridge) (r : Request) (kind delivery : String) : Prop :=
  ∀ (process : Handling) w, after (respondWith process s (some b) r) w = after (process b kind delivery r.body) w

def KeepsBack (s : Settings) (b : Bridge) (r : Request) : Prop :=
  ∀ process, respondWith process s (some b) r = respond s (some b) r

variable {s s' : Settings} {b b' : Bridge} {r r' : Request} {kind delivery : String} {process : Handling}

namespace Request.Alike

variable (h : r.Alike r')

include h

theorem header? (name : String) : r'.header? name = r.header? name := by
  unfold Request.header?
  rw [h.headers]

theorem contentKind : contentKind r' = contentKind r := by
  unfold Web.contentKind
  rw [h.header?]

theorem shownPath? : r'.shownPath? = r.shownPath? := by
  unfold Request.shownPath?
  rw [h.header?, h.path]

theorem readDelivery : readDelivery r' = readDelivery r := by
  unfold Web.readDelivery
  rw [h.method, h.header?, h.header?, h.contentKind]

end Request.Alike

section Guard

/-- What a post that the guard stops is answered with. -/
def refusal (r : Request) : Response :=
  if r.shownPath? = none then .crash else .text 401 "Invalid signature"

theorem Request.Alike.refusal (h : r.Alike r') : refusal r' = refusal r := by
  unfold Web.refusal
  rw [h.shownPath?]

end Guard

section Routes

/-- The answer to a request that does not post. -/
def settled (r : Request) : Response :=
  if r.method = "GET" ∧ Route.ofPath? r.target.path = some .root then .text 200 ""
  else if deliveryMethods.contains r.method then .text 405 "405 Method not allowed"
  else .methodNotAllowed

theorem Request.Alike.settled (h : r.Alike r') : settled r' = settled r := by
  unfold Web.settled
  rw [h.method, h.path]

end Routes

/-- What is settled about a request before it is handled: it is answered without being handed over, or it is a
delivery that is acknowledged. -/
inductive Verdict (s : Settings) (r : Request) : Response → Prop
  | refused {response : Response} (hne : response ≠ acknowledgement)
    (h : ∀ b, KeepsBack s b r ∧ ∀ w, outcome (respond s (some b) r) w = .ok response) : Verdict s r response
  | accepted {kind delivery : String} (hm : r.method = "POST") (hpass : Passes s r)
    (hcomplete : r.Complete kind delivery)
    (h : ∀ b, HandsOver s b r kind delivery ∧ ∀ w, outcome (respond s (some b) r) w = .ok acknowledgement) :
    Verdict s r acknowledgement

/-- There is one verdict on a request. -/
theorem Verdict.unique {response response' : Response} (h : Verdict s r response) (h' : Verdict s r response') :
    response' = response := by
  have houtcome : ∀ {response}, Verdict s r response →
      outcome (respond s (some Bridge.small) r) Bridge.smallWorld = .ok response := by
    intro response h
    cases h with
    | refused _ h => exact (h _).2 _
    | accepted _ _ _ h => exact (h _).2 _
  exact Except.ok.inj ((houtcome h').symm.trans (houtcome h))

section Parcels

end Parcels

end IssueBridge.Web
