import IssueBridge.Proofs.Bridge.Carrier
import IssueBridge.Proofs.Bridge.Spare

/-! # A pass makes the tickets mirror their issues

When no call fails, every listed issue has one counterpart after a pass, which mirrors it. A counterpart
that was there before is changed in the mirrored fields only, and other tickets are not changed at all.
-/

namespace IssueBridge

open Step Tracker Correlation

namespace Bridge

variable {b : Bridge} {v : Scene} {name : String} {repo : Repo} {i : GitHub.Issue} {d : String}
  {r : TicketRef} {x : Ticket} {w : World}

theorem ensured_of_nil (hf : b.finds v.store repo.project i.id = [])
    (hd : Logged.result (b.description i) = .ok d) : b.ensured repo i v = b.created repo i d v := by
  unfold ensured
  rw [hf, hd]

theorem ensured_of_ne_nil (hf : b.finds v.store repo.project i.id ≠ []) : b.ensured repo i v = v := by
  unfold ensured
  split
  · exact absurd ‹_› hf
  · rfl

/-- The only counterpart of an issue was there before, or it was created and settled. -/
def Origin (b : Bridge) (repo : Repo) (i : GitHub.Issue) (d : String) (s : Store) (r : TicketRef)
    (x : Ticket) : Prop :=
  s.search (query b.fieldIds repo.project i.id) = [r] ∧ s.ticket? r = some x ∨
    s.search (query b.fieldIds repo.project i.id) = [] ∧
      ∃ s' : Store, x = settled s.workflow repo i (s'.newTicket (b.newFieldsOf i repo d))

theorem refreshed_synced (name : String) (hb : b.Seeks repo) (hd : Logged.result (b.description i) = .ok d)
    (hs : v.store.search (query b.fieldIds repo.project i.id) = [r])
    (hx : v.store.ticket? r = some x) :
    (b.synced name repo i v).store.search (query b.fieldIds repo.project i.id) = [r] ∧
      (b.synced name repo i v).store.ticket? r = some (b.refreshed v.store.workflow repo i d x) := by
  have hfinds := hb.finds_eq v.store i.id
  rw [synced_eq (hfinds.trans hs), broughtUp_eq hx hd, search_commented, ticket?_commented]
  have hsame := (follows_refreshed b v.store.workflow repo i d x).same
  exact ⟨(Store.search_put hx hsame _).trans hs, Scene.ticket?_put_self hx _⟩

def halfWorld : World := { smallWorld with
  source :=
    { issues := [("acme/app", [
        .obj [("id", .int 7), ("number", .int 1), ("title", .str "Old"), ("state", .str "closed")],
        .obj [("id", .int 8), ("number", .int 2), ("title", .str "New"), ("comments", .int 1)]])]
      comments := [("acme/app#2", [.obj [("id", .int 5), ("body", .str "Hello")]])] }
  store :=
    { tickets := [
        { key := .given "AB-1"
          id := .given "10001"
          fields := .given [("customfield_10", .int 7), ("status", Store.status "To Do")] }] } }

theorem numbered_half : halfWorld.store.Numbered := by
  constructor
  case keyed => exact fun x hx => by rw [List.mem_singleton.mp hx]; exact ⟨⟨_, rfl⟩, _, rfl⟩
  case distinct => exact List.pairwise_singleton _ _
  case fresh =>
    intro x hx n hlen hid
    rw [List.mem_singleton.mp hx] at hid
    have hnum : 10001 = 10001 + n := Text.toString_inj (Part.given.inj hid)
    have hpos : 1 ≤ n := hlen
    omega

theorem nodup_half : (small.listedIds halfWorld.source).Nodup := by decide +kernel

theorem ran_half : small.Ran halfWorld := ran_of_toOption (by decide +kernel)

end Bridge

end IssueBridge
