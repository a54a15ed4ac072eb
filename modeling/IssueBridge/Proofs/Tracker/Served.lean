import IssueBridge.Proofs.Step.Calm
import IssueBridge.Proofs.Tracker.Fresh
import IssueBridge.Proofs.Tracker.Workflow

/-! # Operations of the tracker that are served

When no call fails, each operation makes its change, and the tickets' keys are there to be reported.
-/

namespace IssueBridge

open Step Tracker

namespace Scene

def put (v : Scene) (r : TicketRef) (x : Ticket) : Scene := v.mapStore (·.put r x)

def create (v : Scene) (fs : Fields) : Scene := (v.call (.create fs)).mapStore fun s => (s.create fs).2

def openThread (v : Scene) (thread : ThreadId) : Scene := v.mapStore fun s => (s.comments thread).2

def addComment (v : Scene) (thread : ThreadId) (body : String) : Scene :=
  (v.call (.addComment thread body)).mapStore fun s => (s.addComment thread body).2

def updateComment (v : Scene) (c : CommentRef) (body : String) : Scene :=
  v.mapStore (·.updateComment c body)

def deleteComment (v : Scene) (c : CommentRef) : Scene :=
  (v.call (.deleteComment c.id)).mapStore (·.deleteComment c)

theorem put_put (v : Scene) (r : TicketRef) (x y : Ticket) : (v.put r x).put r y = v.put r y :=
  mapStore_congr (v := v) (f := fun s => (s.put r x).put r y) (Store.put_put v.store r x y)

theorem put_self {v : Scene} {r : TicketRef} {x : Ticket} (h : v.store.ticket? r = some x) :
    v.put r x = v :=
  mapStore_congr (g := id) (Store.put_self h)

theorem ticket?_put_self {v : Scene} {r : TicketRef} {x : Ticket} (h : v.store.ticket? r = some x)
    (y : Ticket) : (v.put r y).store.ticket? r = some y :=
  Store.ticket?_put_self h y

end Scene

namespace Tracker

variable {v : Scene} {r : TicketRef} {x : Ticket} {k : String}

theorem does_ticket (h : v.store.ticket? r = some x) : Does v (ticket r) (.ok x) v := by
  intro w hw
  rw [outcome_ticket (by rw [hw.store]; exact h), after_ticket]
  exact ⟨rfl, hw⟩

theorem does_keyText (h : x.key = .given k) : Does v (keyText x) (.ok k) v := by
  unfold keyText
  rw [h]
  exact fun _ hw => ⟨rfl, hw⟩

theorem does_place {c : Call} (h : c.isMaking = false) : Does v (place c) (.ok true) v := by
  have hplace := Does.place (v := v) c
  rwa [v.call_of_not_making h] at hplace

theorem does_search (query : String) : Does v (search query)
    (.ok (((Correlation.Query.read? query).map v.store.search).getD [])) v := by
  refine Does.logging ?_ _ _
  refine (does_place rfl).bind ?_
  rw [if_pos rfl]
  cases Correlation.Query.read? query with
  | none => exact .pure _
  | some q => exact .get_bind fun w hw => hw.store ▸ .pure _

theorem does_update (hx : v.store.ticket? r = some x) (hk : x.key = .given k) (fs : Fields) :
    Does v (update r fs) (.ok ()) (v.put r (x.update fs)) := by
  have hput : v.put r (x.update fs) = v.mapStore (·.update r fs) :=
    Scene.mapStore_congr (Store.update_eq_put hx fs).symm
  rw [hput]
  refine (does_ticket hx).bind (.loggingFrom ?_ _ _)
  exact (does_place rfl).bind ((Does.modifyStore _).bind (does_keyText hk).discard)

theorem does_transition (hx : v.store.ticket? r = some x) (hk : x.key = .given k) (step : String) :
    Does v (transition r step) (.ok ()) (v.put r (x.withStatus (v.store.workflow.lookup step))) := by
  have hput : v.put r (x.withStatus (v.store.workflow.lookup step)) = v.mapStore (·.transition r step) :=
    Scene.mapStore_congr (Store.transition_eq_put hx step).symm
  rw [hput]
  refine (does_ticket hx).bind ((does_keyText hk).bind (.logging ?_ _ _))
  exact (does_place rfl).bind ((Does.modifyStore _).bind (.say _ _))

theorem does_forM_put {α : Type} {f : α → Step Unit} {next : Ticket → α → Ticket} {l : List α}
    (hnext : ∀ x a, (next x a).key = x.key)
    (hf : ∀ a ∈ l, ∀ x, (v.put r x).store.ticket? r = some x → x.key = .given k →
      Does (v.put r x) (f a) (.ok ()) ((v.put r x).put r (next x a)))
    (hx : v.store.ticket? r = some x) (hk : x.key = .given k) :
    Does v (l.forM f) (.ok ()) (v.put r (l.foldl next x)) := by
  have hrun : ∀ x, x.key = .given k →
      Does (v.put r x) (l.forM f) (.ok ()) (v.put r (l.foldl next x)) := by
    induction l with
    | nil => exact fun _ _ => .pure _
    | cons a l ih =>
      intro y hy
      have hfirst := hf a List.mem_cons_self y (Scene.ticket?_put_self hx y) hy
      rw [Scene.put_put] at hfirst
      exact hfirst.bind (ih (fun c hc => hf c (List.mem_cons_of_mem _ hc)) _ ((hnext y a).trans hy))
  have hself := hrun x hk
  rwa [Scene.put_self hx] at hself

theorem does_transitions (steps : List String) (hx : v.store.ticket? r = some x) (hk : x.key = .given k) :
    Does v (steps.forM (transition r)) (.ok ()) (v.put r (x.moved v.store.workflow steps)) :=
  does_forM_put (fun x _ => x.key_receive _) (fun step _ _ hy hky => does_transition hy hky step) hx hk

theorem does_create (v : Scene) (fs : Fields) :
    Does v (create fs) (.ok v.store.tickets.length) (v.create fs) := by
  refine (Does.place _).bind ((Does.onStore _).bind ?_)
  have hnew : (v.create fs).store.ticket? v.store.tickets.length = some (v.store.newTicket fs) :=
    Store.ticket?_create v.store fs
  exact (does_ticket hnew).bind ((does_keyText rfl).bind ((Does.say _ _).bind (.pure _)))

theorem does_comments (v : Scene) (thread : ThreadId) :
    Does v (comments thread) (.ok (v.store.comments thread).1) (v.openThread thread) :=
  .logging ((does_place rfl).bind (.onStore _)) _ _

theorem does_addComment (v : Scene) (thread : ThreadId) (body : String) :
    Does v (addComment thread body) (.ok (v.store.addComment thread body).1)
      (v.addComment thread body) := by
  refine Does.logging ?_ _ _
  refine (Does.place _).bind ((Does.onStore (·.addComment thread body)).bind ?_)
  exact (Does.say _ _).bind (.pure _)

theorem does_updateComment (v : Scene) (c : CommentRef) (body : String) :
    Does v (updateComment c body) (.ok ()) (v.updateComment c body) :=
  .logging ((does_place rfl).bind (.modifyStore _)) _ _

theorem does_deleteComment (v : Scene) (c : CommentRef) :
    Does v (deleteComment c) (.ok ()) (v.deleteComment c) :=
  .logging ((Does.place _).bind ((Does.modifyStore _).bind (.say _ _))) _ _

end Tracker

end IssueBridge
