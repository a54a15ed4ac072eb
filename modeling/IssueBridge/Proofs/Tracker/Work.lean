import IssueBridge.Proofs.Step.Elementary
import IssueBridge.Tracker.Client

/-! # What the tracker is asked

Every operation of the client asks the tracker for one thing, and looks at the store or changes it. The database is
not used.
-/

namespace IssueBridge

open Step Tracker

def Call.isWork : Call → Bool
  | .create _ => true
  | .update _ _ => true
  | .transition _ _ => true
  | .comments _ => true
  | .addComment _ _ => true
  | .updateComment _ _ => true
  | .deleteComment _ => true
  | _ => false

/-- The tracker is worked on or searched, or is given time. -/
def Call.isTrackers : Call → Bool
  | .search _ => true
  | .sleep _ => true
  | c => c.isWork

theorem Call.isTrackers_of_isWork {c : Call} (h : c.isWork = true) : c.isTrackers = true := by
  cases c <;> first | rfl | cases h

/-- The step works on the tracker, without a search. -/
abbrev Step.Labours {α : Type} (x : Step α) : Prop := Works (·.isWork) x

abbrev Step.Tracks {α : Type} (x : Step α) : Prop := Works (·.isTrackers) x

theorem Step.Labours.tracks {α : Type} {x : Step α} (h : Labours x) : Tracks x :=
  Works.mono h fun _ => Call.isTrackers_of_isWork

namespace Tracker

theorem labours_place {c : Call} (h : c.isWork = true) : Labours (place c) := Works.place h

def foundTicket : Option Ticket → Step Ticket
  | some t => pure t
  | none => throw .missingPart

theorem labours_ticket (r : TicketRef) : Labours (ticket r) :=
  Works.look (fun s _ => s.ticket? r) foundTicket fun o => by
    cases o with
    | none => exact .throw _
    | some t => exact .pure t

theorem labours_part {α : Type} : ∀ p : Part α, Labours (part p)
  | .given a => .pure (some a)
  | .null => .pure none
  | .missing => .throw _

theorem labours_keyText (t : Ticket) : Labours (keyText t) := (labours_part t.key).seq fun _ => .pure _

theorem labours_create (fs : Fields) : Labours (create fs) :=
  .seq (labours_place rfl) fun _ => .seq (Works.onStore _) fun r => (labours_ticket r).seq fun t =>
    (labours_keyText t).seq fun _ => .seq (.say _ _) fun _ => .pure r

theorem labours_update (r : TicketRef) (fs : Fields) : Labours (update r fs) :=
  (labours_ticket r).seq fun t =>
    .loggingFrom (.seq (labours_place rfl) fun _ => .seq (Works.modifyStore _) fun _ => (labours_keyText t).discard)
      ((labours_keyText t).seq fun _ => .pure _) _

theorem labours_transition (r : TicketRef) (step : String) : Labours (transition r step) :=
  (labours_ticket r).seq fun t => (labours_keyText t).seq fun _ =>
    .logging (.seq (labours_place rfl) fun _ => .seq (Works.modifyStore _) fun _ => .say _ _) _ _

theorem labours_comments (thread : ThreadId) : Labours (comments thread) :=
  .logging (.seq (labours_place rfl) fun _ => Works.onStore _) _ _

theorem labours_addComment (thread : ThreadId) (body : String) : Labours (addComment thread body) :=
  .logging (.seq (labours_place rfl) fun _ => .seq (Works.onStore _) fun c => .seq (.say _ _) fun _ => .pure c) _ _

theorem labours_updateComment (c : CommentRef) (body : String) : Labours (updateComment c body) :=
  .logging (.seq (labours_place rfl) fun _ => Works.modifyStore _) _ _

theorem labours_deleteComment (c : CommentRef) : Labours (deleteComment c) :=
  .logging (.seq (labours_place rfl) fun _ => .seq (Works.modifyStore _) fun _ => .say _ _) _ _

theorem tracks_place {c : Call} (h : c.isTrackers = true) : Tracks (place c) := Works.place h

theorem tracks_search (query : String) : Tracks (search query) := by
  refine .logging (.seq (tracks_place rfl) fun served => ?_) _ _
  cases served with
  | false => exact .pure _
  | true =>
    rw [if_pos rfl]
    cases Correlation.Query.read? query with
    | none => exact .pure _
    | some q => exact Works.look (fun s _ => s.search q) pure .pure

end Tracker

end IssueBridge
