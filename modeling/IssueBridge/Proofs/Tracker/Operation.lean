import IssueBridge.Proofs.Step.Frame
import IssueBridge.Proofs.Tracker.Ticket
import IssueBridge.Tracker.Client

/-! # Operations of the tracker

Questions to the tracker change nothing. Every other operation makes its one change of the store or,
when its call fails, none.
-/

namespace IssueBridge.Tracker

open Step

variable {F : Frame} {r : TicketRef} {fs : Fields}

theorem silent_ticket (r : TicketRef) : Silent (ticket r) :=
  .bind .get fun w => by
    cases w.store.ticket? r with
    | some t => exact .pure t
    | none => exact .throw _

theorem silent_part {α : Type} : ∀ p : Part α, Silent (part p)
  | .given a => .pure (some a)
  | .null => .pure none
  | .missing => .throw _

theorem silent_keyText (t : Ticket) : Silent (keyText t) :=
  (silent_part t.key).bind fun _ => .pure _

theorem silent_search (query : String) : Silent (search query) :=
  .logging (.bind (.place _) fun served => by
    cases served with
    | false => exact .pure _
    | true =>
      rw [if_pos rfl]
      cases Correlation.Query.read? query with
      | none => exact .pure _
      | some q => exact .bind .get fun _ => .pure _) _ _

section Results

variable {w : World}

theorem part_id_eq_ok {t : Ticket} {thread : ThreadId}
    (h : outcome (part t.id) w = .ok thread) : t.thread? = some thread := by
  unfold Ticket.thread?
  cases hid : t.id with
  | missing =>
    rw [hid] at h
    cases h
  | null =>
    rw [hid] at h
    exact congrArg some (Except.ok.inj h)
  | given i =>
    rw [hid] at h
    exact congrArg some (Except.ok.inj h)

theorem ticket_eq_ok {t : Ticket} (h : outcome (ticket r) w = .ok t) :
    w.store.ticket? r = some t := by
  obtain ⟨v, hv, h⟩ := bind_eq_ok h
  cases hv
  rw [after_get] at h
  cases hr : w.store.ticket? r with
  | none =>
    rw [hr] at h
    cases h
  | some t' =>
    rw [hr] at h
    exact congrArg some (Except.ok.inj h)

theorem outcome_ticket {t : Ticket} (h : w.store.ticket? r = some t) : outcome (ticket r) w = .ok t := by
  refine (outcome_bind_ok (outcome_get w)).trans ?_
  rw [after_get, h]
  rfl

theorem outcome_ticket_of_none (h : w.store.ticket? r = none) :
    outcome (ticket r) w = .error .missingPart := by
  refine (outcome_bind_ok (outcome_get w)).trans ?_
  rw [after_get, h]
  rfl

@[simp]
theorem after_ticket (r : TicketRef) (w : World) : after (ticket r) w = w := by
  refine (after_bind_ok (outcome_get w)).trans ?_
  rw [after_get]
  cases w.store.ticket? r <;> rfl

theorem comments_eq_ok {thread : ThreadId} {l : List CommentRef}
    (h : outcome (comments thread) w = .ok l) : l = (w.store.comments thread).1 := by
  unfold comments at h
  rw [outcome_logging] at h
  obtain ⟨_, -, h⟩ := bind_eq_ok h
  rw [after_place] at h
  exact (Except.ok.inj h).symm

end Results

theorem applies_update (r : TicketRef) (fs : Fields) : Applies (·.update r fs) (update r fs) :=
  .silent_bind (silent_ticket r) fun t =>
    .loggingFrom
      (.silent_bind (.place _) fun _ => (Applies.modifyStore _).bind_silent fun _ =>
        (silent_keyText t).discard)
      ((silent_keyText t).bind fun _ => .pure _) _

theorem applies_transition (r : TicketRef) (step : String) :
    Applies (·.transition r step) (transition r step) :=
  .silent_bind (silent_ticket r) fun t => .silent_bind (silent_keyText t) fun _ =>
    .logging (.silent_bind (.place _) fun _ => (Applies.modifyStore _).bind_silent fun _ => .say _ _) _ _

theorem applies_comments (thread : ThreadId) :
    Applies (fun s => (s.comments thread).2) (comments thread) :=
  .logging (.silent_bind (.place _) fun _ => .onStore _) _ _

theorem applies_addComment (thread : ThreadId) (body : String) :
    Applies (fun s => (s.addComment thread body).2) (addComment thread body) :=
  .logging (.silent_bind (.place _) fun _ => (Applies.onStore _).bind_silent fun c =>
    (Keeps.say _ _).bind fun _ => .pure c) _ _

theorem applies_updateComment (c : CommentRef) (body : String) :
    Applies (·.updateComment c body) (updateComment c body) :=
  .logging (.silent_bind (.place _) fun _ => .modifyStore _) _ _

theorem applies_deleteComment (c : CommentRef) :
    Applies (·.deleteComment c) (deleteComment c) :=
  .logging (.silent_bind (.place _) fun _ => (Applies.modifyStore _).bind_silent fun _ => .say _ _) _ _

theorem comments_of_served {thread : ThreadId} {w : World} (h : w.faults w.history (.comments thread) = .served) :
    outcome (comments thread) w = .ok (w.store.comments thread).1 ∧
      World.Agrees { w with store := (w.store.comments thread).2 } (after (comments thread) w) := by
  have hplace : outcome (place (.comments thread)) w = .ok true := by rw [outcome_place, h]
  have hread : World.Agrees { w with store := (w.store.comments thread).2 }
      (after (place (.comments thread) >>= fun _ => onStore (·.comments thread)) w) := by
    rw [after_bind_ok hplace, after_place, after_onStore]
    exact ⟨rfl, rfl, rfl, rfl⟩
  unfold comments
  rw [outcome_logging, outcome_bind_ok hplace, after_place]
  exact ⟨rfl, hread.trans (Keeps.agrees_logging _ _ _ w)⟩

end IssueBridge.Tracker
