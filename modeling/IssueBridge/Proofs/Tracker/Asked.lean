import IssueBridge.Proofs.Step.Course
import IssueBridge.Proofs.Tracker.Fresh
import IssueBridge.Proofs.Tracker.Operation
import IssueBridge.Proofs.Tracker.Workflow

/-! # Operations of the tracker as calls

Each operation makes one call. It makes its change and has its result unless the call fails.
-/

namespace IssueBridge

open Step Tracker

namespace Course

variable {α : Type} {u : Course} {r : TicketRef} {x : Ticket} {names : List String} {c : Call}

/-- The ticket is there, and differs from what it was at most in the fields of the given names. -/
def Holds (u : Course) (r : TicketRef) (names : List String) (x : Ticket) : Prop :=
  ∃ y, u.store.ticket? r = some y ∧ x.SameBut names y

def found (u : Course) (text : String) : Except Failure (List TicketRef) :=
  match u.faults u.history (.search text) with
  | .served => .ok (((Correlation.Query.read? text).map u.store.search).getD [])
  | .empty => .ok []
  | .failed f => .error f

theorem Holds.mono {names' : List String} (h : u.Holds r names x) (hs : names ⊆ names') : u.Holds r names' x := by
  obtain ⟨y, hy, hsame⟩ := h
  exact ⟨y, hy, hsame.mono hs⟩

theorem Holds.ask {change : Store → Store} (h : u.Holds r names x)
    (hchange : ∀ y, u.store.ticket? r = some y → ∃ z, change u.store = u.store.put r z ∧ y.SameBut names z) :
    (u.ask c change).Holds r names x := by
  obtain ⟨y, hy, hsame⟩ := h
  obtain ⟨z, hz, hchanged⟩ := hchange y hy
  unfold Holds
  rw [store_ask]
  split
  · rw [hz]
    exact ⟨z, Store.ticket?_put_self hy z, hsame.trans hchanged⟩
  · exact ⟨y, hy, hsame⟩

theorem Holds.ask_update {fs : Fields} (h : u.Holds r names x) (hfs : fs.map (·.1) ⊆ names) :
    (u.ask c (·.update r fs)).Holds r names x :=
  h.ask fun y hy => ⟨_, Store.update_eq_put hy fs, y.sameBut_update hfs⟩

theorem Holds.ask_transition {step : String} (h : u.Holds r names x) (hstatus : "status" ∈ names) :
    (u.ask c (·.transition r step)).Holds r names x :=
  h.ask fun y hy => ⟨_, Store.transition_eq_put hy step,
    (y.sameBut_withStatus _).mono (by simpa using hstatus)⟩

theorem Holds.askAll_update (h : u.Holds r names x) (key : Option String) (o : Option Fields) :
    ∃ names', (u.askAll (.update key) (fun fs s => s.update r fs) o.toList).Holds r names' x := by
  cases o with
  | none => exact ⟨names, h⟩
  | some fs =>
    exact ⟨fs.map (·.1) ++ names, (h.mono (List.subset_append_right ..)).ask_update (List.subset_append_left ..)⟩

theorem Holds.askUntil_transition (h : u.Holds r names x) (hstatus : "status" ∈ names) (key : Option String)
    (steps : List String) :
    (askUntil (.transition key) (fun step s => s.transition r step) u steps).Holds r names x := by
  induction steps generalizing u with
  | nil => exact h
  | cons step steps ih =>
    unfold askUntil
    split
    · exact ih (h.ask_transition hstatus)
    · exact h.ask_transition hstatus

end Course

namespace Tracker

variable {u : Course} {r : TicketRef} {x : Ticket} {thread : ThreadId}

theorem proceeds_ticket (h : u.store.ticket? r = some x) : Proceeds u (ticket r) (.ok x) u := by
  rintro w rfl
  rw [outcome_ticket h, after_ticket]
  exact ⟨rfl, rfl⟩

theorem proceeds_keyText (h : x.key ≠ .missing) : ∃ k, ∀ u, Proceeds u (keyText x) (.ok k) u := by
  unfold keyText
  cases hk : x.key with
  | missing => exact absurd hk h
  | null => exact ⟨_, fun _ _ hw => ⟨rfl, hw⟩⟩
  | given k => exact ⟨_, fun _ _ hw => ⟨rfl, hw⟩⟩

theorem proceeds_update (hx : u.store.ticket? r = some x) (hk : x.key ≠ .missing) (fs : Fields) :
    Proceeds u (update r fs) (u.answer (.update x.key.get? fs))
      (u.ask (.update x.key.get? fs) (·.update r fs)) := by
  obtain ⟨k, hkey⟩ := proceeds_keyText hk
  have hstart : ∀ u, Proceeds u (do return "Failed to update issue " ++ (← keyText x) ++ ": ")
      (.ok ("Failed to update issue " ++ k ++ ": ")) u :=
    fun u => (hkey u).bind (.pure _)
  refine (proceeds_ticket hx).bind (Proceeds.loggingFrom ?_ (hstart _) _)
  exact .tells fun _ => (Proceeds.modifyStore _).bind ((hkey _).map _)

theorem proceeds_transition (hx : u.store.ticket? r = some x) (hk : x.key ≠ .missing) (step : String) :
    Proceeds u (transition r step) (u.answer (.transition x.key.get? step))
      (u.ask (.transition x.key.get? step) (·.transition r step)) := by
  obtain ⟨k, hkey⟩ := proceeds_keyText hk
  refine (proceeds_ticket hx).bind ((hkey _).bind (.logging ?_ _ _))
  exact .tells fun _ => (Proceeds.modifyStore _).bind (.say _ _)

/-- An update of a ticket without a key is made like any other, but then it fails. -/
theorem proceeds_update_of_keyless (hx : u.store.ticket? r = some x) (hk : x.key = .missing) (fs : Fields) :
    ∃ f, Proceeds u (update r fs) (.error f) (u.ask (.update x.key.get? fs) (·.update r fs)) := by
  have hkey : ∀ u, Proceeds u (keyText x) (.error .missingPart) u := by
    unfold keyText
    rw [hk]
    exact fun u => Proceeds.bind_error (.throw _)
  have hbody : ∃ f, Proceeds u (place (.update x.key.get? fs) >>= fun _ => do
      modifyStore (·.update r fs)
      discard (keyText x)) (.error f) (u.ask (.update x.key.get? fs) (·.update r fs)) := by
    cases hanswer : u.answer (.update x.key.get? fs) with
    | ok _ =>
      obtain ⟨served, hplace⟩ := Proceeds.place_of_ok hanswer
      rw [Course.ask_of_ok hanswer]
      exact ⟨_, hplace.bind ((Proceeds.modifyStore _).bind ((hkey _).map _))⟩
    | error f =>
      rw [Course.ask_of_error hanswer]
      exact ⟨f, (Proceeds.place_of_error hanswer).bind_error⟩
  obtain ⟨f, hbody⟩ := hbody
  unfold update
  by_cases hkind : f.isTrackers
  · refine ⟨.missingPart, (proceeds_ticket hx).bind (hbody.observe.bind ?_)⟩
    dsimp only
    rw [if_pos hkind]
    exact ((hkey _).bind_error).bind_error
  · refine ⟨f, (proceeds_ticket hx).bind (hbody.observe.bind ?_)⟩
    dsimp only
    rw [if_neg hkind]
    exact .throw f

theorem proceeds_transitions (hx : u.store.ticket? r = some x) (hk : x.key ≠ .missing) (steps : List String) :
    ∃ o, Proceeds u (steps.forM (transition r)) o
      (Course.askUntil (.transition x.key.get?) (fun step s => s.transition r step) u steps) := by
  refine Proceeds.forM_askUntil (P := fun u => u.Holds r ["status"] x)
    (fun u hu step _ => hu.ask_transition List.mem_cons_self) (fun u hu step _ => ?_) ⟨x, hx, .refl _ x⟩
  obtain ⟨y, hy, hsame⟩ := hu
  rw [← hsame.key]
  exact proceeds_transition hy (hsame.key ▸ hk) step

theorem proceeds_search (u : Course) (text : String) :
    Proceeds u (search text) (u.found text) (u.call (.search text)) := by
  unfold search Course.found
  refine .logging ?_ _ _
  cases hc : u.faults u.history (.search text) with
  | served =>
    refine (Proceeds.place_of_served hc).bind ?_
    rw [if_pos rfl]
    cases Correlation.Query.read? text with
    | none => exact .pure _
    | some q =>
      refine Proceeds.get_bind fun w hw => ?_
      rw [show w.store = u.store from congrArg Course.store hw]
      exact .pure _
  | empty => exact (Proceeds.place_of_empty hc).bind (.pure _)
  | failed f => exact (Proceeds.place_of_error (Course.answer_eq_error_iff.mpr hc)).bind_error

theorem proceeds_create (u : Course) (fs : Fields) :
    Proceeds u (create fs) ((u.answer (.create fs)).map fun _ => u.store.tickets.length)
      (u.ask (.create fs) fun s => (s.create fs).2) := by
  refine .asks fun _ => (Proceeds.onStore (·.create fs)).bind ?_
  obtain ⟨k, hkey⟩ := proceeds_keyText (x := u.store.newTicket fs) nofun
  exact (proceeds_ticket (Store.ticket?_create u.store fs)).bind ((hkey _).bind ((Proceeds.say _ _).bind (.pure _)))

theorem proceeds_comments (u : Course) (thread : ThreadId) :
    Proceeds u (comments thread) ((u.answer (.comments thread)).map fun _ => (u.store.comments thread).1)
      (u.ask (.comments thread) fun s => (s.comments thread).2) :=
  .logging (.asks fun _ => .onStore _) _ _

theorem proceeds_addComment (u : Course) (thread : ThreadId) (body : String) :
    Proceeds u (addComment thread body)
      ((u.answer (.addComment thread body)).map fun _ => (u.store.addComment thread body).1)
      (u.ask (.addComment thread body) fun s => (s.addComment thread body).2) := by
  refine .logging ?_ _ _
  refine .asks fun _ => (Proceeds.onStore (·.addComment thread body)).bind ?_
  exact (Proceeds.say _ _).bind (.pure _)

theorem proceeds_updateComment (u : Course) (c : CommentRef) (body : String) :
    Proceeds u (updateComment c body) (u.answer (.updateComment c.id body))
      (u.ask (.updateComment c.id body) (·.updateComment c body)) :=
  .logging (.tells fun _ => .modifyStore _) _ _

theorem proceeds_deleteComment (u : Course) (c : CommentRef) :
    Proceeds u (deleteComment c) (u.answer (.deleteComment c.id))
      (u.ask (.deleteComment c.id) (·.deleteComment c)) :=
  .logging (.tells fun _ => (Proceeds.modifyStore _).bind (.say _ _)) _ _

end Tracker

end IssueBridge
