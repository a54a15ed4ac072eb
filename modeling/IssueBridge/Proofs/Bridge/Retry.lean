import IssueBridge.Proofs.Bridge.Creation
import IssueBridge.Proofs.Tracker.Asked

/-! # Creating in at most two attempts

A creation is tried again only where the tracker refused the assignee whom the fields ask for, and then without one.
The last attempt decides what comes of the creation, and no attempt but the last makes a ticket.
-/

namespace IssueBridge

open Step Tracker

namespace Bridge

variable {fs : Fields} {f : Failure} {u : Course}

theorem assigneeIn_eq_some_iff {user : Value} :
    assigneeIn fs = some user ↔ fs.get? "assignee" = some user ∧ user.isEmpty = false := by
  unfold assigneeIn
  rw [Option.filter_eq_some_iff]
  simp

structure Refuses (fs : Fields) (f : Failure) : Prop where
  refusal : f.isTrackers = true
  rejected : f.isRejectedAssignee = true
  assignee : ∃ user, fs.get? "assignee" = some user ∧ user.isEmpty = false

/-- How the attempts to create a ticket of some fields end: the fields of the last one, and the calls before it. -/
inductive LastAttempt (faults : Faults) (history : List Call) (fs : Fields) : Fields → List Call → Prop
  | first (h : ∀ f, faults history (.create fs) = .failed f → ¬ Refuses fs f) :
    LastAttempt faults history fs fs history
  | second {f : Failure} (hf : faults history (.create fs) = .failed f) (h : Refuses fs f) :
    LastAttempt faults history fs (fs.erase "assignee") (.create fs :: history)

theorem proceeds_createAgain (h : Refuses fs f) (u : Course) :
    Proceeds u (createAgain fs f)
      ((u.answer (.create (fs.erase "assignee"))).map fun _ => u.store.tickets.length)
      (u.ask (.create (fs.erase "assignee")) fun s => (s.create (fs.erase "assignee")).2) := by
  obtain ⟨user, huser⟩ := h.assignee
  unfold createAgain
  rw [h.refusal, h.rejected, assigneeIn_eq_some_iff.mpr huser]
  exact (Proceeds.say _ _).bind ((proceeds_create u _).logging _ _)

theorem proceeds_createAgain_of_not (h : ¬ Refuses fs f) (u : Course) :
    Proceeds u (createAgain fs f) (.error f) u := by
  unfold createAgain
  split
  · rename_i user hkind huser
    rw [Bool.and_eq_true] at hkind
    exact absurd ⟨hkind.1, hkind.2, user, assigneeIn_eq_some_iff.mp huser⟩ h
  · split
    · exact (Proceeds.say _ _).bind (.throw f)
    · exact .throw f

/-- The last attempt decides what comes of a creation, and those before it leave the store as it is. -/
theorem proceeds_createTicket (u : Course) (fs : Fields) : ∃ last before,
    LastAttempt u.faults u.history fs last before ∧
      Proceeds u (createTicket fs)
        (({ u with history := before }.answer (.create last)).map fun _ => u.store.tickets.length)
        ({ u with history := before }.ask (.create last) fun s => (s.create last).2) := by
  have hfirst := proceeds_create u fs
  unfold createTicket
  cases hanswer : u.answer (.create fs) with
  | ok _ =>
    refine ⟨fs, u.history, .first fun f hf => ?_, ?_⟩
    · exact absurd hf (Course.answer_eq_ok_iff.mp hanswer f)
    · rw [hanswer] at hfirst ⊢
      exact hfirst.observe.bind (.pure _)
  | error f =>
    have hf := Course.answer_eq_error_iff.mp hanswer
    rw [hanswer, Course.ask_of_error hanswer] at hfirst
    by_cases h : Refuses fs f
    · exact ⟨_, _, .second hf h, hfirst.observe.bind (proceeds_createAgain h _)⟩
    · refine ⟨fs, u.history, .first fun g hg => ?_, ?_⟩
      · rw [hf, Reply.failed.injEq] at hg
        exact hg ▸ h
      · rw [Course.ask_of_error hanswer, hanswer]
        exact hfirst.observe.bind (proceeds_createAgain_of_not h _)

/-- A creation takes one attempt with the fields as they are given, or two where the tracker refuses the assignee whom
they ask for; the second is made without an assignee and with all other fields. The failure of the last attempt is that
of the creation, and then no ticket is made. Otherwise one is made, of the fields of the last attempt, and it is the
result. -/
theorem createTicket_attempts (fs : Fields) (w : World) : ∃ last before,
    LastAttempt w.faults w.history fs last before ∧
      (∀ name, (fs.erase "assignee").get? name = if name = "assignee" then none else fs.get? name) ∧
      (after (createTicket fs) w).history = .create last :: before ∧
      match w.faults before (.create last) with
      | .failed f => outcome (createTicket fs) w = .error f ∧ (after (createTicket fs) w).store = w.store
      | _ => outcome (createTicket fs) w = .ok w.store.tickets.length ∧ (after (createTicket fs) w).store =
          { w.store with tickets := w.store.tickets ++ [w.store.newTicket last] } := by
  obtain ⟨last, before, hlast, hcreates⟩ := proceeds_createTicket w.course fs
  obtain ⟨houtcome, hcourse⟩ := hcreates w rfl
  have hhistory : (after (createTicket fs) w).history = _ := congrArg Course.history hcourse
  have hstore : (after (createTicket fs) w).store = _ := congrArg Course.store hcourse
  rw [Course.history_ask] at hhistory
  refine ⟨last, before, hlast, fun name => ?_, hhistory, ?_⟩
  · split
    · rename_i hname
      rw [hname, Fields.get?_erase_self]
    · exact Fields.get?_erase_of_ne ‹_›
  · split
    · rename_i f hf
      have hanswer : ({ w.course with history := before } : Course).answer (.create last) = .error f :=
        Course.answer_eq_error_iff.mpr hf
      rw [hanswer] at houtcome
      rw [Course.ask_of_error hanswer] at hstore
      exact ⟨houtcome, hstore⟩
    · rename_i hserved
      have hanswer : ({ w.course with history := before } : Course).answer (.create last) = .ok () :=
        Course.answer_eq_ok_iff.mpr hserved
      rw [hanswer] at houtcome
      rw [Course.ask_of_ok hanswer] at hstore
      exact ⟨houtcome, hstore⟩

end Bridge

end IssueBridge
