import IssueBridge.Proofs.Bridge.Reach

/-! # Runs

A run is a sequence of operations. Each starts with the store that the one before it left; the source, the
clock and the answers to calls may have changed in between. What the handlers and the two steps of a pass
preserve is preserved by every run.
-/

namespace IssueBridge

open Step Tracker

namespace Bridge

variable {b : Bridge} {F : Frame}

section Delivering

variable {kind : String} {body : ByteArray}

def Handles (b : Bridge) (F : Frame) (kind : String) (body : ByteArray) : Prop :=
  ∀ e handler repo, Event.read? kind body = some (.ok e) → e.handler? b = some handler →
    b.settings.repos.lookup e.repository = some repo → Keeps F (handler repo)

/-- A handler is the only part of a delivery that changes more than notes. -/
theorem keeps_dispatch (h : b.Handles F kind body) (delivery : String) :
    Keeps F (b.dispatch kind delivery body) := by
  have hattempt : ∀ (e : Event) context handler, Keeps F handler → Keeps F (b.attempt e context handler) := by
    intro e context handler hh w
    exact F.trans (hh w) (F.noted (agrees_attempt b e context handler w))
  unfold dispatch
  split
  · exact (Keeps.say _ _).bind fun _ => .throw _
  · rename_i event hread
    intro w
    refine rel_bind (Keeps.ofExcept event w) fun e he => ?_
    rw [outcome_ofExcept] at he
    subst he
    unfold handle
    dsimp only
    split
    · exact (Keeps.say _ _).bind (fun _ => .pure _) _
    · split
      · exact F.refl _
      · rename_i handler hhandler
        split
        · exact (Keeps.say _ _).bind (fun _ => .pure _) _
        · rename_i repo hrepo
          exact hattempt e _ _ (h e handler repo hread hhandler hrepo) _

theorem keeps_process (h : b.Handles F kind body) (delivery : String) :
    Keeps F (b.process kind delivery body) :=
  (keeps_dispatch h delivery).observe.bind fun o => by
    split
    · exact .pure _
    · exact .say _ _
    · exact .say _ _
    · exact .say _ _

end Delivering

/-- An operation preserves what the handlers and the steps of a pass preserve. -/
theorem keeps_operation (hpass : b.Stepwise F) (h : ∀ kind body, b.Handles F kind body) :
    ∀ op : Operation, Keeps F (op.run b)
  | .deliver kind delivery body => (keeps_dispatch (h kind body) delivery).discard
  | .process kind delivery body => keeps_process (h kind body) delivery
  | .pass => hpass.syncAll.discard
  | .job => hpass.job
  | .presync => hpass.presync.discard

/-- Operations are run one after the other, in worlds with the property `P`. -/
inductive Runs (b : Bridge) (P : World → Prop) : List Operation → Store → Store → Prop
  | nil (s : Store) : Runs b P [] s s
  | cons {op : Operation} {ops : List Operation} {t : Store} (w : World) (hw : P w)
      (h : Runs b P ops (after (op.run b) w).store t) : Runs b P (op :: ops) w.store t

namespace Runs

variable {P Q : World → Prop} {ops : List Operation} {s t : Store}

/-- What relates the stores around every operation relates those around a run. -/
theorem rel {R : Store → Store → Prop} (h : b.Runs P ops s t) (hrefl : ∀ s, R s s)
    (htrans : ∀ {s t u}, R s t → R t u → R s u)
    (hstep : ∀ op ∈ ops, ∀ w, P w → R w.store (after (op.run b) w).store) : R s t := by
  induction h with
  | nil s => exact hrefl s
  | @cons op ops t w hw h ih =>
    exact htrans (hstep op List.mem_cons_self w hw) (ih fun op' h' => hstep op' (List.mem_cons_of_mem _ h'))

end Runs

end Bridge

end IssueBridge
