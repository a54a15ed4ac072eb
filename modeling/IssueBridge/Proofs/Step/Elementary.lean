import IssueBridge.Proofs.Step.Composed
import IssueBridge.Proofs.Step.Journal

/-! # Elementary steps

Work on the trackers comes down to calls, to looks at the trackers and to changes of the store; a pass also
counts and writes to the journal. So all that is composed of such steps leaves the rest of the world alone and makes
calls of the given kinds only.
-/

namespace IssueBridge

open Tracker

/-- The second world is reached from the first by work on the trackers with calls in `P`. -/
def World.Worked (P : Call → Prop) (v w : World) : Prop :=
  ∃ store log calls, w = { v with store, log, history := calls ++ v.history } ∧ ∀ c ∈ calls, P c

/-- The second world is reached from the first by work on the trackers and in the books of a pass. Besides the calls
in `P` there may be calls to the database. -/
def World.Passed (P : Call → Prop) (v w : World) : Prop :=
  ∃ store log calls tally journal attempts,
    w = { v with
      store, log, tally
      history := calls ++ v.history
      tables := { v.tables with journal, attempts } } ∧
    ∀ c ∈ calls, c.isInternal = true ∨ P c

namespace World

variable {P : Call → Prop} {u v w : World}

theorem Worked.trans (h : u.Worked P v) (h' : v.Worked P w) : u.Worked P w := by
  obtain ⟨store, log, calls, rfl, hcalls⟩ := h
  obtain ⟨store', log', calls', rfl, hcalls'⟩ := h'
  refine ⟨store', log', calls' ++ calls, ?_, fun c hc => ?_⟩
  · rw [List.append_assoc]
  · exact (List.mem_append.mp hc).elim (hcalls' c) (hcalls c)

theorem Worked.passed (h : v.Worked P w) : v.Passed P w := by
  obtain ⟨store, log, calls, rfl, hcalls⟩ := h
  exact ⟨store, log, calls, v.tally, v.tables.journal, v.tables.attempts, rfl, fun c hc => .inr (hcalls c hc)⟩

theorem Passed.trans (h : u.Passed P v) (h' : v.Passed P w) : u.Passed P w := by
  obtain ⟨store, log, calls, tally, journal, attempts, rfl, hcalls⟩ := h
  obtain ⟨store', log', calls', tally', journal', attempts', rfl, hcalls'⟩ := h'
  refine ⟨store', log', calls' ++ calls, tally', journal', attempts', ?_, fun c hc => ?_⟩
  · rw [List.append_assoc]
  · exact (List.mem_append.mp hc).elim (hcalls' c) (hcalls c)

end World

namespace Step

/-- What work on the trackers comes down to, where the calls are in `P`. -/
inductive Elementary (P : Call → Prop) : ∀ α : Type, Step α → Prop
  | place {c : Call} (h : P c) : Elementary P _ (place c)
  | look {α : Type} (f : Store → Source → α) : Elementary P α ((fun w => f w.store w.source) <$> get)
  | modifyStore (f : Store → Store) : Elementary P _ (modifyStore f)
  | onStore {α : Type} (f : Store → α × Store) : Elementary P α (onStore f)

/-- What a pass comes down to, where the calls to the trackers are in `P`. -/
inductive Bookkeeping (P : Call → Prop) : ∀ α : Type, Step α → Prop
  | work {α : Type} {x : Step α} (h : Elementary P α x) : Bookkeeping P α x
  | count {α : Type} (f : Tally → α) : Bookkeeping P α ((fun w => f w.tally) <$> get)
  | modifyTally (f : Tally → Tally) : Bookkeeping P _ (modifyTally f)
  | journal (e : JournalEntry) : Bookkeeping P _ (journal e)

abbrev Works (P : Call → Prop) {α : Type} (x : Step α) : Prop := Composed (Elementary P) x

abbrev Keeping (P : Call → Prop) {α : Type} (x : Step α) : Prop := Composed (Bookkeeping P) x

variable {α β : Type} {P Q : Call → Prop} {x : Step α}

/-- What relates the worlds around the parts of a step relates those around the step. -/
theorem Composed.rel {B : ∀ α : Type, Step α → Prop} {R : World → World → Prop} (h : Composed B x)
    (hlog : ∀ w log, R w { w with log }) (htrans : ∀ {u v w}, R u v → R v w → R u w)
    (hbase : ∀ α x, B α x → ∀ w, R w (after x w)) : ∀ w, R w (after x w) := by
  induction h with
  | base h => exact hbase _ _ h
  | pure a => exact fun w => hlog w w.log
  | throw e => exact fun w => hlog w w.log
  | @ofLogged _ x _ =>
    intro w
    unfold after Step.ofLogged
    cases x w.log <;> exact hlog _ _
  | say level text => exact fun w => hlog w _
  | observe _ ih =>
    intro w
    rw [after_observe]
    exact ih w
  | @bind _ _ x f _ _ ihx ihf =>
    intro w
    cases ho : outcome x w with
    | ok a =>
      rw [after_bind_ok ho]
      exact htrans (ihx w) (ihf a ⟨w, ho⟩ _)
    | error e =>
      rw [after_bind_error ho]
      exact ihx w

theorem Composed.flatten {B C : ∀ α : Type, Step α → Prop} (h : Composed B x)
    (hB : ∀ α x, B α x → Composed C x) : Composed C x := by
  induction h with
  | base h => exact hB _ _ h
  | pure a => exact .pure a
  | throw e => exact .throw e
  | ofLogged h => exact .ofLogged h
  | say level text => exact .say level text
  | observe _ ih => exact .observe ih
  | bind _ _ ihx ihf => exact .bind ihx ihf

theorem Composed.loggingFrom {B : ∀ α : Type, Step α → Prop} {start : Step String} (h : Composed B x)
    (hs : Composed B start) (kind : Failure → Bool) : Composed B (loggingFrom kind start x) :=
  .seq (.observe h) fun o => by
    cases o with
    | ok a => exact .pure a
    | error e =>
      dsimp only
      split
      · exact .seq hs fun _ => .seq (.say _ _) fun _ => .throw e
      · exact .throw e

section Working

theorem Elementary.mono (h : Elementary P α x) (hPQ : ∀ c, P c → Q c) : Elementary Q α x := by
  cases h with
  | place h => exact .place (hPQ _ h)
  | look f => exact .look f
  | modifyStore f => exact .modifyStore f
  | onStore f => exact .onStore f

theorem Elementary.worked (h : Elementary P α x) (w : World) : w.Worked P (after x w) := by
  cases h with
  | @place c h => exact ⟨w.store, w.log, [c], after_place w c, fun d hd => List.mem_singleton.mp hd ▸ h⟩
  | look f => exact ⟨w.store, w.log, [], rfl, nofun⟩
  | modifyStore f => exact ⟨f w.store, w.log, [], rfl, nofun⟩
  | onStore f => exact ⟨(f w.store).2, w.log, [], rfl, nofun⟩

namespace Works

theorem place {c : Call} (h : P c) : Works P (Step.place c) := .base (.place h)

theorem look (f : Store → Source → α) (g : α → Step β) (h : ∀ a, Works P (g a)) :
    Works P (get >>= fun w => g (f w.store w.source)) :=
  show Works P (((fun w => f w.store w.source) <$> get) >>= g) from .seq (.base (.look f)) h

theorem modifyStore (f : Store → Store) : Works P (Step.modifyStore f) := .base (.modifyStore f)

theorem onStore (f : Store → α × Store) : Works P (Step.onStore f) := .base (.onStore f)

theorem worked (h : Works P x) (w : World) : w.Worked P (after x w) :=
  h.rel (fun w log => ⟨w.store, log, [], rfl, nofun⟩) .trans (fun _ _ => Elementary.worked) w

theorem mono (h : Works P x) (hPQ : ∀ c, P c → Q c) : Works Q x := Composed.mono h fun _ _ hx => hx.mono hPQ

theorem keeping (h : Works P x) : Keeping P x := Composed.mono h fun _ _ => .work

end Works

end Working

section Booking

theorem journal_passed (e : JournalEntry) (w : World) : w.Passed P (after (journal e) w) := by
  by_cases hopen : ∃ f, w.faults w.history .openSession = .failed f
  · obtain ⟨f, hf⟩ := hopen
    refine ⟨w.store, w.log, [.openSession], w.tally, w.tables.journal, w.tables.attempts, (journal_of_closed hf).2,
      fun c hc => .inl ?_⟩
    rw [List.mem_singleton.mp hc]
    rfl
  · obtain ⟨-, log, journal, attempts, hafter⟩ := journal_of_opened (e := e) (not_exists.mp hopen)
    refine ⟨w.store, log, [.commit, .openSession], w.tally, journal, attempts, hafter, fun c hc => .inl ?_⟩
    simp only [List.mem_cons, List.not_mem_nil, or_false] at hc
    obtain rfl | rfl := hc <;> rfl

theorem Bookkeeping.mono (h : Bookkeeping P α x) (hPQ : ∀ c, P c → Q c) : Bookkeeping Q α x := by
  cases h with
  | work h => exact .work (h.mono hPQ)
  | count f => exact .count f
  | modifyTally f => exact .modifyTally f
  | journal e => exact .journal e

theorem Bookkeeping.passed (h : Bookkeeping P α x) (w : World) : w.Passed P (after x w) := by
  cases h with
  | work h => exact (h.worked w).passed
  | count f => exact ⟨w.store, w.log, [], w.tally, w.tables.journal, w.tables.attempts, rfl, nofun⟩
  | modifyTally f => exact ⟨w.store, w.log, [], f w.tally, w.tables.journal, w.tables.attempts, rfl, nofun⟩
  | journal e => exact journal_passed e w

namespace Keeping

theorem mono (h : Keeping P x) (hPQ : ∀ c, P c → Q c) : Keeping Q x := Composed.mono h fun _ _ hx => hx.mono hPQ

theorem count (f : Tally → α) (g : α → Step β) (h : ∀ a, Keeping P (g a)) :
    Keeping P (get >>= fun w => g (f w.tally)) :=
  show Keeping P (((fun w => f w.tally) <$> get) >>= g) from .seq (.base (.count f)) h

theorem modifyTally (f : Tally → Tally) : Keeping P (Step.modifyTally f) := .base (.modifyTally f)

theorem journal (e : JournalEntry) : Keeping P (Step.journal e) := .base (.journal e)

theorem passed (h : Keeping P x) (w : World) : w.Passed P (after x w) :=
  h.rel (fun w log => ⟨w.store, log, [], w.tally, w.tables.journal, w.tables.attempts, rfl, nofun⟩) .trans
    (fun _ _ => Bookkeeping.passed) w

end Keeping

end Booking

end Step

end IssueBridge
