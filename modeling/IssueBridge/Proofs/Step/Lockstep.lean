import IssueBridge.Proofs.Step.Elementary

/-! # Steps in two worlds

What a step sees of the world decides what it comes to. Two worlds that are related stay related, step by step, where
the step sees nothing that tells them apart. Whether a commit fails is not seen in this way by anything that a pass
does.
-/

namespace IssueBridge

open Step

/-- The worlds are alike but for the log, the tables and the answers to commits. -/
structure World.Alike (v w : World) : Prop where
  store : w.store = v.store
  source : w.source = v.source
  clock : w.clock = v.clock
  history : w.history = v.history
  tally : w.tally = v.tally
  busy : w.busy = v.busy
  faults : ∀ history c, c ≠ .commit → w.faults history c = v.faults history c

/-- The worlds are alike but for the log and the answers to commits. -/
structure World.Twins (v w : World) : Prop extends v.Alike w where
  tables : w.tables = v.tables

namespace Step

variable {α β γ : Type} {R : World → World → Prop} {x : Step α}

/-- Related worlds lead to the same outcome and to related worlds. -/
def Lockstep (R : World → World → Prop) (x : Step α) : Prop :=
  ∀ v w : World, R v w → outcome x w = outcome x v ∧ R (after x v) (after x w)

namespace Lockstep

theorem pure (a : α) : Lockstep R (Pure.pure a : Step α) := fun _ _ h => ⟨rfl, h⟩

theorem throw (e : Failure) : Lockstep R (MonadExcept.throw e : Step α) := fun _ _ h => ⟨rfl, h⟩

theorem ofExcept : ∀ e : Except Failure α, Lockstep R (ofExcept e)
  | .ok a => .pure a
  | .error e => .throw e

theorem get (f : World → α) (hf : ∀ {v w}, R v w → f w = f v) : Lockstep R (f <$> MonadState.get) :=
  fun _ _ h => ⟨congrArg Except.ok (hf h), h⟩

theorem bind {f : α → Step β} (hx : Lockstep R x) (hf : ∀ a, (∃ w, outcome x w = .ok a) → Lockstep R (f a)) :
    Lockstep R (x >>= f) := by
  intro v w h
  obtain ⟨ho, ha⟩ := hx v w h
  cases hv : outcome x v with
  | ok a =>
    rw [outcome_bind_ok hv, after_bind_ok hv, outcome_bind_ok (ho.trans hv), after_bind_ok (ho.trans hv)]
    exact hf a ⟨v, hv⟩ _ _ ha
  | error e =>
    rw [outcome_bind_error hv, after_bind_error hv, outcome_bind_error (ho.trans hv),
      after_bind_error (ho.trans hv)]
    exact ⟨rfl, ha⟩

theorem seq {f : α → Step β} (hx : Lockstep R x) (hf : ∀ a, Lockstep R (f a)) : Lockstep R (x >>= f) :=
  hx.bind fun a _ => hf a

theorem look (f : World → α) (g : α → Step β) (hf : ∀ {v w}, R v w → f w = f v) (hg : ∀ a, Lockstep R (g a)) :
    Lockstep R (MonadState.get >>= fun w => g (f w)) :=
  show Lockstep R ((f <$> MonadState.get) >>= g) from (get f hf).seq hg

theorem observe (hx : Lockstep R x) : Lockstep R (observe x) := by
  intro v w h
  rw [outcome_observe, outcome_observe, after_observe, after_observe]
  exact ⟨congrArg Except.ok (hx v w h).1, (hx v w h).2⟩

end Lockstep

section Commits

variable {c : Call}

theorem lockstep_place (hc : c ≠ .commit) : Lockstep World.Alike (place c) := by
  intro v w h
  have hreply : w.faults w.history c = v.faults v.history c := by rw [h.history, h.faults _ c hc]
  rw [outcome_place, outcome_place, hreply, after_place, after_place]
  exact ⟨rfl, { h with history := congrArg (c :: ·) h.history }⟩

theorem lockstep_place_twins (hc : c ≠ .commit) : Lockstep World.Twins (place c) := by
  intro v w h
  obtain ⟨ho, ha⟩ := lockstep_place hc v w h.toAlike
  rw [after_place, after_place] at ha ⊢
  exact ⟨ho, { ha with tables := h.tables }⟩

theorem lockstep_say (level : Level) (text : String) : Lockstep World.Alike (say level text) :=
  fun _ _ h => ⟨rfl, { h with }⟩

theorem lockstep_say_twins (level : Level) (text : String) : Lockstep World.Twins (say level text) :=
  fun _ _ h => ⟨rfl, { h with }⟩

/-- Whether a row is journalled is not seen in anything but the log and the journal. -/
theorem lockstep_journal (e : JournalEntry) : Lockstep World.Alike (journal e) := by
  intro v w h
  have hreply : w.faults w.history .openSession = v.faults v.history .openSession := by
    rw [h.history, h.faults _ _ Call.noConfusion]
  by_cases hopen : ∃ f, v.faults v.history .openSession = .failed f
  · obtain ⟨f, hf⟩ := hopen
    obtain ⟨hv, hv'⟩ := journal_of_closed (e := e) hf
    obtain ⟨hw, hw'⟩ := journal_of_closed (e := e) (hreply.trans hf)
    rw [hv, hv', hw, hw']
    exact ⟨rfl, { h with history := congrArg (_ :: ·) h.history }⟩
  · obtain ⟨hv, _, _, _, hv'⟩ := journal_of_opened (e := e) (not_exists.mp hopen)
    obtain ⟨hw, _, _, _, hw'⟩ := journal_of_opened (e := e) (hreply ▸ not_exists.mp hopen)
    rw [hv, hv', hw, hw']
    exact ⟨rfl, { h with history := congrArg (_ :: _ :: ·) h.history }⟩

theorem Bookkeeping.lockstep (h : Bookkeeping (· ≠ .commit) α x) : Lockstep World.Alike x := by
  cases h with
  | work h =>
    cases h with
    | place hc => exact lockstep_place hc
    | look f => exact .get (fun w => f w.store w.source) fun h => congr (congrArg f h.store) h.source
    | modifyStore f => exact fun v w h => ⟨rfl, { h with store := congrArg f h.store }⟩
    | onStore f =>
      refine fun v w h => ⟨congrArg (fun s => Except.ok (f s).1) h.store, ?_⟩
      exact { h with store := congrArg (fun s => (f s).2) h.store }
  | count f => exact .get (fun w => f w.tally) fun h => congrArg f h.tally
  | modifyTally f => exact fun v w h => ⟨rfl, { h with tally := congrArg f h.tally }⟩
  | journal e => exact lockstep_journal e

/-- Whether commits fail is not seen in what a pass comes to. -/
theorem Keeping.lockstep (h : Keeping (· ≠ .commit) x) : Lockstep World.Alike x := by
  induction h with
  | base h => exact h.lockstep
  | pure a => exact .pure a
  | throw e => exact .throw e
  | @ofLogged _ x hblind =>
    intro v w h
    refine ⟨(outcome_ofLogged hblind w).trans (outcome_ofLogged hblind v).symm, ?_⟩
    unfold after Step.ofLogged
    cases x v.log <;> cases x w.log <;> exact { h with }
  | say level text => exact lockstep_say level text
  | observe _ ih => exact ih.observe
  | bind _ _ ihx ihf => exact ihx.bind ihf

end Commits

end Step

end IssueBridge
