import IssueBridge.Bridge.Journal
import IssueBridge.Proofs.Step.Outcome

/-! # Writing to the journal

What writing a row can come to, whatever the database does: the opening of a session fails and nothing is written,
the commit fails or the row cannot be held and the failure is logged, or the row stands at the end of the journal.
-/

namespace IssueBridge

open Step

theorem Tables.entry_of_newRow {t : Tables} {clock : Time.Timestamp} {e : JournalEntry} {row : JournalRow}
    (h : t.newRow clock e = .ok row) : row.entry = e := by
  unfold newRow at h
  split at h
  · cases h
  · split at h
    · exact Except.ok.inj h ▸ rfl
    · cases h

namespace Step

variable {c : Call} {f : Failure} {w : World}

theorem outcome_place_failed (h : w.faults w.history c = .failed f) : outcome (place c) w = .error f := by
  rw [outcome_place, h]

theorem outcome_place_answered (h : ∀ f, w.faults w.history c ≠ .failed f) :
    ∃ served, outcome (place c) w = .ok served := by
  rw [outcome_place]
  cases hc : w.faults w.history c with
  | served => exact ⟨true, rfl⟩
  | empty => exact ⟨false, rfl⟩
  | failed f => exact absurd hc (h f)

theorem place_cases (c : Call) (w : World) :
    (∃ f, w.faults w.history c = .failed f ∧ outcome (place c) w = .error f) ∨
      (∀ f, w.faults w.history c ≠ .failed f) ∧ ∃ served, outcome (place c) w = .ok served := by
  by_cases h : ∃ f, w.faults w.history c = .failed f
  · obtain ⟨f, hf⟩ := h
    exact .inl ⟨f, hf, outcome_place_failed hf⟩
  · have hanswered : ∀ f, w.faults w.history c ≠ .failed f := fun f hf => h ⟨f, hf⟩
    exact .inr ⟨hanswered, outcome_place_answered hanswered⟩

theorem after_contain_error {x : Step Unit} (h : outcome x w = .error f) (level : Level) (start : String) :
    after (contain level start x) w =
      { after x w with log := ⟨level, start ++ f.message⟩ :: (after x w).log } := by
  unfold contain
  rw [after_bind_ok (outcome_observe ..), after_observe, h]
  rfl

theorem after_contain_ok {x : Step Unit} (h : outcome x w = .ok ()) (level : Level) (start : String) :
    after (contain level start x) w = after x w := by
  unfold contain
  rw [after_bind_ok (outcome_observe ..), after_observe, h]
  rfl

end Step

/-- What writing a row comes to, and the world that it leaves. -/
inductive Journalled (e : JournalEntry) (w : World) : Except Failure Unit → World → Prop
  | closed {f : Failure} (hopen : w.faults w.history .openSession = .failed f) :
    Journalled e w (.error f) { w with history := .openSession :: w.history }
  | uncommitted {f : Failure} (hopen : ∀ f, w.faults w.history .openSession ≠ .failed f)
    (hcommit : w.faults (.openSession :: w.history) .commit = .failed f) :
    Journalled e w (.ok ()) { w with
      log := ⟨.error, "Failed to write sync log: " ++ f.message⟩ :: w.log
      history := .commit :: .openSession :: w.history }
  | refused {f : Failure} (hopen : ∀ f, w.faults w.history .openSession ≠ .failed f)
    (hcommit : ∀ f, w.faults (.openSession :: w.history) .commit ≠ .failed f)
    (hrow : w.tables.tried.newRow w.clock e = .error f) :
    Journalled e w (.ok ()) { w with
      log := ⟨.error, "Failed to write sync log: " ++ f.message⟩ :: w.log
      history := .commit :: .openSession :: w.history
      tables := w.tables.tried }
  | written {row : JournalRow} (hopen : ∀ f, w.faults w.history .openSession ≠ .failed f)
    (hcommit : ∀ f, w.faults (.openSession :: w.history) .commit ≠ .failed f)
    (hrow : w.tables.tried.newRow w.clock e = .ok row) :
    Journalled e w (.ok ()) { w with
      history := .commit :: .openSession :: w.history
      tables := w.tables.tried.append row }

namespace Step

def fillRow (e : JournalEntry) : Step Unit := do
  modify fun w => { w with tables := w.tables.tried }
  let w ← get
  let row ← Step.ofExcept (w.tables.newRow w.clock e)
  modify fun w => { w with tables := w.tables.append row }

theorem insertRow_eq (e : JournalEntry) : insertRow e = place .commit >>= fun _ => fillRow e := rfl

theorem outcome_fillRow (e : JournalEntry) (w : World) :
    outcome (fillRow e) w = (w.tables.tried.newRow w.clock e).map fun _ => () := by
  unfold fillRow
  rw [outcome_bind_ok (outcome_modify ..), after_modify, outcome_bind_ok (outcome_get _), after_get]
  cases w.tables.tried.newRow w.clock e <;> rfl

theorem after_fillRow (e : JournalEntry) (w : World) : after (fillRow e) w =
    match w.tables.tried.newRow w.clock e with
    | .ok row => { w with tables := w.tables.tried.append row }
    | .error _ => { w with tables := w.tables.tried } := by
  unfold fillRow
  rw [after_bind_ok (outcome_modify ..), after_modify, after_bind_ok (outcome_get _), after_get]
  cases w.tables.tried.newRow w.clock e <;> rfl

end Step

theorem journalled (e : JournalEntry) (w : World) :
    Journalled e w (outcome (journal e) w) (after (journal e) w) := by
  unfold journal
  obtain ⟨f, hopen, hplace⟩ | ⟨hopen, served, hplace⟩ := place_cases .openSession w
  · rw [outcome_bind_error hplace, after_bind_error hplace, after_place]
    exact .closed hopen
  rw [outcome_bind_ok hplace, after_bind_ok hplace, after_place, outcome_contain, insertRow_eq]
  obtain ⟨f, hcommit, hplace⟩ | ⟨hcommit, served, hplace⟩ :=
    place_cases .commit { w with history := .openSession :: w.history }
  · rw [after_contain_error (outcome_bind_error hplace), after_bind_error hplace, after_place]
    exact .uncommitted hopen hcommit
  have hfilled := outcome_fillRow e { w with history := .commit :: .openSession :: w.history }
  have hafter := after_fillRow e { w with history := .commit :: .openSession :: w.history }
  cases hrow : w.tables.tried.newRow w.clock e with
  | error f =>
    rw [hrow] at hfilled hafter
    rw [after_contain_error ((outcome_bind_ok hplace).trans (by rwa [after_place])), after_bind_ok hplace,
      after_place, hafter]
    exact .refused hopen hcommit hrow
  | ok row =>
    rw [hrow] at hfilled hafter
    rw [after_contain_ok ((outcome_bind_ok hplace).trans (by rwa [after_place])), after_bind_ok hplace,
      after_place, hafter]
    exact .written hopen hcommit hrow

section Openings

variable {e : JournalEntry} {f : Failure} {w : World}

/-- Only the opening of a session can fail the writing of a row. -/
theorem journal_eq_error : outcome (journal e) w = .error f ↔ w.faults w.history .openSession = .failed f := by
  have hall := journalled e w
  generalize outcome (journal e) w = o, after (journal e) w = v at hall
  cases hall with
  | closed hopen => simp [hopen]
  | uncommitted hopen => simp [hopen f]
  | refused hopen => simp [hopen f]
  | written hopen => simp [hopen f]

theorem journal_of_closed (h : w.faults w.history .openSession = .failed f) :
    outcome (journal e) w = .error f ∧ after (journal e) w = { w with history := .openSession :: w.history } := by
  have hplace := outcome_place_failed h
  unfold journal
  rw [outcome_bind_error hplace, after_bind_error hplace, after_place]
  exact ⟨rfl, rfl⟩

theorem journal_of_opened (h : ∀ f, w.faults w.history .openSession ≠ .failed f) :
    outcome (journal e) w = .ok () ∧ ∃ log rows attempts, after (journal e) w = { w with
      log
      history := .commit :: .openSession :: w.history
      tables := { w.tables with journal := rows, attempts } } := by
  have hall := journalled e w
  generalize outcome (journal e) w = o, after (journal e) w = v at hall
  cases hall with
  | closed hopen => exact absurd hopen (h _)
  | uncommitted hopen hcommit => exact ⟨rfl, _, w.tables.journal, w.tables.attempts, rfl⟩
  | refused hopen hcommit hrow => exact ⟨rfl, _, w.tables.journal, w.tables.attempts + 1, rfl⟩
  | @written row hopen hcommit hrow =>
    exact ⟨rfl, w.log, w.tables.journal ++ [row], w.tables.attempts + 1, rfl⟩

end Openings

end IssueBridge
