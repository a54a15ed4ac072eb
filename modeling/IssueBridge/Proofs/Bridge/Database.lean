import IssueBridge.Proofs.Bridge.Dispatching
import IssueBridge.Proofs.Bridge.Watermark

/-! # When the database fails

A row is journalled and the watermark is moved as a whole or not at all. What fails a write is logged and goes no
further, except that no session could be opened: then the failure reaches whoever wrote, and through a delivery or a
pass whoever asked for them.
-/

namespace IssueBridge

open Step Tracker

/-- A session can be opened now, and the commit that follows succeeds. -/
structure World.Commits (w : World) : Prop where
  session : ∀ f, w.faults w.history .openSession ≠ .failed f
  commit : ∀ f, w.faults (.openSession :: w.history) .commit ≠ .failed f

section Writes

variable {w : World}

/-- A row is journalled as a whole or not at all, and only the opening of a session can fail this. -/
structure Step.JournalsWhole (e : JournalEntry) (w : World) : Prop where
  fails : ∀ f, outcome (journal e) w = .error f ↔ w.faults w.history .openSession = .failed f
  done : ∀ row, w.Commits → w.tables.tried.newRow w.clock e = .ok row →
    row.entry = e ∧ (after (journal e) w).tables.journal = w.tables.journal ++ [row]
  undone : ¬ (w.Commits ∧ ∃ row, w.tables.tried.newRow w.clock e = .ok row) →
    (after (journal e) w).tables.journal = w.tables.journal
  state : (after (journal e) w).tables.state = w.tables.state

theorem Step.journalsWhole (e : JournalEntry) (w : World) : JournalsWhole e w := by
  have htables : (∀ row, w.Commits → w.tables.tried.newRow w.clock e = .ok row →
        row.entry = e ∧ (after (journal e) w).tables.journal = w.tables.journal ++ [row]) ∧
      (¬ (w.Commits ∧ ∃ row, w.tables.tried.newRow w.clock e = .ok row) →
        (after (journal e) w).tables.journal = w.tables.journal) ∧
      (after (journal e) w).tables.state = w.tables.state := by
    have hall := journalled e w
    generalize outcome (journal e) w = o, after (journal e) w = v at hall
    cases hall with
    | closed hopen => exact ⟨fun _ h => absurd hopen (h.session _), fun _ => rfl, rfl⟩
    | uncommitted hopen hcommit => exact ⟨fun _ h => absurd hcommit (h.commit _), fun _ => rfl, rfl⟩
    | refused hopen hcommit hrow => exact ⟨fun _ _ h => (nomatch hrow.symm.trans h), fun _ => rfl, rfl⟩
    | @written row hopen hcommit hrow =>
      refine ⟨fun row' _ h => ?_, fun h => absurd ⟨⟨hopen, hcommit⟩, row, hrow⟩ h, rfl⟩
      obtain rfl : row = row' := Except.ok.inj (hrow.symm.trans h)
      exact ⟨Tables.entry_of_newRow hrow, rfl⟩
  exact ⟨fun _ => journal_eq_error, htables.1, htables.2.1, htables.2.2⟩

/-- The watermark is moved as a whole or not at all, and only the opening of a session can fail this. -/
structure Watermark.WritesWhole (t : Time.Timestamp) (w : World) : Prop where
  fails : ∀ f, outcome (write t) w = .error f ↔ w.faults w.history .openSession = .failed f
  done : ∀ text, w.Commits → format t = .ok text →
    ∃ state, (after (write t) w).tables = { w.tables with state } ∧
      state.filter (·.key ≠ key) = w.tables.state.filter (·.key ≠ key) ∧
      ((w.tables.state.map (·.key)).Nodup → state.filter (·.key = key) = [⟨key, some text⟩])
  undone : ¬ (w.Commits ∧ ∃ text, format t = .ok text) → (after (write t) w).tables = w.tables

theorem Watermark.writesWhole (t : Time.Timestamp) (w : World) : WritesWhole t w := by
  have htables : (∀ text, w.Commits → format t = .ok text →
        (after (write t) w).tables =
          { w.tables with state := Tables.setValue key (some text) w.tables.state }) ∧
      (¬ (w.Commits ∧ ∃ text, format t = .ok text) → (after (write t) w).tables = w.tables) := by
    have hall := written t w
    generalize outcome (write t) w = o, after (write t) w = v at hall
    cases hall with
    | closed hopen => exact ⟨fun _ h => absurd hopen (h.session _), fun _ => rfl⟩
    | unwritable hopen htext => exact ⟨fun _ _ h => (nomatch htext.symm.trans h), fun _ => rfl⟩
    | uncommitted hopen htext hcommit => exact ⟨fun _ h => absurd hcommit (h.commit _), fun _ => rfl⟩
    | @written text hopen htext hcommit =>
      refine ⟨fun text' _ h => ?_, fun h => absurd ⟨⟨hopen, hcommit⟩, text, htext⟩ h⟩
      obtain rfl : text = text' := Except.ok.inj (htext.symm.trans h)
      rfl
  exact ⟨fun _ => write_eq_error, fun text hw h =>
    ⟨_, htables.1 text hw h, Tables.setValue_others .., Tables.setValue_row key (some text)⟩, htables.2⟩

end Writes

namespace Bridge

variable {b : Bridge} {kind delivery : String} {body : ByteArray} {f : Failure} {v w : World}
  {since : Time.Timestamp}

/-- The failure of a handler goes on only where it cannot be journalled because no session can be opened. -/
theorem attempt_eq_error {e : Event} {context : String} {x : Step Unit} :
    outcome (b.attempt e context x) w = .error f ↔ (∃ g, outcome x w = .error g) ∧ b.journaling = true ∧
      (after x w).faults (after x w).history .openSession = .failed f := by
  cases hx : outcome x w with
  | ok u => simp [(attempt_of_ok context hx b e).1]
  | error g =>
    obtain ⟨v, hlogs, ho, -⟩ := attempt_of_error context hx b e
    have hopen : v.faults v.history .openSession =
        (after x w).faults (after x w).history .openSession := by
      obtain ⟨_, rfl⟩ := hlogs
      rfl
    rw [ho, ← hopen, ← journal_eq_error (e := failureRow e g)]
    cases hb : b.journaling with
    | false =>
      have hjournal : b.journal (failureRow e g) = pure () := if_neg (by simp [hb])
      rw [hjournal]
      simp
    | true =>
      have hjournal : b.journal (failureRow e g) = Step.journal (failureRow e g) := if_pos hb
      rw [hjournal, outcome_bind]
      cases outcome (Step.journal (failureRow e g)) v <;> simp

theorem Accepts.not_passedOver {e : Event} {handler : Repo → Step Unit} {repo : Repo}
    (h : b.Accepts e handler repo) : ¬ e.PassedOver b := by
  rintro (hissue | haction | hrepo)
  · exact absurd (h.issue.symm.trans hissue) Bool.false_ne_true
  · exact absurd (h.handler.symm.trans (Event.handler?_eq_none b haction)) (Option.some_ne_none _)
  · exact absurd (h.repository.symm.trans hrepo) (Option.some_ne_none _)

/-- Handling an event fails where its handler failed and no session could be opened for the row. -/
theorem handle_eq_error {e : Event} : outcome (b.handle e delivery) w = .error f ↔
    ∃ handler repo, b.Accepts e handler repo ∧ (∃ g, outcome (handler repo) w = .error g) ∧ b.journaling = true ∧
      w.faults (after (handler repo) w).history .openSession = .failed f := by
  by_cases hover : e.PassedOver b
  · rw [(handle_of_passedOver hover delivery w).1]
    exact ⟨nofun, fun ⟨_, _, haccepts, _⟩ => absurd hover haccepts.not_passedOver⟩
  · obtain ⟨repo, handler, haccepts, -⟩ := exists_accepts hover
    have hfaults : (after (handler repo) w).faults = w.faults := by
      obtain ⟨_, _, _, hafter, -⟩ := (tracks_handler haccepts.handler repo).worked w
      rw [hafter]
    rw [haccepts.handle_eq, attempt_eq_error, hfaults]
    refine ⟨fun h => ⟨handler, repo, haccepts, h⟩, fun ⟨handler', repo', haccepts', h⟩ => ?_⟩
    obtain rfl : handler = handler' := Option.some.inj (haccepts.handler.symm.trans haccepts'.handler)
    obtain rfl : repo = repo' := Option.some.inj (haccepts.repository.symm.trans haccepts'.repository)
    exact h

section Passes

theorem lockstep_pass (h : v.Twins w) (b : Bridge) : outcome b.pass w = outcome b.pass v := by
  obtain ⟨ho, halike⟩ := lockstep_startPass b v w h
  unfold pass
  cases hstart : outcome b.startPass v with
  | error f => rw [outcome_bind_error hstart, outcome_bind_error (ho.trans hstart)]
  | ok since =>
    rw [outcome_bind_ok hstart, outcome_bind_ok (ho.trans hstart)]
    have hrepos : Lockstep World.Alike (b.syncConfigured since) :=
      Keeping.lockstep (Keeping.mono (passStep_syncConfigured b since) fun _ => Call.Within.ne_commit)
    exact (hrepos.seq (fun _ => lockstep_endPass) _ _ halike.toAlike).1

theorem outcome_syncAll_twins (h : v.Twins w) (b : Bridge) : outcome b.syncAll w = outcome b.syncAll v := by
  cases hbusy : v.busy with
  | true => rw [(syncAll_of_busy hbusy b).1, (syncAll_of_busy (h.busy.trans hbusy) b).1]
  | false =>
    rw [(syncAll_of_not_busy hbusy b).1, (syncAll_of_not_busy (h.busy.trans hbusy) b).1]
    have hrunning : World.Twins { v with busy := true } { w with busy := true } := { h with busy := rfl }
    exact lockstep_pass hrunning b

theorem endPass_eq_error : outcome endPass w = .error f ↔ w.faults w.history .openSession = .failed f := by
  rw [← Watermark.write_eq_error (t := w.clock)]
  unfold endPass
  rw [outcome_bind_ok (outcome_get w), after_get, outcome_bind]
  cases outcome (Watermark.write w.clock) w with
  | error g => simp
  | ok u => exact ⟨nofun, nofun⟩

/-- A pass that went through its repositories fails only where no session can be opened for the watermark. -/
theorem syncAll_eq_error (hbusy : w.busy = false)
    (hstart : outcome b.startPass { w with busy := true } = .ok since)
    (hrepos : outcome (b.syncConfigured since) (after b.startPass { w with busy := true }) = .ok ())
    (hv : v = after (b.syncConfigured since) (after b.startPass { w with busy := true })) :
    outcome b.syncAll w = .error f ↔ v.faults v.history .openSession = .failed f := by
  rw [(syncAll_of_not_busy hbusy b).1]
  unfold pass
  rw [outcome_bind_ok hstart, outcome_bind_ok hrepos, ← hv, endPass_eq_error]

end Passes

/-- Where the failures of the database end. A row is journalled and the watermark is moved as a whole or not at all,
and neither fails once a session is open. So the failure of a handler goes on only where no session can be opened for
its row. A pass comes to the same whether commits fail or not; once it has gone through its repositories, it fails
only where no session can be opened for the watermark. -/
theorem database_failures_end (b : Bridge) (w : World) :
    (∀ e, JournalsWhole e w) ∧ (∀ t, Watermark.WritesWhole t w) ∧
    (∀ kind delivery body e f, Event.read? kind body = some (.ok e) →
      (outcome (b.dispatch kind delivery body) w = .error f ↔
        ∃ handler repo, b.Accepts e handler repo ∧ (∃ g, outcome (handler repo) w = .error g) ∧
          b.journaling = true ∧ w.faults (after (handler repo) w).history .openSession = .failed f)) ∧
    (∀ faults : Faults, (∀ history c, c ≠ .commit → faults history c = w.faults history c) →
      outcome b.syncAll { w with faults } = outcome b.syncAll w) ∧
    (w.busy = false → ∀ since v, outcome b.startPass { w with busy := true } = .ok since →
      outcome (b.syncConfigured since) (after b.startPass { w with busy := true }) = .ok () →
      v = after (b.syncConfigured since) (after b.startPass { w with busy := true }) →
      ∀ f, outcome b.syncAll w = .error f ↔ v.faults v.history .openSession = .failed f) := by
  refine ⟨fun e => journalsWhole e w, fun t => Watermark.writesWhole t w, fun kind delivery body e f he => ?_,
    fun faults h => ?_, fun hbusy since v hstart hrepos hv f => syncAll_eq_error hbusy hstart hrepos hv⟩
  · rw [dispatch_eq he, handle_eq_error]
  · have htwins : w.Twins { w with faults } := ⟨⟨rfl, rfl, rfl, rfl, rfl, rfl, h⟩, rfl⟩
    exact outcome_syncAll_twins htwins b

def lostWorld : World := { smallWorld with
  faults := fun history c => match history, c with
    | [], .openSession => .failed (.refused "cannot connect")
    | _, _ => .served }

/-- The failure of a session goes on to whoever moves the watermark. -/
theorem database_failures_end_lost :
    outcome (Watermark.write lostWorld.clock) lostWorld = .error (.refused "cannot connect") := rfl

end Bridge

end IssueBridge
