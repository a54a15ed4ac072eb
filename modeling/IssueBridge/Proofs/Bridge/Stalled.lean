import IssueBridge.Proofs.Bridge.Carrier
import IssueBridge.Proofs.Bridge.Pass
import IssueBridge.Proofs.Bridge.Watermark
import IssueBridge.Proofs.Time.Universal

/-! # Where a window starts, and what stops all passes

A stored time is no start of a window if universal time does not have it or its own clock has no day before it. Then
no pass gets past its start, and since only the end of a pass moves the watermark, none ever will.
-/

namespace IssueBridge

open Step Time

namespace Watermark

variable {t u last : Timestamp} {w : World} {micros : Int} {f : Failure}

structure Earlier (micros : Int) (t u : Timestamp) : Prop where
  offset : u.offset = t.offset
  wall : (u.wall.micros : Int) = t.wall.micros - micros

theorem before_eq_ok_iff : before t micros = .ok u ↔ Earlier micros t u := by
  unfold before Timestamp.shift?
  constructor
  · intro h
    cases hw : t.wall.shift? (-micros) with
    | none =>
      rw [hw] at h
      cases h
    | some v =>
      rw [hw] at h
      obtain rfl := Except.ok.inj h
      exact ⟨rfl, Wall.shift?_eq_some_iff.mp hw⟩
  · rintro ⟨hoffset, hwall⟩
    rw [Wall.shift?_eq_some_iff.mpr hwall, ← hoffset]
    rfl

theorem before_eq_error_iff :
    before t micros = .error f ↔ f = .dateOutOfRange ∧ t.wall.shift? (-micros) = none := by
  unfold before Timestamp.shift?
  cases t.wall.shift? (-micros) with
  | none => simpa using eq_comm
  | some v => simp

theorem format_eq_error_iff : format t = .error f ↔ f = .dateOutOfRange ∧ ¬ t.InCalendar := by
  rw [← Timestamp.universal?_eq_none_iff]
  unfold format
  cases t.universal? with
  | none => simpa using eq_comm
  | some v => simp

/-- A window can start by the time: universal time has it, and its own clock has a day before it. -/
structure Usable (t : Timestamp) : Prop where
  calendar : t.InCalendar
  day : microsPerDay ≤ t.wall.micros

theorem startFrom_of_usable (h : Usable last) (default : Timestamp) :
    ∃ start, startFrom default (some last) = .ok start ∧ Earlier microsPerDay last start := by
  obtain ⟨v, hv, -⟩ := h.calendar.exists_universal
  have hday : overlap ≤ last.wall.micros := Int.ofNat_le.mpr h.day
  obtain ⟨start, hstart, -⟩ := before_eq_ok (by decide) hday
  rw [startFrom_some default (format_of_universal hv)]
  exact ⟨start, hstart, before_eq_ok_iff.mp hstart⟩

theorem startFrom_of_not_usable (h : ¬ Usable last) (default : Timestamp) :
    startFrom default (some last) = .error .dateOutOfRange := by
  unfold startFrom
  by_cases hcalendar : last.InCalendar
  · obtain ⟨v, hv, -⟩ := hcalendar.exists_universal
    have hday : last.wall.shift? (-overlap) = none := by
      rw [Wall.shift?_eq_none_iff]
      intro hrange
      exact h ⟨hcalendar, by unfold overlap at hrange; omega⟩
    dsimp only
    rw [format_of_universal hv]
    exact before_eq_error_iff.mpr ⟨rfl, hday⟩
  · dsimp only
    rw [format_eq_error_iff.mpr ⟨rfl, hcalendar⟩]

theorem since_of_early (h : before w.clock defaultWindow = .error f) (enabled : Bool) :
    outcome (since enabled) w = .error f ∧ after (since enabled) w = w := by
  unfold since
  rw [outcome_bind_ok (outcome_get _), after_bind_ok (outcome_get _), after_get, h]
  exact ⟨rfl, rfl⟩

theorem since_of_disabled {default : Timestamp} (h : before w.clock defaultWindow = .ok default) :
    outcome (since false) w = .ok default := by
  unfold since
  rw [outcome_bind_ok (outcome_get _), after_get, h, outcome_bind_ok (outcome_ofExcept ..), after_ofExcept]
  rfl

/-- By a stored time that is not usable no window starts, whatever the clock shows and whether a session opens or not. -/
theorem since_of_not_usable (hstored : stored? w.tables = some last) (h : ¬ Usable last) :
    (∃ f, outcome (since true) w = .error f) ∧ (after (since true) w).tables = w.tables := by
  cases hdefault : before w.clock defaultWindow with
  | error f =>
    obtain ⟨ho, hafter⟩ := since_of_early hdefault true
    exact ⟨⟨f, ho⟩, by rw [hafter]⟩
  | ok default =>
    by_cases hopen : ∃ f, w.faults w.history .openSession = .failed f
    · obtain ⟨f, hf⟩ := hopen
      obtain ⟨ho, hafter⟩ := since_of_closed hdefault hf
      exact ⟨⟨f, ho⟩, by rw [hafter]⟩
    · obtain ⟨ho, log, hafter⟩ := since_of_opened hdefault (not_exists.mp hopen)
      rw [hstored, startFrom_of_not_usable h] at ho
      exact ⟨⟨_, ho⟩, by rw [hafter]⟩

end Watermark

namespace Bridge

variable {b : Bridge} {w : World} {last : Timestamp} {starts : List World} {rows left : List StateRow}

/-- A pass that cannot set its window leaves the tables as they were. -/
theorem syncAll_of_not_usable (huse : b.settings.useWatermark = true) (hidle : w.busy = false)
    (hstored : Watermark.stored? w.tables = some last) (h : ¬ Watermark.Usable last) :
    (∃ f, outcome b.syncAll w = .error f) ∧ (after b.syncAll w).tables = w.tables := by
  obtain ⟨⟨f, ho⟩, htables⟩ :=
    Watermark.since_of_not_usable (w := { w with busy := true, tally := {} }) hstored h
  have hstart : outcome b.startPass { w with busy := true } = .error f := by
    rw [outcome_startPass, huse]
    exact ho
  have hafter : after b.startPass { w with busy := true } =
      after (Watermark.since true) { w with busy := true, tally := {} } := by
    unfold startPass
    rw [after_bind_ok rfl, huse]
    exact after_bind_error ho
  have hpass : b.pass = b.startPass >>= fun since => b.syncConfigured since >>= fun _ => endPass := rfl
  obtain ⟨hall, hleft⟩ := syncAll_of_not_busy hidle b
  rw [hall, hleft, hpass, outcome_bind_error hstart, after_bind_error hstart, hafter]
  exact ⟨⟨f, rfl⟩, htables⟩

/-- Passes, the latest first, with the worlds in which they start and the table of states that they leave. Each finds
the table as the one before left it, and no other pass is running; all the rest of the world is free. -/
inductive Passes (b : Bridge) (rows : List StateRow) : List World → List StateRow → Prop
  | nil : Passes b rows [] rows
  | cons {starts : List World} {left : List StateRow} {w : World} (h : Passes b rows starts left)
    (hrows : w.tables.state = left) (hidle : w.busy = false) :
    Passes b rows (w :: starts) (after b.syncAll w).tables.state

theorem stored?_of_state {t t' : Tables} (h : t.state = t'.state) : Watermark.stored? t = Watermark.stored? t' := by
  unfold Watermark.stored? Tables.value?
  rw [h]

/-- Once an unusable time is stored, all passes fail and it stays stored. -/
theorem Passes.stalled (h : b.Passes rows starts left) (huse : b.settings.useWatermark = true)
    (hstored : Watermark.stored? { state := rows } = some last) (hlast : ¬ Watermark.Usable last) :
    left = rows ∧ ∀ v ∈ starts, ∃ f, outcome b.syncAll v = .error f := by
  induction h with
  | nil => exact ⟨rfl, nofun⟩
  | @cons starts left w _ hrows hidle ih =>
    obtain ⟨rfl, hfailed⟩ := ih
    have hw : Watermark.stored? w.tables = some last := (stored?_of_state hrows).trans hstored
    obtain ⟨hfails, htables⟩ := syncAll_of_not_usable huse hidle hw hlast
    refine ⟨(congrArg _ htables).trans hrows, fun v hv => ?_⟩
    rcases List.mem_cons.mp hv with rfl | hv
    · exact hfails
    · exact hfailed v hv

/-- The start of a window where sessions open and the clock has the default window behind it. A stored time counts only
if it is in use and can be read; then the window starts a day before it. But if there is no such time in the calendar,
setting the window fails, and from then on every pass does, since none of them ever replaces the stored time. -/
theorem stored_time_sets_window (hcalendar : Watermark.defaultWindow ≤ w.clock.wall.micros)
    (hopen : ∀ f, w.faults w.history .openSession ≠ .failed f) :
    ∃ default, Watermark.Earlier Watermark.defaultWindow w.clock default ∧
      outcome (Watermark.since false) w = .ok default ∧
      (Watermark.stored? w.tables = none → outcome (Watermark.since true) w = .ok default) ∧
      ∀ last, Watermark.stored? w.tables = some last →
        (Watermark.Usable last → ∃ start, outcome (Watermark.since true) w = .ok start ∧
          Watermark.Earlier microsPerDay last start) ∧
        (¬ Watermark.Usable last → outcome (Watermark.since true) w = .error .dateOutOfRange ∧
          ∀ (b : Bridge) (starts : List World) (left : List StateRow), b.settings.useWatermark = true →
            b.Passes w.tables.state starts left →
            left = w.tables.state ∧ ∀ v ∈ starts, ∃ f, outcome b.syncAll v = .error f) := by
  obtain ⟨default, hdefault, -⟩ := Watermark.before_eq_ok (t := w.clock) (by decide) hcalendar
  have hsince := (Watermark.since_of_opened hdefault hopen).1
  refine ⟨default, Watermark.before_eq_ok_iff.mp hdefault, Watermark.since_of_disabled hdefault, ?_, ?_⟩
  · intro hnone
    rw [hsince, hnone]
    rfl
  · intro last hstored
    rw [hsince, hstored]
    refine ⟨fun h => Watermark.startFrom_of_usable h default, fun h => ?_⟩
    refine ⟨Watermark.startFrom_of_not_usable h default, fun b starts left huse hpasses => ?_⟩
    exact hpasses.stalled huse ((stored?_of_state rfl).trans hstored) h

def storing (value : String) : World :=
  { smallWorld with tables := { state := [⟨Watermark.key, some value⟩] } }

/-- The first window that can start on its own clock starts before the calendar of universal time. -/
theorem stored_time_sets_window_first :
    ∃ start : Timestamp, outcome (Watermark.since true) (storing "0001-01-02T00:00:00+05:30") = .ok start ∧
      start.wall.micros = 0 ∧ start.instant < 0 := by
  have hstored : Watermark.stored? (storing "0001-01-02T00:00:00+05:30").tables =
      some ⟨⟨86400000000, by decide⟩, some ⟨19800000000, by decide⟩⟩ := by decide +kernel
  obtain ⟨_, -, -, -, hlast⟩ := stored_time_sets_window (w := storing "0001-01-02T00:00:00+05:30")
    (by decide +kernel) fun _ => nofun
  obtain ⟨start, hstart, hoffset, hwall⟩ := (hlast _ hstored).1 ⟨by decide +kernel, by decide +kernel⟩
  have hzero : start.wall.micros = 0 := by
    dsimp only at hwall
    unfold microsPerDay microsPerSecond at hwall
    omega
  refine ⟨start, hstart, hzero, ?_⟩
  unfold Timestamp.instant Timestamp.offsetMicros
  rw [hzero, hoffset]
  decide

/-- By the first moment of the calendar no window starts. -/
theorem stored_time_sets_window_zero :
    Watermark.defaultWindow ≤ (storing "0001-01-01T00:00:00Z").clock.wall.micros ∧
      outcome (Watermark.since true) (storing "0001-01-01T00:00:00Z") = .error .dateOutOfRange :=
  ⟨by decide +kernel, rfl⟩

end Bridge

end IssueBridge
