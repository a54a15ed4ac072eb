import IssueBridge.Proofs.Bridge.Carrier
import IssueBridge.Proofs.Bridge.Watermark
import IssueBridge.Proofs.Bridge.Work

/-! # The windows of the passes

A pass takes its time: it sets its window when it starts and moves the watermark to the time when it ends. What changed
in the source while a pass was running is listed again by the passes after it, however long it ran up to a day and
whichever of them could commit their watermark.
-/

namespace IssueBridge

open Step Time

/-- Whatever the call lists, it lists what changed since the given time. -/
def Call.ListsSince (since : Timestamp) : Call → Prop
  | .listIssues _ start => start = some since
  | .listComments _ start => start = some since
  | _ => True

/-- The last call so far was a commit, and it did not fail. -/
def World.JustCommitted (w : World) : Prop :=
  ∃ past, w.history = .commit :: past ∧ ∀ f, w.faults past .commit ≠ .failed f

theorem Call.listsSince_of_isInternal {c : Call} (h : c.isInternal = true) (since : Timestamp) :
    c.ListsSince since := by
  cases c <;> trivial

theorem Call.Within.listsSince {since : Timestamp} {c : Call} (h : c.Within since) (hzone : since.withZone = since) :
    c.ListsSince since := by
  cases c <;> first | trivial | exact h.trans (congrArg some hzone)

theorem withZone_of_offset {since : Timestamp} {o : Offset} (h : since.offset = some o) : since.withZone = since := by
  unfold Timestamp.withZone
  rw [h, Option.getD_some, ← h]

theorem offsetMicros_lt (t : Timestamp) : t.offsetMicros.natAbs < microsPerDay := by
  unfold Timestamp.offsetMicros
  split
  · decide
  · exact Offset.lt_day _

namespace Bridge

variable {b : Bridge} {w : World} {finish since : Timestamp} {f : Failure}

section Clock

/-- A pass during which the clock moves on to the given time. In a pass of its own a world keeps its clock. -/
def passUntil (b : Bridge) (finish : Timestamp) : Step Tally := do
  b.syncConfigured (← b.startPass)
  modify fun w => { w with clock := finish }
  endPass

def syncAllUntil (b : Bridge) (finish : Timestamp) : Step Tally := exclusively (b.passUntil finish)

theorem passUntil_clock (b : Bridge) (w : World) :
    outcome (b.passUntil w.clock) w = outcome b.pass w ∧ after (b.passUntil w.clock) w = after b.pass w := by
  have hstart : (after b.startPass w).clock = w.clock := (silent_startPass b w).clock
  unfold passUntil pass
  cases ho : outcome b.startPass w with
  | error f =>
    rw [outcome_bind_error ho, outcome_bind_error ho, after_bind_error ho, after_bind_error ho]
    exact ⟨rfl, rfl⟩
  | ok since =>
    rw [outcome_bind_ok ho, outcome_bind_ok ho, after_bind_ok ho, after_bind_ok ho]
    generalize after b.startPass w = v at hstart
    have hclock : (after (b.syncConfigured since) v).clock = w.clock := by
      obtain ⟨_, _, _, _, _, _, hafter, -⟩ := (passStep_syncConfigured b since).passed v
      rw [hafter]
      exact hstart
    cases hrepos : outcome (b.syncConfigured since) v with
    | error f =>
      rw [outcome_bind_error hrepos, outcome_bind_error hrepos, after_bind_error hrepos, after_bind_error hrepos]
      exact ⟨rfl, rfl⟩
    | ok u =>
      rw [outcome_bind_ok hrepos, outcome_bind_ok hrepos, after_bind_ok hrepos, after_bind_ok hrepos,
        outcome_bind_ok (outcome_modify ..), after_bind_ok (outcome_modify ..), after_modify, ← hclock]
      exact ⟨rfl, rfl⟩

theorem syncAllUntil_clock (b : Bridge) (w : World) :
    outcome (b.syncAllUntil w.clock) w = outcome b.syncAll w ∧
      after (b.syncAllUntil w.clock) w = after b.syncAll w := by
  rw [syncAll_eq_exclusively]
  unfold syncAllUntil
  cases hbusy : w.busy with
  | true =>
    unfold exclusively
    rw [outcome_bind_ok (outcome_get w), outcome_bind_ok (outcome_get w), after_bind_ok (outcome_get w),
      after_bind_ok (outcome_get w), after_get, if_pos hbusy, if_pos hbusy]
    exact ⟨rfl, rfl⟩
  | false =>
    have hpass := passUntil_clock b { w with busy := true }
    obtain ⟨ho, hafter⟩ := exclusively_of_not_busy hbusy (b.passUntil w.clock)
    obtain ⟨ho', hafter'⟩ := exclusively_of_not_busy hbusy b.pass
    rw [ho, hafter, ho', hafter', ← hpass.1, ← hpass.2]
    exact ⟨rfl, rfl⟩

end Clock

section Effect

theorem PassStep.calls {α : Type} {x : Step α} (h : PassStep since x) (w : World) :
    ∃ calls, (after x w).history = calls ++ w.history ∧ (∀ c ∈ calls, c.isInternal = true ∨ c.Within since) ∧
      (after x w).tables.state = w.tables.state := by
  obtain ⟨_, _, calls, _, _, _, hafter, hcalls⟩ := h.passed w
  rw [hafter]
  exact ⟨calls, rfl, hcalls, rfl⟩

/-- Whatever fails a repository does not keep the others from their turn. -/
theorem syncRepositories_isOk (b : Bridge) (since : Timestamp) : ∀ (repos : Table Repo) (w : World),
    ∃ fs, outcome (b.syncRepositories since repos) w = .ok fs
  | [], _ => ⟨[], rfl⟩
  | (name, repo) :: rest, w => by
    obtain ⟨fs, hfs⟩ := syncRepositories_isOk b since rest (after (b.syncRepository since name repo) w)
    unfold syncRepositories
    rw [outcome_bind_ok (outcome_observe ..), after_observe]
    cases outcome (b.syncRepository since name repo) w with
    | ok u => exact ⟨fs, hfs⟩
    | error f =>
      dsimp only
      rw [outcome_bind_ok hfs]
      exact ⟨f :: fs, rfl⟩

/-- A pass that cannot go through its repositories could not hire the workers. -/
theorem syncConfigured_of_error (h : outcome (b.syncConfigured since) w = .error f) :
    ∃ n name, after (b.syncConfigured since) w = { w with history := .pool n name :: w.history } := by
  unfold syncConfigured at h ⊢
  dsimp only at h ⊢
  by_cases hnone : b.settings.repos = []
  · rw [if_neg (by rw [hnone]; decide)] at h
    cases h
  rw [if_pos (by simpa using hnone)] at h ⊢
  obtain ⟨g, -, hplace⟩ | ⟨-, served, hplace⟩ := place_cases (.pool b.settings.repos.length "sync-repo") w
  · rw [after_bind_error hplace, after_place]
    exact ⟨_, _, rfl⟩
  · rw [outcome_bind_ok hplace] at h
    obtain ⟨fs, hfs⟩ := syncRepositories_isOk b since b.settings.repos
      (after (place (.pool b.settings.repos.length "sync-repo")) w)
    rw [outcome_bind_ok hfs, outcome_forM fun f _ _ => rfl] at h
    cases h

theorem endPass_effect (w : World) : ∃ calls, (after endPass w).history = calls ++ w.history ∧
    (∀ c ∈ calls, c.isInternal = true) ∧
    ((∃ value, Watermark.format w.clock = .ok value ∧ (after endPass w).JustCommitted ∧
        (after endPass w).tables.state = Tables.setValue Watermark.key (some value) w.tables.state) ∨
      ¬ (after endPass w).JustCommitted ∧ (after endPass w).tables.state = w.tables.state) := by
  have hend : ∃ log, after endPass w = { after (Watermark.write w.clock) w with log } := by
    unfold endPass
    rw [after_bind_ok (outcome_get w), after_get]
    cases ho : outcome (Watermark.write w.clock) w with
    | error f =>
      rw [after_bind_error ho]
      exact ⟨_, rfl⟩
    | ok u =>
      rw [after_bind_ok ho]
      exact ⟨_, rfl⟩
  obtain ⟨log, hend⟩ := hend
  rw [hend]
  have hall := Watermark.written w.clock w
  generalize outcome (Watermark.write w.clock) w = o, after (Watermark.write w.clock) w = v at hall
  cases hall with
  | closed hopen => exact ⟨[.openSession], rfl, by simp [Call.isInternal], .inr ⟨nofun, rfl⟩⟩
  | unwritable hopen htext => exact ⟨[.openSession], rfl, by simp [Call.isInternal], .inr ⟨nofun, rfl⟩⟩
  | uncommitted hopen htext hcommit =>
    refine ⟨[.commit, .openSession], rfl, by simp [Call.isInternal], .inr ⟨?_, rfl⟩⟩
    rintro ⟨past, hpast, hdone⟩
    obtain rfl : .openSession :: w.history = past := (List.cons.inj hpast).2
    exact hdone _ hcommit
  | written hopen htext hcommit =>
    exact ⟨[.commit, .openSession], rfl, by simp [Call.isInternal], .inl ⟨_, htext, ⟨_, rfl, hcommit⟩, rfl⟩⟩

/-- Starting a pass opens a session. It yields the start of the window, or it fails. -/
theorem startPass_effect (huse : b.settings.useWatermark = true) {default : Timestamp}
    (hdefault : Watermark.before w.clock Watermark.defaultWindow = .ok default) :
    (after b.startPass w).history = .openSession :: w.history ∧ (after b.startPass w).tables = w.tables ∧
      ((∀ f, w.faults w.history .openSession ≠ .failed f) →
        outcome b.startPass w = Watermark.startFrom default (Watermark.stored? w.tables)) ∧
      ∀ f, w.faults w.history .openSession = .failed f → outcome b.startPass w = .error f := by
  have hstart : outcome b.startPass w = outcome (Watermark.since true) { w with tally := {} } ∧
      ∃ log, after b.startPass w = { after (Watermark.since true) { w with tally := {} } with log } := by
    refine ⟨huse ▸ outcome_startPass b w, ?_⟩
    unfold startPass
    rw [after_bind_ok rfl, huse]
    change ∃ log, after (Watermark.since true >>= _) { w with tally := {} } = _
    cases ho : outcome (Watermark.since true) { w with tally := {} } with
    | ok since =>
      rw [after_bind_ok ho]
      exact ⟨_, rfl⟩
    | error f =>
      rw [after_bind_error ho]
      exact ⟨_, rfl⟩
  obtain ⟨ho, log, hafter⟩ := hstart
  rw [ho, hafter]
  by_cases hopen : ∃ f, w.faults w.history .openSession = .failed f
  · obtain ⟨f, hf⟩ := hopen
    obtain ⟨hsince, hafter'⟩ := Watermark.since_of_closed (w := { w with tally := {} }) hdefault hf
    rw [hsince, hafter']
    exact ⟨rfl, rfl, fun h => absurd hf (h f), fun g hg => congrArg _ (Reply.failed.inj (hf.symm.trans hg))⟩
  · obtain ⟨hsince, _, hafter'⟩ :=
      Watermark.since_of_opened (w := { w with tally := {} }) hdefault (not_exists.mp hopen)
    rw [hsince, hafter']
    exact ⟨rfl, rfl, fun _ => rfl, fun f hf => absurd ⟨f, hf⟩ hopen⟩

/-- What a pass does to the table of states, and what it lists. -/
structure PassEffect (finish : Timestamp) (start : Except Failure Timestamp) (v w : World) : Prop where
  calls : ∃ calls, w.history = calls ++ v.history ∧
    ∀ since, start = .ok since → ∀ c ∈ calls, c.isInternal = true ∨ c.Within since
  state : (∃ value, Watermark.format finish = .ok value ∧ w.JustCommitted ∧
      w.tables.state = Tables.setValue Watermark.key (some value) v.tables.state) ∨
    ¬ w.JustCommitted ∧ w.tables.state = v.tables.state

theorem passUntil_effect (huse : b.settings.useWatermark = true) {default : Timestamp}
    (hdefault : Watermark.before w.clock Watermark.defaultWindow = .ok default) (finish : Timestamp) :
    PassEffect finish (Watermark.startFrom default (Watermark.stored? w.tables)) w (after (b.passUntil finish) w) := by
  obtain ⟨hhistory, htables, hopened, hclosed⟩ := startPass_effect huse hdefault
  unfold passUntil
  cases ho : outcome b.startPass w with
  | error f =>
    rw [after_bind_error ho]
    refine ⟨⟨[.openSession], hhistory, by simp [Call.isInternal]⟩, .inr ⟨?_, congrArg _ htables⟩⟩
    rintro ⟨past, hpast, -⟩
    exact nomatch hhistory.symm.trans hpast
  | ok since =>
    have hsince : Watermark.startFrom default (Watermark.stored? w.tables) = .ok since := by
      rw [← ho]
      refine (hopened fun f hf => ?_).symm
      exact nomatch (hclosed f hf).symm.trans ho
    rw [after_bind_ok ho, hsince]
    generalize after b.startPass w = v at hhistory htables
    obtain ⟨calls, hcalled, hcalls, hkept⟩ := PassStep.calls (passStep_syncConfigured b since) v
    cases hrepos : outcome (b.syncConfigured since) v with
    | error f =>
      -- The last call asked for workers, so no earlier commit of the journal is mistaken for the watermark's.
      obtain ⟨n, name, hpool⟩ := syncConfigured_of_error hrepos
      rw [after_bind_error hrepos]
      refine ⟨⟨calls ++ [.openSession], ?_, fun _ heq c hc => ?_⟩, .inr ⟨?_, hkept.trans (congrArg _ htables)⟩⟩
      · rw [hcalled, hhistory, List.append_assoc]
        rfl
      · obtain rfl := Except.ok.inj heq
        rcases List.mem_append.mp hc with hc | hc
        · exact hcalls c hc
        · exact .inl (List.mem_singleton.mp hc ▸ rfl)
      · rw [hpool]
        exact nofun
    | ok u =>
      rw [after_bind_ok hrepos]
      generalize after (b.syncConfigured since) v = v' at hcalled hkept
      obtain ⟨ended, hended, hinternal, hstate⟩ := endPass_effect { v' with clock := finish }
      rw [after_bind_ok (outcome_modify ..), after_modify]
      dsimp only at hended hstate
      rw [hkept, htables] at hstate
      refine ⟨⟨ended ++ (calls ++ [.openSession]), ?_, fun _ heq c hc => ?_⟩, hstate⟩
      · rw [hended, hcalled, hhistory]
        simp
      · obtain rfl := Except.ok.inj heq
        simp only [List.mem_append, List.mem_singleton] at hc
        obtain hc | hc | rfl := hc
        · exact .inl (hinternal c hc)
        · exact hcalls c hc
        · exact .inl rfl

end Effect

structure Turn where
  start : World
  finish : Timestamp

namespace Turn

variable {t : Turn} {rows : List StateRow}

def stop (b : Bridge) (t : Turn) : World := after (b.syncAllUntil t.finish) t.start

def Commits (b : Bridge) (t : Turn) : Prop := (t.stop b).JustCommitted

/-- The pass starts with the given table of states while no other one is running, at a time that has the default window
before it, and it takes a day at most. All the rest of the world is free. -/
structure Regular (rows : List StateRow) (t : Turn) : Prop where
  rows : t.start.tables.state = rows
  idle : t.start.busy = false
  calendar : Watermark.defaultWindow ≤ t.start.clock.wall.micros
  forward : t.start.clock.instant ≤ t.finish.instant
  brief : t.finish.instant ≤ t.start.clock.instant + microsPerDay

theorem Regular.effect (h : t.Regular rows) (huse : b.settings.useWatermark = true) : ∃ default,
    PassEffect t.finish (Watermark.startFrom default (Watermark.stored? t.start.tables)) t.start (t.stop b) ∧
    ((∀ f, t.start.faults t.start.history .openSession ≠ .failed f) →
      outcome b.startPass { t.start with busy := true } =
        Watermark.startFrom default (Watermark.stored? t.start.tables)) := by
  obtain ⟨default, hdefault, -⟩ := Watermark.before_eq_ok (t := t.start.clock) (by decide) h.calendar
  have hpass := passUntil_effect (w := { t.start with busy := true }) huse hdefault t.finish
  have hstart := (startPass_effect (w := { t.start with busy := true }) huse hdefault).2.2.1
  refine ⟨default, ?_, hstart⟩
  unfold stop syncAllUntil
  rw [(exclusively_of_not_busy h.idle _).2]
  exact ⟨hpass.calls, hpass.state⟩

/-- After the pass the table of states holds the time at which it ended, or it is as before. -/
theorem Regular.state (h : t.Regular rows) (huse : b.settings.useWatermark = true) :
    (∃ value, Watermark.format t.finish = .ok value ∧ t.Commits b ∧
      (t.stop b).tables.state = Tables.setValue Watermark.key (some value) rows) ∨
    ¬ t.Commits b ∧ (t.stop b).tables.state = rows := by
  obtain ⟨_, heffect, -⟩ := h.effect huse
  have hstate := heffect.state
  rwa [h.rows] at hstate

end Turn

/-- Passes, the latest first, and the table of states that they leave if it was empty at first. -/
inductive Run (b : Bridge) : List Turn → List StateRow → Prop
  | nil : Run b [] []
  | cons {turns : List Turn} {rows : List StateRow} {t : Turn} (h : Run b turns rows) (ht : t.Regular rows) :
    Run b (t :: turns) (t.stop b).tables.state

/-- The pass is the latest that moved the watermark. -/
inductive Latest (b : Bridge) (t : Turn) : List Turn → Prop
  | head {turns : List Turn} (h : t.Commits b) : Latest b t (t :: turns)
  | tail {turns : List Turn} {t' : Turn} (h' : ¬ t'.Commits b) (h : Latest b t turns) : Latest b t (t' :: turns)

section Runs

variable {t t' : Turn} {turns : List Turn} {rows : List StateRow}

theorem Latest.commits (h : Latest b t turns) : t ∈ turns ∧ t.Commits b := by
  induction h with
  | head h => exact ⟨List.mem_cons_self, h⟩
  | tail _ _ ih => exact ⟨List.mem_cons_of_mem _ ih.1, ih.2⟩

theorem Latest.unique (h : Latest b t turns) (h' : Latest b t' turns) : t = t' := by
  induction h with
  | head h =>
    cases h' with
    | head _ => rfl
    | tail hnot _ => exact absurd h hnot
  | tail hnot _ ih =>
    cases h' with
    | head h => exact absurd h hnot
    | tail _ h' => exact ih h'

theorem Run.regular (h : Run b turns rows) (ht : t ∈ turns) : ∃ rows, t.Regular rows := by
  induction h with
  | nil => cases ht
  | cons _ hregular ih =>
    obtain rfl | ht := List.mem_cons.mp ht
    · exact ⟨_, hregular⟩
    · exact ih ht

/-- The table is empty until a pass moves the watermark, and then holds the end of the latest that did. -/
theorem Run.state (h : Run b turns rows) (huse : b.settings.useWatermark = true) :
    ((∀ t ∈ turns, ¬ t.Commits b) ∧ rows = []) ∨
      ∃ t value, Latest b t turns ∧ Watermark.format t.finish = .ok value ∧ rows = [⟨Watermark.key, some value⟩] := by
  induction h with
  | nil => exact .inl ⟨nofun, rfl⟩
  | @cons turns rows t _ ht ih =>
    -- A committed pass replaces the row of the earlier one or makes the first; any other leaves both as they are.
    obtain ⟨value, hvalue, hcommits, hrows⟩ | ⟨hnot, hrows⟩ := ht.state huse
    · refine .inr ⟨t, value, .head hcommits, hvalue, hrows.trans ?_⟩
      obtain ⟨-, rfl⟩ | ⟨_, _, -, -, rfl⟩ := ih
      · rfl
      · exact if_pos rfl
    · rw [hrows]
      obtain ⟨hnone, hempty⟩ | ⟨t', value, hlatest, hvalue, hrow⟩ := ih
      · exact .inl ⟨fun t' h' => (List.mem_cons.mp h').elim (· ▸ hnot) (hnone t'), hempty⟩
      · exact .inr ⟨t', value, .tail hnot hlatest, hvalue, hrow⟩

/-- The window that a committed pass leaves to the passes after it. -/
theorem Turn.Regular.window (h : t.Regular rows) {value : String} (hvalue : Watermark.format t.finish = .ok value) :
    ∃ since : Timestamp, since.offset = some .zero ∧
      since.instant = t.finish.instant / microsPerSecond * microsPerSecond - microsPerDay ∧
      since.instant ≤ t.start.clock.instant ∧
      ∀ (default : Timestamp) (tables : Tables), tables.state = [⟨Watermark.key, some value⟩] →
        Watermark.startFrom default (Watermark.stored? tables) = .ok since := by
  obtain ⟨u, rfl, hu⟩ := Watermark.format_eq_ok hvalue
  have hfloor : (u.floorSecond.micros : Int) = t.finish.instant / microsPerSecond * microsPerSecond := by
    rw [← hu]
    exact Int.natCast_mul ..
  have hoffset := offsetMicros_lt t.start.clock
  have hcalendar := h.calendar
  have hforward := h.forward
  have hbrief := h.brief
  have hstart : t.start.clock.instant = t.start.clock.wall.micros - t.start.clock.offsetMicros := rfl
  unfold Watermark.defaultWindow at hcalendar
  unfold microsPerSecond at hfloor
  -- The default window is 90 days, and no offset is as long as a day.
  have hday : microsPerDay ≤ u.floorSecond.micros := by
    unfold microsPerDay microsPerSecond at *
    omega
  obtain ⟨since, hzone, hinstant, hsince⟩ := Watermark.startFrom_text hday
  refine ⟨since, hzone, ?_, ?_, hsince⟩
  · rw [hinstant, hfloor]
    rfl
  · rw [hinstant, hfloor]
    omega

end Runs

/-- The windows of the passes leave no gap. However passes follow each other, whatever fails them, the table of states
never holds more than the row of the watermark, and this holds the time at which the latest pass ended that could commit
it. From then on a pass that can open a session starts its window at this time, cut to the second, less a day: no later
than that pass started; and it lists nothing else. -/
theorem windows_overlap (huse : b.settings.useWatermark = true) {turns : List Turn} {rows : List StateRow}
    (hrun : Run b turns rows) :
    rows.length ≤ 1 ∧ ((∀ t ∈ turns, ¬ t.Commits b) → rows = []) ∧
    ∀ t, Latest b t turns →
      (∃ value, Watermark.format t.finish = .ok value ∧ rows = [⟨Watermark.key, some value⟩]) ∧
      ∃ since : Timestamp, since.offset = some .zero ∧
        since.instant = t.finish.instant / microsPerSecond * microsPerSecond - microsPerDay ∧
        since.instant ≤ t.start.clock.instant ∧
        ∀ next : Turn, next.Regular rows →
          ((∀ f, next.start.faults next.start.history .openSession ≠ .failed f) →
            outcome b.startPass { next.start with busy := true } = .ok since) ∧
          ∃ calls, (next.stop b).history = calls ++ next.start.history ∧ ∀ c ∈ calls, c.ListsSince since := by
  obtain ⟨hnone, rfl⟩ | ⟨t, value, hlatest, hvalue, rfl⟩ := hrun.state huse
  · exact ⟨Nat.zero_le 1, fun _ => rfl, fun t h => absurd h.commits.2 (hnone t h.commits.1)⟩
  refine ⟨Nat.le_refl 1, fun h => absurd hlatest.commits.2 (h t hlatest.commits.1), fun t' h' => ?_⟩
  obtain rfl := hlatest.unique h'
  obtain ⟨_, hregular⟩ := hrun.regular hlatest.commits.1
  obtain ⟨since, hzone, hinstant, hbefore, hsince⟩ := hregular.window hvalue
  refine ⟨⟨value, hvalue, rfl⟩, since, hzone, hinstant, hbefore, fun next hnext => ?_⟩
  obtain ⟨default, heffect, hstart⟩ := hnext.effect huse
  have hwindow := hsince default next.start.tables hnext.rows
  refine ⟨fun hopen => (hstart hopen).trans hwindow, ?_⟩
  obtain ⟨calls, hhistory, hcalls⟩ := heffect.calls
  refine ⟨calls, hhistory, fun c hc => ?_⟩
  obtain hinternal | hwithin := hcalls since hwindow c hc
  · exact Call.listsSince_of_isInternal hinternal since
  · exact hwithin.listsSince (withZone_of_offset hzone)

def mindful : Bridge := { small with settings := { small.settings with useWatermark := true } }

def firstTurn : Turn := ⟨smallWorld, ⟨⟨63113907600250000, by decide⟩, none⟩⟩

def firstRow : StateRow := ⟨"last_sync_time", some "2001-01-01T01:00:00Z"⟩

def secondTurn : Turn where
  start := { smallWorld with
    clock := ⟨⟨63113925600000000, by decide⟩, none⟩
    tables := { state := [firstRow] } }
  finish := ⟨⟨63113929200000000, by decide⟩, none⟩

theorem windows_overlap_second : Run mindful [firstTurn] [firstRow] ∧ Latest mindful firstTurn [firstTurn] ∧
    ∃ since : Timestamp, since.instant = 63113821200000000 ∧
      outcome mindful.startPass { secondTurn.start with busy := true } = .ok since ∧
      ∃ calls, (secondTurn.stop mindful).history = calls ++ secondTurn.start.history ∧
        ∀ c ∈ calls, c.ListsSince since := by
  have hregular : firstTurn.Regular [] := ⟨rfl, rfl, by decide +kernel, by decide +kernel, by decide +kernel⟩
  have hnext : secondTurn.Regular [firstRow] := ⟨rfl, rfl, by decide +kernel, by decide +kernel, by decide +kernel⟩
  have hrow : (firstTurn.stop mindful).tables.state = [firstRow] := by decide +kernel
  have hrun : Run mindful [firstTurn] [firstRow] := hrow ▸ .cons .nil hregular
  have hlatest : Latest mindful firstTurn [firstTurn] := by
    obtain ⟨_, -, hcommits, -⟩ | ⟨-, hstate⟩ := hregular.state (b := mindful) rfl
    · exact .head hcommits
    · exact absurd (hrow.symm.trans hstate) (List.cons_ne_nil _ _)
  obtain ⟨-, since, -, hinstant, -, hlater⟩ := (windows_overlap (b := mindful) rfl hrun).2.2 firstTurn hlatest
  obtain ⟨hstart, hcalls⟩ := hlater secondTurn hnext
  exact ⟨hrun, hlatest, since, hinstant.trans (by decide +kernel), hstart fun _ => nofun, hcalls⟩

end Bridge

end IssueBridge
