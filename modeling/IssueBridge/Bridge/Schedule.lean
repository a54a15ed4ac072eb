import IssueBridge.Bridge.Reconcile

/-! # The scheduler

While the scheduler runs, a pass is due at a fixed interval, if one was set. Stopping drops the jobs.
-/

namespace IssueBridge.Schedule

def jobName : String := "reconcile_all"

def modifyAgenda (f : Agenda → Agenda) : Step Unit := modify fun w => { w with agenda := f w.agenda }

/-- The seconds between two runs; an interval of nothing counts as one second. -/
def intervalSeconds (minutes : Int) : Int := if minutes = 0 then 1 else minutes * 60

/-- Sets the interval of the job. The first run has to be a time of the calendar. -/
def schedule (minutes : Int) : Step Unit := do
  modifyAgenda fun a => { a with jobs := a.jobs.filter (·.1 ≠ jobName) }
  let _ ← Step.ofExcept
    (Watermark.before (← get).clock (-intervalSeconds minutes * Time.microsPerSecond))
  modifyAgenda fun a => { a with jobs := a.jobs ++ [(jobName, minutes)] }
  Step.info s!"Scheduled reconciliation every {minutes} minutes"

/-- Starts the scheduler, with the job if the interval is positive. -/
def start (minutes : Int) : Step Unit := do
  modifyAgenda fun a => { a with attached := true }
  if (← get).agenda.running then throw .schedulerRunning
  modifyAgenda fun a => { a with running := true }
  Step.info "Sync scheduler started"
  if 0 < minutes then schedule minutes

def stop : Step Unit := do
  if (← get).agenda.running then
    modifyAgenda fun a => { a with running := false, jobs := [] }
    Step.info "Sync scheduler stopped"

/-- The job: a pass whose failure ends in the log. -/
def runJob (b : Bridge) : Step Unit := do
  if (← get).agenda.attached then
    Step.info "Running scheduled reconciliation"
    match ← Step.observe b.syncAll with
    | .ok tally => Step.info ("Scheduled reconciliation completed: " ++ tally.report.shown)
    | .error f => Step.error ("Scheduled reconciliation failed: " ++ f.message)

/-- The pass before the first delivery is accepted. -/
def presync (b : Bridge) : Step Tally := do
  Step.info "start presync"
  let tally ← b.syncAll
  Step.info ("end presync, cost Xs: " ++ tally.report.shown)
  return tally

end IssueBridge.Schedule
