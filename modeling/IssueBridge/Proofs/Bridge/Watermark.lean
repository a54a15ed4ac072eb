import IssueBridge.Bridge.Reconcile
import IssueBridge.Proofs.Step.Lockstep
import IssueBridge.Proofs.Time.Iso

/-! # Writing and reading the watermark

What writing a time can come to, whatever the database does: the opening of a session fails and nothing is written,
the time has no text or the commit fails and the failure is logged, or the row of the watermark holds the text. All
other rows stay as they are. What is read from the text is the time cut to the second, and the window of the next pass
starts a day before.
-/

namespace IssueBridge

open Step

namespace Tables

variable (key : String) (value : Option String)

theorem setValue_others : ∀ rows : List StateRow,
    (setValue key value rows).filter (·.key ≠ key) = rows.filter (·.key ≠ key)
  | [] => by simp [setValue]
  | r :: rows => by
    have ih := setValue_others rows
    unfold setValue
    by_cases h : r.key = key
    · simp [h]
    · rw [if_neg h, List.filter_cons, List.filter_cons, ih]

theorem setValue_row : ∀ {rows : List StateRow}, (rows.map (·.key)).Nodup →
    (setValue key value rows).filter (·.key = key) = [⟨key, value⟩]
  | [], _ => by simp [setValue]
  | r :: rows, h => by
    obtain ⟨hr, hrows⟩ := List.nodup_cons.mp h
    unfold setValue
    by_cases hkey : r.key = key
    · subst hkey
      have hnone : ∀ r' ∈ rows, r'.key ≠ r.key := fun r' hr' heq => hr (List.mem_map.mpr ⟨r', hr', heq⟩)
      simpa [List.filter_cons] using hnone
    · simpa [hkey] using setValue_row hrows

end Tables

namespace Watermark

variable {t : Time.Timestamp} {w : World}

inductive Written (t : Time.Timestamp) (w : World) : Except Failure Unit → World → Prop
  | closed {f : Failure} (hopen : w.faults w.history .openSession = .failed f) :
    Written t w (.error f) { w with history := .openSession :: w.history }
  | unwritable {f : Failure} (hopen : ∀ f, w.faults w.history .openSession ≠ .failed f)
    (htext : format t = .error f) :
    Written t w (.ok ()) { w with
      log := ⟨.error, "write last sync time error: " ++ f.message⟩ :: w.log
      history := .openSession :: w.history }
  | uncommitted {f : Failure} {value : String} (hopen : ∀ f, w.faults w.history .openSession ≠ .failed f)
    (htext : format t = .ok value) (hcommit : w.faults (.openSession :: w.history) .commit = .failed f) :
    Written t w (.ok ()) { w with
      log := ⟨.error, "write last sync time error: " ++ f.message⟩ :: w.log
      history := .commit :: .openSession :: w.history }
  | written {value : String} (hopen : ∀ f, w.faults w.history .openSession ≠ .failed f)
    (htext : format t = .ok value) (hcommit : ∀ f, w.faults (.openSession :: w.history) .commit ≠ .failed f) :
    Written t w (.ok ()) { w with
      history := .commit :: .openSession :: w.history
      tables := { w.tables with state := Tables.setValue key (some value) w.tables.state } }

theorem store_of_error {f : Failure} (h : format t = .error f) : store t = throw f := by
  unfold store
  rw [h]
  rfl

theorem store_of_ok {value : String} (h : format t = .ok value) : store t = place .commit >>= fun _ =>
    modify fun w =>
      { w with tables := { w.tables with state := Tables.setValue key (some value) w.tables.state } } := by
  unfold store
  rw [h]
  rfl

theorem written (t : Time.Timestamp) (w : World) : Written t w (outcome (write t) w) (after (write t) w) := by
  unfold write
  obtain ⟨f, hopen, hplace⟩ | ⟨hopen, served, hplace⟩ := place_cases .openSession w
  · rw [outcome_bind_error hplace, after_bind_error hplace, after_place]
    exact .closed hopen
  rw [outcome_bind_ok hplace, after_bind_ok hplace, after_place, outcome_contain]
  cases htext : format t with
  | error f =>
    rw [store_of_error htext, after_contain_error (outcome_throw ..), after_throw]
    exact .unwritable hopen htext
  | ok value =>
    rw [store_of_ok htext]
    obtain ⟨f, hcommit, hplace⟩ | ⟨hcommit, served, hplace⟩ :=
      place_cases .commit { w with history := .openSession :: w.history }
    · rw [after_contain_error (outcome_bind_error hplace), after_bind_error hplace, after_place]
      exact .uncommitted hopen htext hcommit
    · rw [after_contain_ok (outcome_bind_ok hplace), after_bind_ok hplace, after_place, after_modify]
      exact .written hopen htext hcommit

/-- Only the opening of a session can fail the writing of a time. -/
theorem write_eq_error {f : Failure} :
    outcome (write t) w = .error f ↔ w.faults w.history .openSession = .failed f := by
  have hall := written t w
  generalize outcome (write t) w = o, after (write t) w = v at hall
  cases hall with
  | closed hopen => simp [hopen]
  | unwritable hopen => simp [hopen f]
  | uncommitted hopen => simp [hopen f]
  | written hopen => simp [hopen f]

def commits (t : Time.Timestamp) : List Call :=
  match format t with
  | .ok _ => [.commit]
  | .error _ => []

theorem write_of_opened (h : ∀ f, w.faults w.history .openSession ≠ .failed f) (t : Time.Timestamp) :
    outcome (write t) w = .ok () ∧ ∃ log state, after (write t) w = { w with
      log
      history := commits t ++ .openSession :: w.history
      tables := { w.tables with state } } := by
  unfold commits
  have hall := written t w
  generalize outcome (write t) w = o, after (write t) w = v at hall
  cases hall with
  | closed hopen => exact absurd hopen (h _)
  | unwritable hopen htext => exact ⟨rfl, _, w.tables.state, by rw [htext]; rfl⟩
  | uncommitted hopen htext hcommit => exact ⟨rfl, _, w.tables.state, by rw [htext]; rfl⟩
  | written hopen htext hcommit => exact ⟨rfl, w.log, _, by rw [htext]; rfl⟩

theorem write_of_closed {f : Failure} (h : w.faults w.history .openSession = .failed f) (t : Time.Timestamp) :
    outcome (write t) w = .error f ∧ after (write t) w = { w with history := .openSession :: w.history } := by
  have hplace := outcome_place_failed h
  unfold write
  rw [outcome_bind_error hplace, after_bind_error hplace, after_place]
  exact ⟨rfl, rfl⟩

section Text

theorem isBlank_of_isAsciiDigit {c : Char} (h : Number.isAsciiDigit c = true) : Text.isBlank c = false := by
  have hc : 48 ≤ c.toNat ∧ c.toNat ≤ 57 := by
    simpa [Number.isAsciiDigit, Char.le_def, UInt32.le_iff_toNat_le] using h
  simp only [Text.isBlank, Text.blankRanges, List.any_eq_false, List.mem_cons, List.not_mem_nil, or_false]
  rintro r (rfl | rfl | rfl | rfl | rfl | rfl | rfl | rfl | rfl | rfl) <;> simp <;> omega

theorem trim_eq_self {cs : List Char} (h : ∀ c ∈ cs, Text.isBlank c = false) : Text.trim cs = cs := by
  have hkept : ∀ {ds : List Char}, (∀ c ∈ ds, Text.isBlank c = false) → ds.dropWhile Text.isBlank = ds := by
    intro ds hds
    cases ds with
    | nil => rfl
    | cons c ds => rw [List.dropWhile_cons_of_neg (by simp [hds c List.mem_cons_self])]
  unfold Text.trim Text.trimBy
  rw [hkept h, hkept fun c hc => h c (List.mem_reverse.mp hc), List.reverse_reverse]

theorem spellZone_append_mark {cs : List Char} (h : 'Z' ∉ cs) :
    spellZone (cs ++ ['Z']) = cs ++ "+00:00".toList := by
  have hplain : ∀ ds : List Char, 'Z' ∉ ds → spellZone ds = ds := by
    intro ds hds
    induction ds with
    | nil => rfl
    | cons c ds ih =>
      obtain ⟨hc, hrest⟩ := not_or.mp fun h => hds (List.mem_cons.mpr h)
      have hrec := ih hrest
      unfold spellZone at hrec ⊢
      rw [List.flatMap_cons, hrec, if_neg (Ne.symm hc)]
      rfl
  unfold spellZone at hplain ⊢
  rw [List.flatMap_append, hplain cs h]
  rfl

theorem micro_floorSecond (w : Time.Wall) : w.floorSecond.micro = 0 := Nat.mul_mod_left ..

theorem read?_text (w : Time.Wall) : read? (text w) = some (.ofUniversal w.floorSecond) := by
  obtain ⟨Y, M, D, H, I, S, hstamp, hy, hm, hd, hh, hi, hs⟩ :=
    w.floorSecond.exists_text_eq_stamp (micro_floorSecond w)
  have hchars := fun c hc => Time.Iso.mem_stamp hy hm hd hh hi hs (c := c) hc
  have hread := Time.Iso.read_stamp hy hm hd hh hi hs
  have hparts := w.floorSecond.ofParts?_parts
  rw [micro_floorSecond] at hparts
  have hmark : 'Z' ∉ Time.Iso.stamp Y M D H I S := fun h => absurd (hchars _ h) (by decide)
  have htrim : ∀ c ∈ Time.Iso.stamp Y M D H I S ++ ['Z'], Text.isBlank c = false := by
    intro c hc
    rcases List.mem_append.mp hc with hc | hc
    · obtain h | rfl | rfl | rfl := hchars c hc
      · exact isBlank_of_isAsciiDigit h
      all_goals decide
    · rw [List.mem_singleton.mp hc]
      decide
  have htext : (text w).toList = Time.Iso.stamp Y M D H I S ++ ['Z'] := by
    unfold text
    rw [String.toList_append, hstamp]
    rfl
  unfold read?
  rw [htext, trim_eq_self htrim, spellZone_append_mark hmark, hread, hparts]
  rfl

end Text

section Since

/-- The time that is stored in a table; none if there is no text or it cannot be read. -/
def stored? (t : Tables) : Option Time.Timestamp :=
  let text := ((t.value? key).bind (·.value)).getD ""
  if text = "" then none else read? text

/-- Once a session is open, the stored time is read and at most an entry is logged. -/
theorem read_of_opened (h : ∀ f, w.faults w.history .openSession ≠ .failed f) :
    outcome read w = .ok (stored? w.tables) ∧
      ∃ log, after read w = { w with log, history := .openSession :: w.history } := by
  obtain ⟨f, hopen, -⟩ | ⟨-, served, hplace⟩ := place_cases .openSession w
  · exact absurd hopen (h f)
  unfold read stored?
  rw [outcome_bind_ok hplace, after_bind_ok hplace, after_place, outcome_bind_ok (outcome_get _),
    after_bind_ok (outcome_get _), after_get]
  dsimp only
  generalize ((w.tables.value? key).bind (·.value)).getD "" = text
  split
  · exact ⟨rfl, w.log, rfl⟩
  · rename_i hne
    rw [if_neg hne]
    cases read? text with
    | none => exact ⟨rfl, _, rfl⟩
    | some t => exact ⟨rfl, w.log, rfl⟩

/-- Where a window starts by the stored time, or else by the default. -/
def startFrom (default : Time.Timestamp) : Option Time.Timestamp → Except Failure Time.Timestamp
  | none => .ok default
  | some last =>
    match format last with
    | .ok _ => before last overlap
    | .error f => .error f

theorem startFrom_some {text : String} (default : Time.Timestamp) (h : format t = .ok text) :
    startFrom default (some t) = before t overlap := by
  unfold startFrom
  dsimp only
  rw [h]

theorem since_of_opened {default : Time.Timestamp} (hdefault : before w.clock defaultWindow = .ok default)
    (h : ∀ f, w.faults w.history .openSession ≠ .failed f) :
    outcome (since true) w = startFrom default (stored? w.tables) ∧
      ∃ log, after (since true) w = { w with log, history := .openSession :: w.history } := by
  obtain ⟨hread, log, hafter⟩ := read_of_opened h
  unfold since
  rw [outcome_bind_ok (outcome_get _), after_bind_ok (outcome_get _), after_get, hdefault]
  rw [outcome_bind_ok (outcome_ofExcept ..), after_bind_ok (outcome_ofExcept ..), after_ofExcept,
    if_neg (by decide), outcome_bind_ok hread, after_bind_ok hread, hafter]
  cases stored? w.tables with
  | none => exact ⟨rfl, log, rfl⟩
  | some last =>
    unfold startFrom
    dsimp only
    cases format last with
    | error f => exact ⟨rfl, log, rfl⟩
    | ok text =>
      rw [outcome_bind_ok (outcome_ofExcept ..), after_bind_ok (outcome_ofExcept ..), after_ofExcept, outcome_ofExcept,
        after_ofExcept]
      exact ⟨rfl, log, rfl⟩

theorem since_of_closed {default : Time.Timestamp} {f : Failure}
    (hdefault : before w.clock defaultWindow = .ok default) (h : w.faults w.history .openSession = .failed f) :
    outcome (since true) w = .error f ∧ after (since true) w = { w with history := .openSession :: w.history } := by
  have hread : outcome read w = .error f ∧ after read w = { w with history := .openSession :: w.history } := by
    have hplace := outcome_place_failed h
    unfold read
    rw [outcome_bind_error hplace, after_bind_error hplace, after_place]
    exact ⟨rfl, rfl⟩
  unfold since
  rw [outcome_bind_ok (outcome_get _), after_bind_ok (outcome_get _), after_get, hdefault]
  rw [outcome_bind_ok (outcome_ofExcept ..), after_bind_ok (outcome_ofExcept ..), after_ofExcept,
    if_neg (by decide), outcome_bind_error hread.1, after_bind_error hread.1, hread.2]
  exact ⟨rfl, rfl⟩

/-- A time that lies so many microseconds after the start of the calendar has one before it by as many. -/
theorem before_eq_ok {micros : Int} (hpos : 0 ≤ micros) (h : micros ≤ t.wall.micros) :
    ∃ u, before t micros = .ok u ∧ u.offset = t.offset ∧ (u.wall.micros : Int) = t.wall.micros - micros := by
  have hlimit := t.wall.lt_limit
  have hshift : t.wall.shift? (-micros) = some ⟨(t.wall.micros + -micros).toNat, by omega⟩ :=
    dif_pos ⟨by omega, by omega⟩
  unfold before Time.Timestamp.shift?
  rw [hshift]
  exact ⟨_, rfl, rfl, by dsimp only; omega⟩

theorem format_eq_ok {text : String} (h : format t = .ok text) :
    ∃ u, text = Watermark.text u ∧ (u.micros : Int) = t.instant := by
  unfold format Time.Timestamp.universal? Time.Wall.shift? Time.Wall.ofMicros? at h
  split at h
  · rename_i u hu
    split at hu
    · rename_i hrange
      obtain rfl := Option.some.inj hu
      refine ⟨_, (Except.ok.inj h).symm, ?_⟩
      unfold Time.Timestamp.instant
      dsimp only
      omega
    · cases hu
  · cases h

theorem format_of_universal {u : Time.Wall} (h : t.universal? = some u) : format t = .ok (text u) := by
  unfold format
  rw [h]

theorem text_ne_empty (u : Time.Wall) : text u ≠ "" := by
  intro h
  have hlast := congrArg String.toList h
  unfold text at hlast
  rw [String.toList_append] at hlast
  exact absurd hlast (by simp)

theorem stored?_text {tables : Tables} {u : Time.Wall} (h : tables.state = [⟨key, some (text u)⟩]) :
    stored? tables = some (.ofUniversal u.floorSecond) := by
  have hrow : tables.value? key = some ⟨key, some (text u)⟩ := by
    unfold Tables.value?
    rw [h]
    rfl
  unfold stored?
  rw [hrow]
  exact (if_neg (text_ne_empty u)).trans (read?_text u)

theorem universal?_ofUniversal (u : Time.Wall) : (Time.Timestamp.ofUniversal u).universal? = some u := by
  have hlimit := u.lt_limit
  have hnow : (u.micros : Int) + -0 = u.micros := by omega
  unfold Time.Timestamp.universal? Time.Wall.shift?
  change Time.Wall.ofMicros? ((u.micros : Int) + -0) = some u
  rw [hnow]
  exact dif_pos ⟨Int.natCast_nonneg _, Int.ofNat_lt.mpr hlimit⟩

/-- The window starts a day before the stored time, cut to the second. -/
theorem startFrom_text {u : Time.Wall} (hday : Time.microsPerDay ≤ u.floorSecond.micros) :
    ∃ since : Time.Timestamp, since.offset = some .zero ∧
      since.instant = u.floorSecond.micros - Time.microsPerDay ∧
      ∀ (default : Time.Timestamp) (tables : Tables), tables.state = [⟨key, some (text u)⟩] →
        startFrom default (stored? tables) = .ok since := by
  have hoverlap : overlap ≤ (Time.Timestamp.ofUniversal u.floorSecond).wall.micros := Int.ofNat_le.mpr hday
  obtain ⟨since, hsince, hoffset, hwall⟩ := before_eq_ok (by decide) hoverlap
  have hformat := format_of_universal (universal?_ofUniversal u.floorSecond)
  refine ⟨since, hoffset, ?_, fun default tables h => ?_⟩
  · have hzero : since.offsetMicros = 0 := by
      unfold Time.Timestamp.offsetMicros
      rw [hoffset]
      rfl
    unfold Time.Timestamp.instant
    rw [hzero, hwall, Int.sub_zero]
    rfl
  · rw [stored?_text h]
    exact (startFrom_some default hformat).trans hsince

end Since

section Same

/-- Whether a time is stored is not seen in anything but the log and the table. -/
theorem lockstep_write (t : Time.Timestamp) : Lockstep World.Alike (write t) := by
  intro v w h
  have hreply : w.faults w.history .openSession = v.faults v.history .openSession := by
    rw [h.history, h.faults _ _ Call.noConfusion]
  by_cases hopen : ∃ f, v.faults v.history .openSession = .failed f
  · obtain ⟨f, hf⟩ := hopen
    obtain ⟨hv, hv'⟩ := write_of_closed hf t
    obtain ⟨hw, hw'⟩ := write_of_closed (hreply.trans hf) t
    rw [hv, hv', hw, hw']
    exact ⟨rfl, { h with history := congrArg (_ :: ·) h.history }⟩
  · obtain ⟨hv, _, _, hv'⟩ := write_of_opened (not_exists.mp hopen) t
    obtain ⟨hw, _, _, hw'⟩ := write_of_opened (hreply ▸ not_exists.mp hopen) t
    rw [hv, hv', hw, hw']
    exact ⟨rfl, { h with history := congrArg (fun past => commits t ++ .openSession :: past) h.history }⟩

def readStored : String → Step (Option Time.Timestamp)
  | "" => return none
  | stored =>
    match read? stored with
    | some t => return some t
    | none => do
      Step.info "parse last sync time error:"
      return none

theorem lockstep_read : Lockstep World.Twins read := by
  refine (lockstep_place_twins Call.noConfusion).seq fun _ =>
    .look (fun w => ((w.tables.value? key).bind (·.value)).getD "") readStored (fun h => by rw [h.tables])
      fun stored => ?_
  unfold readStored
  split
  · exact .pure _
  · split
    · exact .pure _
    · exact (lockstep_say_twins _ _).seq fun _ => .pure _

def sinceAt (enabled : Bool) (clock : Time.Timestamp) : Step Time.Timestamp := do
  let default ← Step.ofExcept (before clock defaultWindow)
  if !enabled then return default
  else
    match ← read with
    | none => return default
    | some last => do
      let _ ← Step.ofExcept (format last)
      Step.ofExcept (before last overlap)

theorem lockstep_since (enabled : Bool) : Lockstep World.Twins (since enabled) := by
  refine .look (·.clock) (sinceAt enabled) (fun h => h.clock) fun clock => .seq (.ofExcept _) fun default => ?_
  split
  · exact .pure _
  · refine lockstep_read.seq fun last => ?_
    cases last with
    | none => exact .pure _
    | some last => exact .seq (.ofExcept _) fun _ => .ofExcept _

end Same

end Watermark

namespace Bridge

variable {b : Bridge}

theorem lockstep_startPass (b : Bridge) : Lockstep World.Twins b.startPass :=
  .seq (x := Step.modifyTally fun _ => {}) (fun _ _ h => ⟨rfl, { h with tally := rfl }⟩) fun _ =>
    (Watermark.lockstep_since _).seq fun _ => (lockstep_say_twins _ _).seq fun _ => .pure _

theorem lockstep_endPass : Lockstep World.Alike endPass :=
  .look (·.clock) (fun clock => do
    Watermark.write clock
    let tally := (← get).tally
    Step.info ("Finish compare and sync issues: " ++ tally.countsValue.shown)
    return tally) (fun h => h.clock) fun clock => (Watermark.lockstep_write clock).seq fun _ =>
      .look (·.tally) (fun tally => do
        Step.info ("Finish compare and sync issues: " ++ tally.countsValue.shown)
        return tally) (fun h => h.tally) fun _ => (lockstep_say _ _).seq fun _ => .pure _

end Bridge

end IssueBridge
