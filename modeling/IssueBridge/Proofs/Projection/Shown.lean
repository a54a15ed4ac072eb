import IssueBridge.GitHub.Reading
import IssueBridge.Proofs.Correlation.Rendered
import IssueBridge.Proofs.Projection.Converter
import IssueBridge.Proofs.Time.Universal

/-! # Times that can be shown

Where no converter is asked for, the time alone keeps a text from being rendered: its moment or what the clocks of the
zone show at it can lie outside the calendar. This happens only within a day of the ends of the calendar.
-/

namespace IssueBridge

open Time Logged Projection

variable {z : Zone} {t : Timestamp} {w : Wall}

namespace Time.Zone

/-- The clocks of the zone show the moment: there is a reading for it in universal time and one that is ahead by the
offset of the zone. A moment without an offset does not lie on the first day. -/
structure Shows (z : Zone) (t : Timestamp) : Prop where
  later : t.offset = none → microsPerDay ≤ t.wall.micros
  readable : ∃ u w : Wall, (u.micros : Int) = t.instant ∧
    (w.micros : Int) = u.micros + z.offsetAt u * microsPerSecond

theorem Near.shows (h : z.Near) (hstart : microsPerDay ≤ t.instant) (hend : t.instant + microsPerDay ≤ wallLimit) :
    z.Shows t := by
  have hcalendar : t.InCalendar := by
    unfold Timestamp.InCalendar
    unfold microsPerDay microsPerSecond at *
    omega
  obtain ⟨u, -, hu⟩ := hcalendar.exists_universal
  obtain ⟨w, hw⟩ := h.exists_localTime (w := u) (by omega) (by omega)
  refine ⟨fun hnaive => ?_, u, w, hu, localTime?_eq_some_iff.mp hw⟩
  unfold Timestamp.instant Timestamp.offsetMicros at hstart
  rw [hnaive] at hstart
  dsimp only at hstart
  omega

end Time.Zone

namespace Projector

def unshown (t : Timestamp) : Failure :=
  if t.offset = none ∧ t.wall.micros < microsPerDay then .yearZero else .dateOutOfRange

theorem localTime_of_shows (h : z.Shows t) : ∃ w, localTime z t = .ok w := by
  obtain ⟨u, w, hu, hw⟩ := h.readable
  refine ⟨w, ?_⟩
  unfold localTime
  rw [if_neg, Timestamp.universal?_eq_some_iff.mpr hu, Option.bind_some, Zone.localTime?_eq_some_iff.mpr hw]
  rintro ⟨hnaive, hfirst⟩
  exact Nat.not_lt.mpr (h.later (Option.isNone_iff_eq_none.mp hnaive)) hfirst

theorem localTime_of_not_shows (h : ¬ z.Shows t) : localTime z t = .error (unshown t) := by
  unfold localTime unshown
  simp only [Option.isNone_iff_eq_none]
  split
  · rfl
  · rename_i hlater
    cases hw : t.universal?.bind z.localTime? with
    | none => rfl
    | some w =>
      obtain ⟨u, hu, hw⟩ := Option.bind_eq_some_iff.mp hw
      have hreading := Zone.localTime?_eq_some_iff.mp hw
      refine absurd ⟨fun hnaive => ?_, u, w, Timestamp.universal?_eq_some_iff.mp hu, hreading⟩ h
      exact Nat.not_lt.mp fun hfirst => hlater ⟨hnaive, hfirst⟩

variable (p : Projector) (i : GitHub.Issue) (repo : Repo) (c : GitHub.Comment)

theorem stamp_some (t : Timestamp) : p.stamp (some t) = (localTime p.zone t).map fun w => " at " ++ timeText w := by
  change ((localTime p.zone t).map timeText).map _ = _
  cases localTime p.zone t <;> rfl

def Stamps (moment : Option Timestamp) : Prop := ∀ t, moment = some t → p.zone.Shows t

variable {p} in
theorem Stamps.exists_stamp {moment : Option Timestamp} (h : p.Stamps moment) :
    ∃ stamp, p.stamp moment = .ok stamp := by
  cases moment with
  | none => exact ⟨"", rfl⟩
  | some t =>
    obtain ⟨w, hw⟩ := localTime_of_shows (h t rfl)
    exact ⟨_, by rw [stamp_some, hw]; rfl⟩

theorem stamp_of_not_shows (h : ¬ p.zone.Shows t) : p.stamp (some t) = .error (unshown t) := by
  rw [stamp_some, localTime_of_not_shows h]
  rfl

/-- All projections of an issue come to its description. -/
structure Projects (r : Except Failure String) : Prop where
  description : result (p.description i) = r
  created : result (p.newFields i repo) = r.map (p.newFieldsOf i repo)
  updated : result (p.updatedFields i) = r.map fun d => [("summary", .str i.title), ("description", .str d)]

theorem projects {r : Except Failure String} (h : result (p.description i) = r) : p.Projects i repo r where
  description := h
  created := h ▸ p.result_newFields i repo
  updated := h ▸ p.result_updatedFields i

/-- Without a converter whatever is projected comes out with the text as it is, unless its time cannot be shown; then
nothing comes out. A zone whose clocks are always less than a day ahead or behind shows every time that is a day or
more from both ends of the calendar. -/
theorem unconverted_texts_come_out (h : p.settings.converterCommand.getD "" = "") :
    (∀ (i : GitHub.Issue) (repo : Repo),
      (p.Stamps i.createdAt → ∃ stamp, p.stamp i.createdAt = .ok stamp ∧
        p.Projects i repo (.ok (described i (Text.cutBody (i.body.getD "")) stamp))) ∧
      ∀ t, i.createdAt = some t → ¬ p.zone.Shows t → p.Projects i repo (.error (unshown t))) ∧
    (∀ c : GitHub.Comment,
      (p.Stamps c.createdAt → ∃ stamp, p.stamp c.createdAt = .ok stamp ∧
        result (p.commentBody c) = .ok (attributed c stamp (Text.cutBody (c.body.getD "")))) ∧
      ∀ t, c.createdAt = some t → ¬ p.zone.Shows t → result (p.commentBody c) = .error (unshown t)) ∧
    (p.zone.Near → ∀ t : Timestamp, microsPerDay ≤ t.instant → t.instant + microsPerDay ≤ wallLimit →
      p.zone.Shows t) := by
  refine ⟨fun i repo => ⟨fun hstamps => ?_, fun t ht hshows => ?_⟩,
    fun c => ⟨fun hstamps => ?_, fun t ht hshows => ?_⟩, fun hnear _ => hnear.shows⟩
  · obtain ⟨stamp, hstamp⟩ := hstamps.exists_stamp
    refine ⟨stamp, hstamp, p.projects i repo ?_⟩
    rw [p.result_description, convert_of_unasked h, hstamp]
    rfl
  · refine p.projects i repo ?_
    rw [p.result_description, convert_of_unasked h, ht, p.stamp_of_not_shows hshows]
    rfl
  · obtain ⟨stamp, hstamp⟩ := hstamps.exists_stamp
    refine ⟨stamp, hstamp, ?_⟩
    rw [p.result_commentBody, convert_of_unasked h, hstamp]
    rfl
  · rw [p.result_commentBody, convert_of_unasked h, ht, p.stamp_of_not_shows hshows]
    rfl

def unset : Projector where
  settings := {}
  fieldIds := ⟨"10", none⟩
  zone := shanghai
  programs _ _ _ := .refused .missing

/-- The last second that the clocks of Shanghai show. -/
def lastSecond : Timestamp := .ofUniversal ⟨wallLimit - 28801 * microsPerSecond, by decide⟩

/-- The first moment of the calendar on clocks that tell no offset. -/
def firstMoment : Timestamp := ⟨⟨0, by decide⟩, none⟩

theorem shows_lastSecond : shanghai.Shows lastSecond where
  later := nofun
  readable := ⟨lastSecond.wall, ⟨wallLimit - microsPerSecond, by decide⟩, rfl, by decide +kernel⟩

theorem unconverted_texts_come_out_shanghai :
    (∃ d, unset.Projects { id := 1, number := 1, createdAt := some lastSecond } {} (.ok d)) ∧
    unset.Projects { id := 1, number := 1, createdAt := some firstMoment } {} (.error .yearZero) ∧
    ∀ t : Timestamp, microsPerDay ≤ t.instant → t.instant + microsPerDay ≤ wallLimit → shanghai.Shows t := by
  obtain ⟨hissues, -, hordinary⟩ := unset.unconverted_texts_come_out rfl
  obtain ⟨stamp, -, hlast⟩ := (hissues { id := 1, number := 1, createdAt := some lastSecond } {}).1
    fun t ht => Option.some.inj ht ▸ shows_lastSecond
  have hfirst := (hissues { id := 1, number := 1, createdAt := some firstMoment } {}).2 _ rfl
    fun hshows => absurd (hshows.later rfl) (by decide)
  exact ⟨⟨_, hlast⟩, hfirst, hordinary (Zone.near_of_mem (x := ("Asia/Shanghai", shanghai)) List.mem_cons_self)⟩

/-- An issue in a delivery may have been created in the last second of universal time, which the clocks of
Shanghai do not show. -/
theorem unconverted_texts_come_out_latest :
    ∃ i, GitHub.Issue.form (.obj [("id", .int 1), ("number", .int 1), ("created_at", .str "9999-12-31T23:59:59Z")]) =
        .good i ∧ result (unset.description i) = .error .dateOutOfRange :=
  ⟨_, rfl, rfl⟩

end Projector

end IssueBridge
