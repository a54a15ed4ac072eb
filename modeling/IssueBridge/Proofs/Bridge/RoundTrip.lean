import IssueBridge.Proofs.Bridge.Watermark
import IssueBridge.Proofs.Time.Order
import IssueBridge.Proofs.Time.Universal

/-! # Watermarks as texts

The text of a moment stands for the second of universal time in which the moment falls: it is read back as the start of
this second, it is the same for all moments of the second, and texts are in the order of the seconds.
-/

namespace IssueBridge

open Time

namespace Time.Timestamp

/-- The whole seconds since the start of year 1 in universal time. -/
def seconds (t : Timestamp) : Int := t.instant / microsPerSecond

theorem seconds_of_universal {t : Timestamp} {w : Wall} (h : t.universal? = some w) : t.seconds = w.seconds := by
  unfold seconds
  rw [← universal?_eq_some_iff.mp h]
  rfl

end Time.Timestamp

namespace Watermark

variable {t u : Timestamp}

theorem text_floorSecond (w : Wall) : text w.floorSecond = text w := by
  have hfloor : w.floorSecond.floorSecond = w.floorSecond := by
    unfold Wall.floorSecond
    simp only [Wall.mk.injEq]
    rw [Nat.mul_div_cancel _ (by decide)]
  unfold text
  rw [hfloor]

theorem text_lt_text_iff (v w : Wall) : text v < text w ↔ v.seconds < w.seconds := by
  unfold text
  rw [String.lt_iff, String.toList_append, String.toList_append,
    Wall.text_append_lt_iff (micro_floorSecond v) (micro_floorSecond w), Wall.seconds_floorSecond,
    Wall.seconds_floorSecond]

theorem text_eq_text_iff (v w : Wall) : text v = text w ↔ v.seconds = w.seconds := by
  constructor
  · intro h
    have hlt : ¬ v.seconds < w.seconds := by
      rw [← text_lt_text_iff, h]
      exact String.lt_irrefl _
    have hgt : ¬ w.seconds < v.seconds := by
      rw [← text_lt_text_iff, h]
      exact String.lt_irrefl _
    omega
  · intro h
    have hfloor : v.floorSecond = w.floorSecond := by
      unfold Wall.floorSecond
      simp only [Wall.mk.injEq]
      exact congrArg (· * microsPerSecond) h
    unfold text
    rw [hfloor]

theorem exists_read_format (h : t.InCalendar) :
    ∃ w : Wall, t.seconds = w.seconds ∧ format t = .ok (text w) ∧
      ∃ r, read? (text w) = some r ∧ r.offset = some .zero ∧ r.instant = t.seconds * microsPerSecond ∧
        format r = .ok (text w) := by
  obtain ⟨w, hw, -⟩ := h.exists_universal
  have hseconds := Timestamp.seconds_of_universal hw
  refine ⟨w, hseconds, format_of_universal hw, .ofUniversal w.floorSecond, read?_text w, rfl, ?_, ?_⟩
  · rw [← Timestamp.universal?_eq_some_iff.mp (universal?_ofUniversal w.floorSecond), hseconds]
    exact Int.natCast_mul ..
  · rw [format_of_universal (universal?_ofUniversal w.floorSecond), text_floorSecond]

/-- Moments of the calendar have texts, with or without an offset. The text is read back in universal time as the start
of the second, which has the same text. Two moments have the same text exactly if they fall into the same second, and
texts are ordered as these seconds. -/
theorem texts_tell_seconds (ht : t.InCalendar) (hu : u.InCalendar) :
    ∃ text other r, format t = .ok text ∧ format u = .ok other ∧
      (read? text = some r ∧ r.offset = some .zero ∧ r.instant = t.seconds * microsPerSecond ∧ format r = .ok text) ∧
      (text = other ↔ t.seconds = u.seconds) ∧ (text < other ↔ t.seconds < u.seconds) := by
  obtain ⟨v, hv, hformat, r, hread⟩ := exists_read_format ht
  obtain ⟨w, hw, hformat', -⟩ := exists_read_format hu
  refine ⟨text v, text w, r, hformat, hformat', hread, ?_, ?_⟩
  · rw [text_eq_text_iff, hv, hw]
    omega
  · rw [text_lt_text_iff, hv, hw]
    omega

/-- The last microsecond of a leap day, in a zone that is five and a half hours and a bit behind. -/
def leapMoment : Timestamp := ⟨⟨63844847999999999, by decide⟩, some ⟨-19815000001, by decide⟩⟩

def nakedMoment : Timestamp := ⟨leapMoment.wall, none⟩

theorem texts_tell_seconds_leap : leapMoment.InCalendar ∧ nakedMoment.InCalendar ∧
    ∃ text other r, format leapMoment = .ok text ∧ format nakedMoment = .ok other ∧
      (read? text = some r ∧ r.offset = some .zero ∧ r.instant = leapMoment.seconds * microsPerSecond ∧
        format r = .ok text) ∧
      (text = other ↔ leapMoment.seconds = nakedMoment.seconds) ∧
      (text < other ↔ leapMoment.seconds < nakedMoment.seconds) := by
  have hleap : leapMoment.InCalendar := by decide
  have hnaked : nakedMoment.InCalendar := by decide
  exact ⟨hleap, hnaked, texts_tell_seconds hleap hnaked⟩

end Watermark

end IssueBridge
