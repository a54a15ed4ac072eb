import IssueBridge.Time.Zone

/-! # Moments of the calendar

A timestamp has a clock reading in universal time exactly if its moment lies in the calendar. With an
offset it may lie outside although its own clock reading does not. The clocks of a zone may leave the calendar only
within a day of its ends.
-/

namespace IssueBridge.Time

theorem Wall.ofMicros?_eq_some_iff {n : Int} {w : Wall} : ofMicros? n = some w ↔ (w.micros : Int) = n := by
  have hw := w.lt_limit
  unfold ofMicros?
  constructor
  · intro h
    split at h
    · rename_i hn
      obtain rfl := Option.some.inj h
      exact Int.toNat_of_nonneg hn.1
    · cases h
  · rintro rfl
    rw [dif_pos ⟨by omega, by omega⟩]
    rfl

theorem Wall.ofMicros?_eq_none_iff {n : Int} : ofMicros? n = none ↔ ¬ (0 ≤ n ∧ n < wallLimit) := by
  unfold ofMicros?
  split <;> simp_all

theorem Wall.shift?_eq_some_iff {v w : Wall} {delta : Int} :
    v.shift? delta = some w ↔ (w.micros : Int) = v.micros + delta := ofMicros?_eq_some_iff

theorem Wall.shift?_eq_none_iff {w : Wall} {delta : Int} :
    w.shift? delta = none ↔ ¬ (0 ≤ w.micros + delta ∧ w.micros + delta < wallLimit) := ofMicros?_eq_none_iff

namespace Timestamp

variable {t : Timestamp} {w : Wall}

def InCalendar (t : Timestamp) : Prop := 0 ≤ t.instant ∧ t.instant < wallLimit

instance (t : Timestamp) : Decidable t.InCalendar := by unfold InCalendar; infer_instance

theorem universal?_eq_some_iff : t.universal? = some w ↔ (w.micros : Int) = t.instant := Wall.shift?_eq_some_iff

theorem universal?_eq_none_iff : t.universal? = none ↔ ¬ t.InCalendar := Wall.shift?_eq_none_iff

theorem InCalendar.exists_universal (h : t.InCalendar) :
    ∃ w, t.universal? = some w ∧ (w.micros : Int) = t.instant := by
  cases hw : t.universal? with
  | none => exact absurd h (universal?_eq_none_iff.mp hw)
  | some w => exact ⟨w, rfl, universal?_eq_some_iff.mp hw⟩

/-- The calendar goes on for so many seconds after the moment. -/
def Lasts (t : Timestamp) (seconds : Nat) : Prop :=
  0 ≤ t.instant ∧ t.instant + (seconds * microsPerSecond : Nat) < wallLimit

theorem Lasts.anti {m n : Nat} (h : t.Lasts n) (hmn : m ≤ n) : t.Lasts m := by
  have hscaled := Nat.mul_le_mul_right microsPerSecond hmn
  exact ⟨h.1, by have := h.2; omega⟩

theorem Lasts.exists_shift {n : Nat} (h : t.Lasts n) :
    ∃ w, (t.universal?.bind (·.shift? (n * microsPerSecond : Nat))) = some w := by
  obtain ⟨hstart, hend⟩ := h
  obtain ⟨u, hu, hmicros⟩ := InCalendar.exists_universal (t := t) ⟨hstart, by omega⟩
  rw [hu, Option.bind_some]
  cases hw : u.shift? (n * microsPerSecond : Nat) with
  | some w => exact ⟨w, rfl⟩
  | none =>
    rw [Wall.shift?_eq_none_iff, hmicros] at hw
    exact absurd ⟨by omega, hend⟩ hw

end Timestamp

namespace Zone

variable {z : Zone} {w v : Wall}

def offsets : Zone → List Int
  | .fixed o => [o]
  | .changing first changes => first :: changes.map (·.2)
  | .summer winter _ _ => [winter, winter + 3600]

theorem offsetAt_mem_offsets (z : Zone) (w : Wall) : z.offsetAt w ∈ z.offsets := by
  unfold offsetAt offsets
  cases z with
  | fixed o => exact List.mem_singleton_self o
  | changing first changes =>
    dsimp only
    cases h : (changes.takeWhile fun c => decide (c.1 ≤ w.micros / microsPerSecond)).getLast? with
    | none => exact List.mem_cons_self
    | some c =>
      have hc := (List.takeWhile_sublist _).subset (List.mem_of_getLast? h)
      exact List.mem_cons_of_mem _ (List.mem_map_of_mem hc)
  | summer winter starts ends =>
    dsimp only
    split
    · exact List.mem_cons_of_mem _ List.mem_cons_self
    · exact List.mem_cons_self

/-- The clocks of the zone are always less than a day ahead or behind. -/
def Near (z : Zone) : Prop := ∀ o ∈ z.offsets, o.natAbs < 86400

instance (z : Zone) : Decidable z.Near := by unfold Near; infer_instance

theorem near_of_mem : ∀ x ∈ zones, x.2.Near := by decide +kernel

theorem near_of_named {name : String} (h : named name = .ok z) : z.Near := by
  unfold named at h
  split at h
  · split at h
    · rename_i found hfound
      obtain rfl := Except.ok.inj h
      obtain ⟨before, after, hzones, -⟩ := List.lookup_eq_some_iff.mp hfound
      exact near_of_mem (name, found) (hzones ▸ List.mem_append_right before List.mem_cons_self)
    · cases h
  · cases h

theorem localTime?_eq_some_iff :
    z.localTime? w = some v ↔ (v.micros : Int) = w.micros + z.offsetAt w * microsPerSecond := Wall.shift?_eq_some_iff

/-- Clocks that are near show every moment that is a day or more from both ends of the calendar. -/
theorem Near.exists_localTime (h : z.Near) (hstart : microsPerDay ≤ w.micros)
    (hend : w.micros + microsPerDay ≤ wallLimit) : ∃ v, z.localTime? w = some v := by
  cases hv : z.localTime? w with
  | some v => exact ⟨v, rfl⟩
  | none =>
    have hoffset := h _ (z.offsetAt_mem_offsets w)
    have houtside := Wall.shift?_eq_none_iff.mp hv
    unfold wallLimit microsPerDay microsPerSecond at *
    omega

end Zone

end IssueBridge.Time
