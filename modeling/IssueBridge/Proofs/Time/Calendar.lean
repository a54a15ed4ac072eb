import IssueBridge.Time.Calendar

/-! # Dates and day numbers

Every day number below the end of the calendar is that of its date, which is a day of the calendar.
-/

namespace IssueBridge.Time

section Months

def daysIn (lengths : List Nat) : Nat := lengths.foldl (· + ·) 0

theorem daysIn_cons (len : Nat) (lengths : List Nat) : daysIn (len :: lengths) = len + daysIn lengths := by
  have hshift : ∀ (l : List Nat) (a b : Nat), l.foldl (· + ·) (a + b) = a + l.foldl (· + ·) b := by
    intro l
    induction l with
    | nil => exact fun _ _ => rfl
    | cons c l ih => exact fun a b => by rw [List.foldl_cons, List.foldl_cons, Nat.add_assoc, ih]
  unfold daysIn
  rw [List.foldl_cons, Nat.zero_add]
  exact hshift lengths len 0

/-- The month is found in which the day falls, and its place in it. -/
theorem monthFrom_spec {rest : Nat} : ∀ {lengths : List Nat} (month : Nat), rest < daysIn lengths →
    ∃ i day, monthFrom month rest lengths = (month + i, day + 1) ∧ i < lengths.length ∧
      day < lengths.getD i 0 ∧ daysIn (lengths.take i) + day = rest
  | [], _, h => absurd h (Nat.not_lt_zero rest)
  | len :: lengths, month, h => by
    unfold monthFrom
    by_cases hlen : rest < len
    · exact ⟨0, rest, if_pos hlen, Nat.zero_lt_succ _, hlen, Nat.zero_add rest⟩
    · rw [daysIn_cons] at h
      obtain ⟨i, day, hfound, hi, hday, hsum⟩ :=
        monthFrom_spec (month + 1) (show rest - len < daysIn lengths by omega)
      refine ⟨i + 1, day, ?_, Nat.succ_lt_succ hi, hday, ?_⟩
      · rw [if_neg hlen, hfound, Nat.add_assoc, Nat.add_comm 1 i]
      · rw [List.take_succ_cons, daysIn_cons]
        omega

theorem daysIn_monthLengths (leap : Bool) : daysIn (monthLengths leap) = if leap then 366 else 365 := by
  cases leap <;> rfl

end Months

section Years

/-- A year of a cycle of 400 is a leap year if it is the last of four, unless it is the last of a hundred only. -/
theorem isLeap_succ {q c f o : Nat} (hc : c ≤ 3) (hf : f ≤ 24) (ho : o ≤ 3) :
    isLeap (q * 400 + c * 100 + f * 4 + o + 1) = (o = 3 && (f ≠ 24 || c = 3)) := by
  have hfour : (q * 400 + c * 100 + f * 4 + o + 1) % 4 = 0 ↔ o = 3 := by omega
  have hundred : (q * 400 + c * 100 + f * 4 + o + 1) % 100 = 0 ↔ f = 24 ∧ o = 3 := by omega
  have hcycle : (q * 400 + c * 100 + f * 4 + o + 1) % 400 = 0 ↔ c = 3 ∧ f = 24 ∧ o = 3 := by omega
  unfold isLeap
  rw [Bool.eq_iff_iff]
  simp only [Bool.and_eq_true, Bool.or_eq_true, decide_eq_true_eq, hfour, ne_eq, hundred, hcycle]
  omega

theorem daysBeforeYear_succ {q c f o : Nat} (hc : c ≤ 3) (hf : f ≤ 24) (ho : o ≤ 3) :
    daysBeforeYear (q * 400 + c * 100 + f * 4 + o + 1) = q * 146097 + c * 36524 + f * 1461 + o * 365 := by
  have hfour : (q * 400 + c * 100 + f * 4 + o) / 4 = q * 100 + c * 25 + f := by omega
  have hundred : (q * 400 + c * 100 + f * 4 + o) / 100 = q * 4 + c := by omega
  have hcycle : (q * 400 + c * 100 + f * 4 + o) / 400 = q := by omega
  unfold daysBeforeYear
  dsimp only
  rw [Nat.add_sub_cancel, hfour, hundred, hcycle]
  omega

/-- The days are split into cycles of 400, 100 and 4 years and single ones. A day 365 is left only at the end of a leap
year. -/
theorem yearFrom_parts (n : Nat) : ∃ q c f o rest, yearFrom n = (q * 400 + c * 100 + f * 4 + o, rest) ∧
    c ≤ 3 ∧ f ≤ 24 ∧ o ≤ 3 ∧ q * 146097 + c * 36524 + f * 1461 + o * 365 + rest = n ∧
      (rest < 365 ∨ rest = 365 ∧ o = 3 ∧ (f ≠ 24 ∨ c = 3)) := by
  have hc : min (n % 146097 / 36524) 3 ≤ 3 := Nat.min_le_right ..
  have hc' : min (n % 146097 / 36524) 3 * 36524 ≤ n % 146097 := by omega
  have hleft : n % 146097 - min (n % 146097 / 36524) 3 * 36524 ≤ 36524 ∧
      (n % 146097 - min (n % 146097 / 36524) 3 * 36524 = 36524 → min (n % 146097 / 36524) 3 = 3) := by omega
  refine ⟨n / 146097, min (n % 146097 / 36524) 3, _, _, _, rfl, hc, ?_⟩
  generalize min (n % 146097 / 36524) 3 = c at *
  have hq : n / 146097 * 146097 + n % 146097 = n := Nat.div_add_mod' n 146097
  generalize n / 146097 = q at *
  generalize n % 146097 = r at *
  obtain ⟨r', hr'⟩ : ∃ r', r - c * 36524 = r' := ⟨_, rfl⟩
  rw [hr'] at hleft ⊢
  omega

theorem yearFrom_spec (n : Nat) :
    daysBeforeYear ((yearFrom n).1 + 1) + (yearFrom n).2 = n ∧
      (yearFrom n).2 < if isLeap ((yearFrom n).1 + 1) then 366 else 365 := by
  obtain ⟨q, c, f, o, rest, heq, hc, hf, ho, hn, hrest⟩ := yearFrom_parts n
  rw [heq]
  dsimp only
  rw [daysBeforeYear_succ hc hf ho, isLeap_succ hc hf ho]
  refine ⟨hn, ?_⟩
  rcases hrest with hrest | ⟨rfl, rfl, hlast⟩
  · split <;> omega
  · rw [if_pos (by simpa using hlast)]
    decide

end Years

namespace Date

/-- The day number of the date with a day number is this number, and the day falls into its month. -/
theorem ofDayNumber_spec (n : Nat) : (ofDayNumber n).dayNumber = n ∧
    (ofDayNumber n).year = (yearFrom n).1 + 1 ∧ 1 ≤ (ofDayNumber n).month ∧ (ofDayNumber n).month ≤ 12 ∧
    1 ≤ (ofDayNumber n).day ∧ (ofDayNumber n).day ≤ daysInMonth (ofDayNumber n).year (ofDayNumber n).month := by
  obtain ⟨hdays, hrest⟩ := yearFrom_spec n
  rw [← daysIn_monthLengths] at hrest
  obtain ⟨i, day, hfound, hi, hday, hsum⟩ := monthFrom_spec 1 hrest
  have hlength : ∀ leap, (monthLengths leap).length = 12 := by decide
  have hdate : ofDayNumber n = ⟨(yearFrom n).1 + 1, i + 1, day + 1⟩ := by
    unfold ofDayNumber
    dsimp only
    rw [hfound, Nat.add_comm 1 i]
  rw [hlength] at hi
  rw [hdate]
  refine ⟨?_, rfl, Nat.succ_pos i, hi, Nat.succ_pos day, hday⟩
  have hmonths : daysBeforeMonth (isLeap ((yearFrom n).1 + 1)) (i + 1) =
      daysIn ((monthLengths (isLeap ((yearFrom n).1 + 1))).take i) := rfl
  unfold dayNumber
  rw [hmonths, Nat.add_sub_cancel, Nat.add_assoc, hsum, hdays]

theorem dayNumber_ofDayNumber (n : Nat) : (ofDayNumber n).dayNumber = n := (ofDayNumber_spec n).1

theorem year_le {y n : Nat} (h : daysBeforeYear (y + 1) ≤ n) (hn : n < 3652059) : y + 1 ≤ 9999 := by
  unfold daysBeforeYear at h
  dsimp only at h
  omega

/-- Below the end of the calendar the date of a day number is a day of the calendar. -/
theorem valid_ofDayNumber {n : Nat} (hn : n < 3652059) : (ofDayNumber n).Valid := by
  obtain ⟨-, hyear, hmonth, hmonth', hday, hday'⟩ := ofDayNumber_spec n
  have hdays := (yearFrom_spec n).1
  refine ⟨by omega, ?_, hmonth, hmonth', hday, hday'⟩
  rw [hyear]
  exact year_le (n := n) (by omega) hn

end Date

end IssueBridge.Time
