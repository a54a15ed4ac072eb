import IssueBridge.Proofs.Time.Iso
import Mathlib.Tactic.Ring

/-! # Chronological and lexicographic order

Years, months, days and times of day are written in digits of fixed number, the longest period first.
So the texts of clock readings stand in the order of the readings.
-/

namespace IssueBridge.Number

open Text

section Digits

variable {c d : Char} {ds es us vs : List Char}

theorem digitValue?_of_isAsciiDigit (h : isAsciiDigit c = true) : digitValue? c = some (c.toNat - 48) := by
  unfold isAsciiDigit at h
  simp only [Bool.and_eq_true, decide_eq_true_eq] at h
  have h9 : c.toNat ≤ 57 := h.2
  unfold digitValue?
  rw [if_pos (by omega), if_pos h]

theorem toNat_of_isAsciiDigit (h : isAsciiDigit c = true) : 48 ≤ c.toNat ∧ c.toNat ≤ 57 := by
  unfold isAsciiDigit at h
  simp only [Bool.and_eq_true, decide_eq_true_eq] at h
  exact h

/-- The first digit counts as often as there are numbers of the digits after it. -/
theorem numberFrom_eq (n : Nat) (ds : List Char) : numberFrom n ds = n * 10 ^ ds.length + number ds := by
  unfold number
  induction ds generalizing n with
  | nil => simp [numberFrom]
  | cons c ds ih =>
    change numberFrom (10 * n + (digitValue? c).getD 0) ds = _ + numberFrom (10 * 0 + (digitValue? c).getD 0) ds
    rw [ih, ih (10 * 0 + _), List.length_cons, Nat.pow_succ]
    ring

theorem number_cons (h : isAsciiDigit c = true) (ds : List Char) :
    number (c :: ds) = (c.toNat - 48) * 10 ^ ds.length + number ds := by
  rw [← numberFrom_eq]
  unfold number numberFrom
  rw [List.foldl_cons, digitValue?_of_isAsciiDigit h, Nat.mul_zero, Nat.zero_add, Option.getD_some]

/-- What is counted in units of `k` decides first, the rest below `k` only among equals. -/
theorem mul_add_lt_iff {k x y m n : Nat} (hm : m < k) (hn : n < k) :
    x * k + m < y * k + n ↔ x < y ∨ x = y ∧ m < n := by
  rcases Nat.lt_trichotomy x y with hxy | rfl | hxy
  · have hstep : (x + 1) * k ≤ y * k := Nat.mul_le_mul_right k hxy
    rw [Nat.succ_mul] at hstep
    omega
  · omega
  · have hstep : (y + 1) * k ≤ x * k := Nat.mul_le_mul_right k hxy
    rw [Nat.succ_mul] at hstep
    omega

theorem mul_add_eq_iff {k x y m n : Nat} (hm : m < k) (hn : n < k) :
    x * k + m = y * k + n ↔ x = y ∧ m = n := by
  have hlt := mul_add_lt_iff (x := x) (y := y) hm hn
  have hgt := mul_add_lt_iff (x := y) (y := x) hn hm
  omega

/-- Of two numbers in as many digits, the first digit that differs tells which is smaller. -/
theorem number_cons_lt_iff (hc : isAsciiDigit c = true) (hd : isAsciiDigit d = true)
    (hlength : ds.length = es.length) :
    (number (c :: ds) < number (d :: es) ↔ c < d ∨ c = d ∧ number ds < number es) ∧
      (number (c :: ds) = number (d :: es) ↔ c = d ∧ number ds = number es) := by
  have hds := number_lt ds
  have hes := number_lt es
  rw [← hlength] at hes
  have hc48 := (toNat_of_isAsciiDigit hc).1
  have hd48 := (toNat_of_isAsciiDigit hd).1
  have hlt : c < d ↔ c.toNat - 48 < d.toNat - 48 := by
    change c.toNat < d.toNat ↔ _
    omega
  have heq : c = d ↔ c.toNat - 48 = d.toNat - 48 := by
    rw [← Char.toNat_inj]
    omega
  rw [number_cons hc, number_cons hd, ← hlength, hlt, heq]
  exact ⟨mul_add_lt_iff hds hes, mul_add_eq_iff hds hes⟩

theorem Spelled.append_lt_append_iff {width m n : Nat} (h : Spelled width m ds) (h' : Spelled width n es) :
    ds ++ us < es ++ vs ↔ m < n ∨ m = n ∧ us < vs := by
  obtain ⟨hlength, hds, rfl⟩ := h
  obtain ⟨hlength', hes, rfl⟩ := h'
  induction ds generalizing es width with
  | nil =>
    obtain rfl : es = [] := List.eq_nil_of_length_eq_zero (hlength'.trans hlength.symm)
    simp
  | cons c ds ih =>
    obtain ⟨d, es, rfl⟩ := List.exists_cons_of_ne_nil (l := es) (by rintro rfl; simp [← hlength] at hlength')
    have hsame : ds.length = es.length := Nat.succ.inj (hlength.trans hlength'.symm)
    have hrest := ih rfl (fun c hc => hds c (List.mem_cons_of_mem _ hc)) hsame.symm
      fun c hc => hes c (List.mem_cons_of_mem _ hc)
    obtain ⟨hlt, heq⟩ := number_cons_lt_iff (hds c List.mem_cons_self) (hes d List.mem_cons_self) hsame
    rw [List.cons_append, List.cons_append, List.cons_lt_cons_iff, hrest, hlt, heq, and_or_left, or_assoc, and_assoc]

end Digits

end IssueBridge.Number

namespace IssueBridge.Time

section Dates

attribute [ext] Date

theorem daysBeforeYear_add_one {y : Nat} (h : 1 ≤ y) :
    daysBeforeYear (y + 1) = daysBeforeYear y + if isLeap y then 366 else 365 := by
  obtain ⟨p, rfl⟩ := Nat.exists_eq_add_of_le' h
  have hle : p / 100 ≤ p / 4 := Nat.div_le_div_left (by decide) (by decide)
  have hfour : (p + 1) / 4 = p / 4 + if (p + 1) % 4 = 0 then 1 else 0 := by split <;> omega
  have hundred : (p + 1) / 100 = p / 100 + if (p + 1) % 100 = 0 then 1 else 0 := by split <;> omega
  have hcycle : (p + 1) / 400 = p / 400 + if (p + 1) % 400 = 0 then 1 else 0 := by split <;> omega
  have hnested : ((p + 1) % 100 = 0 → (p + 1) % 4 = 0) ∧ ((p + 1) % 400 = 0 → (p + 1) % 100 = 0) := by omega
  unfold daysBeforeYear isLeap
  simp only [Nat.add_sub_cancel, hfour, hundred, hcycle, Bool.and_eq_true, Bool.or_eq_true, decide_eq_true_eq, ne_eq]
  generalize p / 4 = a, p / 100 = b, p / 400 = c at *
  by_cases h4 : (p + 1) % 4 = 0 <;> by_cases h100 : (p + 1) % 100 = 0 <;> by_cases h400 : (p + 1) % 400 = 0 <;>
    simp_all <;> omega

theorem daysBeforeYear_mono {y z : Nat} (hy : 1 ≤ y) (h : y ≤ z) : daysBeforeYear y ≤ daysBeforeYear z := by
  induction z, h using Nat.le_induction with
  | base => exact Nat.le_refl _
  | succ z hz ih =>
    rw [daysBeforeYear_add_one (hy.trans hz)]
    exact ih.trans (Nat.le_add_right ..)

theorem daysIn_take_succ : ∀ (lengths : List Nat) (i : Nat),
    daysIn (lengths.take (i + 1)) = daysIn (lengths.take i) + lengths.getD i 0
  | [], _ => by simp [daysIn]
  | len :: lengths, 0 => by simp [daysIn]
  | len :: lengths, i + 1 => by
    rw [List.take_succ_cons, List.take_succ_cons, daysIn_cons, daysIn_cons, daysIn_take_succ lengths i,
      List.getD_cons_succ, Nat.add_assoc]

theorem daysBeforeMonth_add_one {m : Nat} (leap : Bool) (h : 1 ≤ m) :
    daysBeforeMonth leap (m + 1) = daysBeforeMonth leap m + (monthLengths leap).getD (m - 1) 0 := by
  obtain ⟨i, rfl⟩ := Nat.exists_eq_add_of_le' h
  exact daysIn_take_succ _ i

theorem daysBeforeMonth_mono {m n : Nat} (leap : Bool) (hm : 1 ≤ m) (h : m ≤ n) :
    daysBeforeMonth leap m ≤ daysBeforeMonth leap n := by
  induction n, h using Nat.le_induction with
  | base => exact Nat.le_refl _
  | succ n hn ih =>
    rw [daysBeforeMonth_add_one leap (hm.trans hn)]
    exact ih.trans (Nat.le_add_right ..)

namespace Date

variable {d e : Date}

/-- The date comes first: in an earlier year, or in an earlier month of the year, or earlier in the month. -/
def Before (d e : Date) : Prop :=
  d.year < e.year ∨ d.year = e.year ∧ (d.month < e.month ∨ d.month = e.month ∧ d.day < e.day)

theorem Valid.dayOfYear_lt (h : d.Valid) :
    daysBeforeMonth (isLeap d.year) d.month + (d.day - 1) < daysBeforeMonth (isLeap d.year) (d.month + 1) := by
  obtain ⟨-, -, hmonth, -, hday, hday'⟩ := h
  rw [daysBeforeMonth_add_one _ hmonth]
  unfold daysInMonth at hday'
  omega

theorem Valid.dayNumber_lt (h : d.Valid) : d.dayNumber < daysBeforeYear (d.year + 1) := by
  have hmonth := h.dayOfYear_lt
  have hyear : daysBeforeMonth (isLeap d.year) (d.month + 1) ≤ daysBeforeMonth (isLeap d.year) 13 :=
    daysBeforeMonth_mono _ (by omega) (by have := h.2.2.2.1; omega)
  have hlength : ∀ leap, daysBeforeMonth leap 13 = if leap then 366 else 365 := by decide
  rw [hlength] at hyear
  rw [daysBeforeYear_add_one h.1]
  unfold dayNumber
  omega

theorem Before.dayNumber_lt (h : d.Before e) (hd : d.Valid) : d.dayNumber < e.dayNumber := by
  obtain hyear | ⟨hyear, hmonth | ⟨hmonth, hday⟩⟩ := h
  · have hend := hd.dayNumber_lt
    have hstart := daysBeforeYear_mono (Nat.le_add_left 1 d.year) hyear
    unfold dayNumber at hend ⊢
    omega
  · have hend := hd.dayOfYear_lt
    have hstart := daysBeforeMonth_mono (isLeap d.year) (Nat.le_add_left 1 d.month) hmonth
    unfold dayNumber
    rw [← hyear]
    omega
  · have hfirst := hd.2.2.2.2.1
    unfold dayNumber
    rw [← hyear, ← hmonth]
    omega

theorem before_trichotomy (d e : Date) : d.Before e ∨ d = e ∨ e.Before d := by
  obtain ⟨y, m, n⟩ := d
  obtain ⟨y', m', n'⟩ := e
  unfold Before
  simp only [mk.injEq]
  omega

/-- Days of the calendar are numbered in their order. -/
theorem dayNumber_lt_iff (hd : d.Valid) (he : e.Valid) : d.dayNumber < e.dayNumber ↔ d.Before e := by
  constructor
  · intro h
    rcases before_trichotomy d e with hbefore | rfl | hafter
    · exact hbefore
    · exact absurd h (Nat.lt_irrefl _)
    · exact absurd (h.trans (hafter.dayNumber_lt he)) (Nat.lt_irrefl _)
  · exact fun h => h.dayNumber_lt hd

theorem dayNumber_inj (hd : d.Valid) (he : e.Valid) : d.dayNumber = e.dayNumber ↔ d = e := by
  constructor
  · intro h
    rcases before_trichotomy d e with hbefore | rfl | hafter
    · exact absurd h (hbefore.dayNumber_lt hd).ne
    · rfl
    · exact absurd h (hafter.dayNumber_lt he).ne'
  · rintro rfl
    rfl

end Date

end Dates

namespace Wall

variable (v w : Wall)

def seconds : Nat := w.micros / microsPerSecond

theorem seconds_eq : w.seconds = ((w.date.dayNumber * 24 + w.hour) * 60 + w.minute) * 60 + w.second := by
  have hdays : w.date.dayNumber = w.micros / microsPerDay := Date.dayNumber_ofDayNumber _
  rw [hdays]
  unfold seconds hour minute second secondOfDay microsPerDay microsPerSecond
  omega

/-- The reading falls on an earlier date, or on the same one at an earlier time of day. -/
def Before (v w : Wall) : Prop :=
  v.date.Before w.date ∨ v.date = w.date ∧ (v.hour < w.hour ∨ v.hour = w.hour ∧ (v.minute < w.minute ∨
    v.minute = w.minute ∧ v.second < w.second))

theorem seconds_lt_iff : v.seconds < w.seconds ↔ v.Before w := by
  have hv := v.hour_lt
  have hv' := v.minute_lt
  have hv'' := v.second_lt
  have hw := w.hour_lt
  have hw' := w.minute_lt
  have hw'' := w.second_lt
  rw [seconds_eq, seconds_eq]
  unfold Before
  rw [← Date.dayNumber_lt_iff v.valid_date w.valid_date, ← Date.dayNumber_inj v.valid_date w.valid_date]
  omega

variable {v w}

theorem seconds_floorSecond : w.floorSecond.seconds = w.seconds := Nat.mul_div_cancel _ (by decide)

/-- Texts to the second stand in the order of the seconds, whatever closes them. -/
theorem text_append_lt_iff (hv : v.micro = 0) (hw : w.micro = 0) (rest : List Char) :
    v.text.toList ++ rest < w.text.toList ++ rest ↔ v.seconds < w.seconds := by
  obtain ⟨Y, M, D, H, I, S, hstamp, hy, hm, hd, hh, hi, hs⟩ := v.exists_text_eq_stamp hv
  obtain ⟨Y', M', D', H', I', S', hstamp', hy', hm', hd', hh', hi', hs'⟩ := w.exists_text_eq_stamp hw
  have hmark (c : Char) (us vs : List Char) : c :: us < c :: vs ↔ us < vs := by simp
  have hdate : v.date = w.date ↔
      v.date.year = w.date.year ∧ v.date.month = w.date.month ∧ v.date.day = w.date.day := Date.ext_iff
  rw [hstamp, hstamp', seconds_lt_iff]
  unfold Iso.stamp Before Date.Before
  simp only [List.append_assoc, List.cons_append, hmark, hy.append_lt_append_iff hy', hm.append_lt_append_iff hm',
    hd.append_lt_append_iff hd', hh.append_lt_append_iff hh', hi.append_lt_append_iff hi', hs.append_lt_append_iff hs',
    List.lt_irrefl, hdate, and_or_left, or_assoc, and_assoc, and_false, or_false]

end Wall

end IssueBridge.Time
