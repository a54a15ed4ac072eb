import IssueBridge.Proofs.Text.Digits
import IssueBridge.Proofs.Time.Calendar
import IssueBridge.Time.Iso

/-! # Reading back what was written

A clock reading to the second is read back from its text.
-/

namespace IssueBridge.Number

structure Spelled (width n : Nat) (ds : List Char) : Prop where
  length : ds.length = width
  digits : ∀ c ∈ ds, isAsciiDigit c = true
  number : Text.number ds = n

theorem isAsciiDigit_of_isDigit {c : Char} (h : c.isDigit) : isAsciiDigit c = true := by
  have hc : '0' ≤ c ∧ c ≤ '9' := by
    simpa [Char.isDigit, Char.le_def] using h
  simp [isAsciiDigit, hc]

theorem number_zeros (k : Nat) (ds : List Char) : Text.number (List.replicate k '0' ++ ds) = Text.number ds := by
  induction k with
  | zero => rfl
  | succ k ih =>
    rw [List.replicate_succ, List.cons_append, ← ih]
    rfl

theorem spelled_padded {width n : Nat} (hwidth : 0 < width) (h : n < 10 ^ width) :
    Spelled width n (padded width n).toList := by
  have hds : digitsOf n = Nat.toDigits 10 n := Nat.toList_repr
  have hlength : (Nat.toDigits 10 n).length ≤ width := (Nat.length_toDigits_le_iff (by decide) hwidth).mpr h
  unfold padded
  rw [hds, String.toList_ofList]
  refine ⟨by simp; omega, fun c hc => ?_, (number_zeros _ _).trans (Text.number_digits n)⟩
  rcases List.mem_append.mp hc with hc | hc
  · rw [(List.mem_replicate.mp hc).2]
    decide
  · exact isAsciiDigit_of_isDigit (Text.isDigit_of_mem_digits hc)

end IssueBridge.Number

namespace IssueBridge.Time.Iso

open Number

variable {width n : Nat} {ds : List Char}

theorem fixedDigits_append (h : Spelled width n ds) (rest : List Char) :
    fixedDigits width (ds ++ rest) = some (n, rest) := by
  have htake : (ds ++ rest).take width = ds := List.take_left' h.length
  have hdrop : (ds ++ rest).drop width = rest := List.drop_left' h.length
  unfold fixedDigits
  dsimp only
  rw [htake, hdrop, if_pos ⟨h.length, List.all_eq_true.mpr h.digits⟩, h.number]

section Parts

variable {left : Nat} {colons : Option Bool} {hms : Nat × Nat × Nat}

theorem readParts_append (hpart : Spelled 2 n ds) (hcolons : colons.getD true = true) {c : Char} {more : List Char} :
    readParts (left + 1) colons hms (ds ++ ':' :: c :: more) =
      readParts left (some true) (setPart hms (2 - left) n) (c :: more) := by
  conv => lhs; unfold readParts
  rw [fixedDigits_append hpart]
  simp only [Option.bind_eq_bind, Option.bind_some, decide_true, hcolons, Bool.and_self, if_true]

theorem readParts_last (hpart : Spelled 2 n ds) : readParts (left + 1) colons hms ds =
    some ⟨(setPart hms (2 - left) n).1, (setPart hms (2 - left) n).2.1, (setPart hms (2 - left) n).2.2, 0, true⟩ := by
  have hread : fixedDigits 2 ds = some (n, []) := by simpa using fixedDigits_append hpart []
  unfold readParts
  rw [hread]
  rfl

variable {y m d : Nat} {Y M D : List Char}

theorem readDate_append (hy : Spelled 4 y Y) (hm : Spelled 2 m M) (hd : Spelled 2 d D) :
    readDate (Y ++ '-' :: (M ++ '-' :: D)) = some ⟨y, m, d⟩ := by
  have hday : fixedDigits 2 D = some (d, []) := by simpa using fixedDigits_append hd []
  have hmonth := fixedDigits_append hm ('-' :: D)
  unfold readDate
  rw [fixedDigits_append hy]
  simp only [Option.bind_eq_bind, Option.bind_some, List.head?_cons, decide_true, hyphen, if_true]
  split
  · rename_i rest hweek
    have hM : M ≠ [] := fun h => absurd (h ▸ hm.length) (by decide)
    obtain ⟨c, M', rfl⟩ := List.exists_cons_of_ne_nil hM
    obtain rfl : c = 'W' := (List.cons.inj hweek).1
    exact absurd (hm.digits _ List.mem_cons_self) (by decide)
  · rw [hmonth]
    simp only [Option.bind_some, hday, List.isEmpty_nil, if_true]

variable {h i s : Nat} {H I S : List Char}

theorem readClock_append (hh : Spelled 2 h H) (hi : Spelled 2 i I) (hs : Spelled 2 s S) :
    readClock (H ++ ':' :: (I ++ ':' :: S)) = some ⟨h, i, s, 0, true⟩ := by
  obtain ⟨c, I', rfl⟩ := List.exists_cons_of_ne_nil (l := I) fun h => absurd (h ▸ hi.length) (by decide)
  obtain ⟨c', S', rfl⟩ := List.exists_cons_of_ne_nil (l := S) fun h => absurd (h ▸ hs.length) (by decide)
  unfold readClock
  rw [List.cons_append, readParts_append hh rfl, ← List.cons_append, readParts_append hi rfl, readParts_last hs]
  rfl

def stamp (Y M D H I S : List Char) : List Char := (Y ++ '-' :: (M ++ '-' :: D)) ++ 'T' :: (H ++ ':' :: (I ++ ':' :: S))

theorem dateLength_hyphens (hy : Spelled 4 y Y) {c : Char} {rest : List Char} (hc : c ≠ 'W')
    (hlength : (Y ++ '-' :: c :: rest).length ≠ 7) : dateLength (Y ++ '-' :: c :: rest) = 10 := by
  have hafter (k : Nat) : (Y ++ '-' :: c :: rest).getD (4 + k) ' ' = ('-' :: c :: rest).getD k ' ' := by
    rw [List.getD_eq_getElem?_getD, List.getElem?_append_right (by rw [hy.length]; omega), hy.length,
      Nat.add_sub_cancel_left, List.getD_eq_getElem?_getD]
  have hhyphen : (Y ++ '-' :: c :: rest).getD 4 ' ' = '-' := hafter 0
  have hmonth : (Y ++ '-' :: c :: rest).getD 5 ' ' = c := hafter 1
  unfold dateLength
  dsimp only
  rw [if_neg hlength, if_pos hhyphen, if_neg fun h => hc (hmonth.symm.trans h)]

theorem isZoneMark_spelled (hd : Spelled width n ds) : ∀ c ∈ ds, isZoneMark c = false := by
  intro c hc
  have hdigit := hd.digits c hc
  rw [Bool.eq_false_iff]
  intro hmark
  unfold isZoneMark at hmark
  simp only [Bool.or_eq_true, decide_eq_true_eq] at hmark
  obtain (rfl | rfl) | rfl := hmark <;> exact absurd hdigit (by decide)

theorem readTime_append (hh : Spelled 2 h H) (hi : Spelled 2 i I) (hs : Spelled 2 s S) :
    readTime ((H ++ ':' :: (I ++ ':' :: S)) ++ "+00:00".toList) = some (⟨h, i, s, 0, true⟩, some .zero) := by
  have hclock : ∀ c ∈ H ++ ':' :: (I ++ ':' :: S), (!isZoneMark c) = true := by
    intro c hc
    simp only [List.mem_append, List.mem_cons] at hc
    rw [Bool.not_eq_true']
    obtain hc | rfl | hc | rfl | hc := hc
    · exact isZoneMark_spelled hh c hc
    · decide
    · exact isZoneMark_spelled hi c hc
    · decide
    · exact isZoneMark_spelled hs c hc
  have htake : ((H ++ ':' :: (I ++ ':' :: S)) ++ "+00:00".toList).takeWhile (fun c => !isZoneMark c) =
      H ++ ':' :: (I ++ ':' :: S) := by
    rw [List.takeWhile_append_of_pos hclock]
    exact List.append_nil _
  have hoffset : readOffset "+00:00".toList = some .zero := by rfl
  unfold readTime
  dsimp only
  rw [htake, List.drop_left, readClock_append hh hi hs]
  rfl

theorem mem_stamp (hy : Spelled 4 y Y) (hm : Spelled 2 m M) (hd : Spelled 2 d D) (hh : Spelled 2 h H)
    (hi : Spelled 2 i I) (hs : Spelled 2 s S) {c : Char} (hc : c ∈ stamp Y M D H I S) :
    isAsciiDigit c = true ∨ c = '-' ∨ c = 'T' ∨ c = ':' := by
  simp only [stamp, List.mem_append, List.mem_cons] at hc
  rcases hc with (hc | hc | hc | hc | hc) | hc | hc | hc | hc | hc | hc <;>
    first | simp [hc] | exact .inl (Spelled.digits ‹_› c hc)

theorem read_stamp {date : Date} (hy : Spelled 4 date.year Y) (hm : Spelled 2 date.month M) (hd : Spelled 2 date.day D)
    (hh : Spelled 2 h H) (hi : Spelled 2 i I) (hs : Spelled 2 s S) :
    read (stamp Y M D H I S ++ "+00:00".toList) = (Wall.ofParts? date h i s 0).map Timestamp.ofUniversal := by
  obtain ⟨c, M', rfl⟩ := List.exists_cons_of_ne_nil (l := M) fun h => absurd (h ▸ hm.length) (by decide)
  have hdate : (Y ++ '-' :: (c :: M' ++ '-' :: D)).length = 10 := by
    have hY := hy.length
    have hM := hm.length
    have hD := hd.length
    simp only [List.length_append, List.length_cons] at *
    omega
  have hmonth : c ≠ 'W' := fun h => absurd (hm.digits c List.mem_cons_self) (h ▸ by decide)
  obtain ⟨cs, hcs⟩ : ∃ cs, stamp Y (c :: M') D H I S ++ "+00:00".toList = cs := ⟨_, rfl⟩
  have hform : (Y ++ '-' :: (c :: M' ++ '-' :: D)) ++ 'T' :: ((H ++ ':' :: (I ++ ':' :: S)) ++ "+00:00".toList) = cs :=
    (List.append_assoc ..).symm.trans hcs
  have hlong : 10 ≤ cs.length := by
    rw [← hform, List.length_append, hdate]
    exact Nat.le_add_right ..
  have hlength : dateLength cs = 10 := by
    have hne : cs.length ≠ 7 := by omega
    rw [← hform, List.append_assoc] at hne ⊢
    exact dateLength_hyphens hy hmonth hne
  have htake : cs.take 10 = Y ++ '-' :: (c :: M' ++ '-' :: D) := hform ▸ List.take_left' hdate
  have hdrop : cs.drop 10 = 'T' :: ((H ++ ':' :: (I ++ ':' :: S)) ++ "+00:00".toList) :=
    hform ▸ List.drop_left' hdate
  rw [hcs]
  unfold read
  rw [if_neg (by omega)]
  dsimp only
  rw [hlength, htake, hdrop, readDate_append hy hm hd]
  simp only [Option.bind_eq_bind, Option.bind_some, readTime_append hh hi hs]
  exact Option.map_eq_bind.symm

end Parts

end IssueBridge.Time.Iso

namespace IssueBridge.Time

open Number

theorem daysInMonth_le (y m : Nat) : daysInMonth y m ≤ 31 := by
  have hall : ∀ leap, ∀ len ∈ monthLengths leap, len ≤ 31 := by decide
  unfold daysInMonth
  rw [List.getD_eq_getElem?_getD]
  cases hm : (monthLengths (isLeap y))[m - 1]? with
  | none => exact Nat.zero_le _
  | some len => exact hall _ len (List.mem_of_getElem? hm)

namespace Wall

variable (w : Wall)

theorem valid_date : w.date.Valid := by
  refine Date.valid_ofDayNumber (Nat.div_lt_of_lt_mul ?_)
  rw [Nat.mul_comm]
  exact w.lt_limit

theorem hour_lt : w.hour < 24 := by unfold hour secondOfDay; omega

theorem minute_lt : w.minute < 60 := Nat.mod_lt _ (by decide)

theorem second_lt : w.second < 60 := Nat.mod_lt _ (by decide)

theorem ofParts?_parts : ofParts? w.date w.hour w.minute w.second w.micro = some w := by
  have hsum : (((w.micros / microsPerDay * 24 + w.hour) * 60 + w.minute) * 60 + w.second) * microsPerSecond +
      w.micro = w.micros := by
    unfold hour minute second micro secondOfDay microsPerDay microsPerSecond
    omega
  have hdays : w.date.dayNumber = w.micros / microsPerDay := Date.dayNumber_ofDayNumber _
  unfold ofParts?
  rw [if_pos ⟨w.valid_date, w.hour_lt, w.minute_lt, w.second_lt, Nat.mod_lt _ (by decide)⟩]
  dsimp only
  rw [hdays, hsum]
  exact dif_pos ⟨Int.natCast_nonneg _, Int.ofNat_lt.mpr w.lt_limit⟩

theorem exists_text_eq_stamp (h : w.micro = 0) : ∃ Y M D H I S, w.text.toList = Iso.stamp Y M D H I S ∧
    Spelled 4 w.date.year Y ∧ Spelled 2 w.date.month M ∧ Spelled 2 w.date.day D ∧
    Spelled 2 w.hour H ∧ Spelled 2 w.minute I ∧ Spelled 2 w.second S := by
  obtain ⟨-, hyear, -, hmonth, -, hday⟩ := w.valid_date
  have hday' := daysInMonth_le w.date.year w.date.month
  have hhour := w.hour_lt
  have hminute := w.minute_lt
  have hsecond := w.second_lt
  refine ⟨_, _, _, _, _, _, ?_, spelled_padded (by decide) (by omega), spelled_padded (by decide) (by omega),
    spelled_padded (by decide) (by omega), spelled_padded (by decide) (by omega),
    spelled_padded (by decide) (by omega), spelled_padded (by decide) (by omega)⟩
  unfold Iso.stamp text dateText clockText
  dsimp only
  rw [if_pos h]
  simp

end Wall

end IssueBridge.Time
