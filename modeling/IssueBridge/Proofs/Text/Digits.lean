import IssueBridge.Correlation.Query
import Mathlib.Algebra.Group.Nat.Defs

/-! # Numbers written in digits

A number that is written in ASCII digits is read back as itself, and it is written in no more digits
than it can be read from.
-/

namespace IssueBridge.Text

theorem digitValue?_of_isDigit {c : Char} (h : c.isDigit) :
    digitValue? c = some (c.toNat - '0'.toNat) := by
  have hc : '0' ≤ c ∧ c ≤ '9' := by
    simpa [Char.isDigit, Char.le_def] using h
  have h9 : c.toNat ≤ '9'.toNat := hc.2
  have h57 : '9'.toNat = 57 := rfl
  rw [digitValue?, if_pos (by omega), if_pos hc]
  rfl

theorem isDigit_of_isDigit {c : Char} (h : c.isDigit) : isDigit c := by
  rw [isDigit, digitValue?_of_isDigit h]
  rfl

theorem numberFrom_eq_ofDigitChars {ds : List Char} (h : ∀ c ∈ ds, c.isDigit) (n : Nat) :
    numberFrom n ds = Nat.ofDigitChars 10 ds n := by
  induction ds generalizing n with
  | nil => simp [numberFrom]
  | cons c ds ih =>
    rw [Nat.ofDigitChars_cons, ← ih fun d hd => h d (List.mem_cons_of_mem c hd)]
    simp [numberFrom, digitValue?_of_isDigit (h c List.mem_cons_self)]

theorem isDigit_of_mem_digits {n : Nat} {c : Char} (h : c ∈ Nat.toDigits 10 n) : c.isDigit :=
  Nat.isDigit_of_mem_toDigits (by decide) (by decide) h

theorem number_digits (n : Nat) : number (Nat.toDigits 10 n) = n := by
  rw [number, numberFrom_eq_ofDigitChars fun _ => isDigit_of_mem_digits]
  exact Nat.ofDigitChars_ten_toDigits

theorem toString_inj {m n : Nat} (h : toString m = toString n) : m = n := by
  have hdigits : Nat.toDigits 10 m = Nat.toDigits 10 n := by
    rw [← Nat.toList_repr, ← Nat.toList_repr]
    exact congrArg String.toList h
  rw [← number_digits m, hdigits, number_digits]

theorem numberFrom_lt (ds : List Char) (n : Nat) :
    numberFrom n ds < 10 ^ ds.length * (n + 1) := by
  induction ds generalizing n with
  | nil => simp [numberFrom]
  | cons c ds ih =>
    have hd : (digitValue? c).getD 0 < 10 := by
      cases h : digitValue? c with
      | none => simp
      | some d => exact digitValue?_lt h
    calc numberFrom n (c :: ds) = numberFrom (10 * n + (digitValue? c).getD 0) ds := rfl
      _ < 10 ^ ds.length * (10 * n + (digitValue? c).getD 0 + 1) := ih _
      _ ≤ 10 ^ ds.length * (10 * (n + 1)) := Nat.mul_le_mul_left _ (by omega)
      _ = 10 ^ (ds.length + 1) * (n + 1) := by rw [Nat.pow_succ, Nat.mul_assoc]

theorem number_lt (ds : List Char) : number ds < 10 ^ ds.length := by
  simpa [number] using numberFrom_lt ds 0

theorem length_digits_number_le {ds : List Char} (h : ds ≠ []) :
    (Nat.toDigits 10 (number ds)).length ≤ ds.length :=
  (Nat.length_toDigits_le_iff (by decide) (List.length_pos_iff.mpr h)).mpr (number_lt ds)

theorem toList_ofNat (n : Nat) : (toString (n : Int)).toList = Nat.toDigits 10 n := by
  rw [Int.toString_eq_repr]
  exact Nat.toList_repr

theorem toList_negSucc (n : Nat) :
    (toString (Int.negSucc n)).toList = '-' :: Nat.toDigits 10 (n + 1) := by
  rw [Int.toString_eq_repr]
  show ("-" ++ Nat.repr (n + 1)).toList = _
  rw [String.toList_append, Nat.toList_repr]
  rfl

/-- What stands before the first character that ends a run, and what follows. -/
theorem takeWhile_run {p : Char → Bool} {l : List Char} (hl : ∀ c ∈ l, p c) {c : Char}
    (hc : p c = false) (rest : List Char) : (l ++ c :: rest).takeWhile p = l := by
  rw [List.takeWhile_append_of_pos hl, List.takeWhile_cons_of_neg (by simp [hc]), List.append_nil]

end IssueBridge.Text

namespace IssueBridge.Correlation

theorem dropStart?_append (start rest : List Char) :
    dropStart? start (start ++ rest) = some rest := by
  rw [dropStart?, if_pos (by simp), List.drop_left]

theorem eq_append_of_dropStart? {start cs rest : List Char} (h : dropStart? start cs = some rest) :
    cs = start ++ rest := by
  unfold dropStart? at h
  split at h
  · rename_i hp
    obtain ⟨t, rfl⟩ := List.isPrefixOf_iff_prefix.mp hp
    rw [List.drop_left, Option.some.injEq] at h
    rw [h]
  · cases h

end IssueBridge.Correlation
