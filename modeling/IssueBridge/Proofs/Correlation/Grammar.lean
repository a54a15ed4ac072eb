import IssueBridge.Proofs.Correlation.Token
import Mathlib.Data.List.Forall2
import Mathlib.Data.Nat.Digits.Defs

/-! # Which texts start with a token

A token is a run of decimal digits between two fixed texts. Its id is the decimal value of the digits, the highest place
first, whatever scripts they are of and however many zeros they start with. Other texts have no token.
-/

namespace IssueBridge

namespace Text

/-- The digits, each of which may be of another script, have the given values. -/
def Spells (digits : List Char) (values : List Nat) : Prop :=
  List.Forall₂ (fun c v => digitValue? c = some v) digits values

variable {digits : List Char} {values : List Nat}

theorem Spells.isDigit (h : Spells digits values) : ∀ c ∈ digits, isDigit c := by
  induction h with
  | nil => simp
  | cons hc _ ih =>
    rintro c (_ | ⟨_, hmem⟩)
    · exact isDigit_iff.mpr ⟨_, hc⟩
    · exact ih c hmem

theorem exists_spells : ∀ {digits : List Char}, (∀ c ∈ digits, isDigit c) → ∃ values, Spells digits values
  | [], _ => ⟨[], .nil⟩
  | c :: digits, h => by
    obtain ⟨v, hv⟩ := isDigit_iff.mp (h c List.mem_cons_self)
    obtain ⟨values, hvalues⟩ := exists_spells fun d hd => h d (List.mem_cons_of_mem c hd)
    exact ⟨v :: values, .cons hv hvalues⟩

theorem Spells.numberFrom_eq (h : Spells digits values) (n : Nat) :
    numberFrom n digits = Nat.ofDigits 10 values.reverse + 10 ^ values.length * n := by
  induction h generalizing n with
  | nil => simp [numberFrom]
  | @cons c v digits values hc _ ih =>
    have hstep : numberFrom n (c :: digits) = numberFrom (10 * n + v) digits := by
      simp [numberFrom, hc]
    rw [hstep, ih, List.reverse_cons, Nat.ofDigits_append, Nat.ofDigits_singleton, List.length_reverse,
      List.length_cons, Nat.pow_succ, Nat.mul_add, Nat.mul_assoc]
    omega

theorem Spells.number_eq (h : Spells digits values) : number digits = Nat.ofDigits 10 values.reverse :=
  (h.numberFrom_eq 0).trans (by simp)

end Text

namespace Correlation

open Text

variable {text : String} {values : List Nat}

/-- The text starts with a token whose digits have the given values. -/
def StartsWithToken (text : String) (values : List Nat) : Prop :=
  ∃ digits rest : String, text = "Comment [(ID " ++ digits ++ ")|" ++ rest ∧ Spells digits.toList values ∧ values ≠ []

theorem StartsWithToken.token?_eq (h : StartsWithToken text values) : token? (some text) =
    if values.length ≤ 4300 then .ok (some (Nat.ofDigits 10 values.reverse))
    else .error (.digitLimit values.length) := by
  obtain ⟨digits, rest, rfl, hspells, hne⟩ := h
  have hlength : digits.toList.length = values.length := hspells.length_eq
  have hdigits : tokenDigits? ("Comment [(ID " ++ digits ++ ")|" ++ rest).toList = some digits.toList := by
    refine tokenDigits?_eq_some_iff.mpr ⟨?_, hspells.isDigit, rest.toList, ?_⟩
    · rwa [ne_eq, ← List.length_eq_zero_iff, hlength, List.length_eq_zero_iff]
    · simp only [String.toList_append, List.append_assoc]
      rfl
  unfold token?
  rw [Option.getD_some, hdigits]
  dsimp only
  rw [hlength, hspells.number_eq]
  rfl

/-- Whatever is read comes from a token. -/
theorem exists_startsWithToken {body : Option String} (h : token? body ≠ .ok none) :
    ∃ text values, body = some text ∧ StartsWithToken text values := by
  unfold token? at h
  cases hdigits : tokenDigits? (body.getD "").toList with
  | none => exact absurd (by rw [hdigits]) h
  | some digits =>
    obtain ⟨hne, hall, rest, htext⟩ := tokenDigits?_eq_some_iff.mp hdigits
    obtain ⟨values, hspells⟩ := exists_spells hall
    cases body with
    | none => cases htext
    | some text =>
      refine ⟨text, values, rfl, String.ofList digits, String.ofList rest, ?_, ?_, ?_⟩
      · refine String.toList_injective (htext.trans ?_)
        simp only [String.toList_append, String.toList_ofList, List.append_assoc]
        rfl
      · rwa [String.toList_ofList]
      · rintro rfl
        exact hne (List.forall₂_nil_right_iff.mp hspells)

/-- A body has the id `n` exactly if it starts with a token of at most 4300 digits whose decimal value is `n`. It is
refused exactly if it starts with a token of more digits, and it has no id exactly if it is missing or does not start
with a token. -/
theorem tokens_are_recognised (body : Option String) :
    (∀ n, token? body = .ok (some n) ↔ ∃ text values, body = some text ∧ StartsWithToken text values ∧
      values.length ≤ 4300 ∧ Nat.ofDigits 10 values.reverse = n) ∧
    (∀ f, token? body = .error f ↔ ∃ text values, body = some text ∧ StartsWithToken text values ∧
      4300 < values.length ∧ f = .digitLimit values.length) ∧
    (token? body = .ok none ↔ ¬ ∃ text values, body = some text ∧ StartsWithToken text values) := by
  refine ⟨fun n => ⟨fun h => ?_, ?_⟩, fun f => ⟨fun h => ?_, ?_⟩, fun h => ?_, fun h => ?_⟩
  · have hread : token? body ≠ .ok none := by simp [h]
    obtain ⟨text, values, rfl, hstart⟩ := exists_startsWithToken hread
    rw [hstart.token?_eq] at h
    split at h
    · rename_i hlength
      exact ⟨text, values, rfl, hstart, hlength, by simpa using h⟩
    · cases h
  · rintro ⟨text, values, rfl, hstart, hlength, rfl⟩
    rw [hstart.token?_eq, if_pos hlength]
  · have hread : token? body ≠ .ok none := by simp [h]
    obtain ⟨text, values, rfl, hstart⟩ := exists_startsWithToken hread
    rw [hstart.token?_eq] at h
    split at h
    · cases h
    · rename_i hlength
      exact ⟨text, values, rfl, hstart, Nat.lt_of_not_le hlength, (Except.error.inj h).symm⟩
  · rintro ⟨text, values, rfl, hstart, hlength, rfl⟩
    rw [hstart.token?_eq, if_neg (Nat.not_le_of_lt hlength)]
  · rintro ⟨text, values, rfl, hstart⟩
    rw [hstart.token?_eq] at h
    split at h <;> cases h
  · by_contra hread
    exact h (exists_startsWithToken hread)

/-- Digits of two scripts, with a zero in front. -/
example : token? (some "Comment [(ID 0\u0664\uff12)|") = .ok (some 42) := rfl

/-- A sign is no digit. -/
example : token? (some "Comment [(ID -7)|") = .ok none := rfl

end Correlation

end IssueBridge
