import IssueBridge.GitHub.Reading
import IssueBridge.Proofs.Text.Digits

/-! # Whole numbers in deliveries

The reader refuses whole numbers with too many digits, and the machine that builds a value out of tokens
adds none. So every whole number of a value that was read keeps the limit.
-/

namespace IssueBridge

open Text

def Short (n : Int) : Prop := n.natAbs < 10 ^ maxDigits

theorem short_of_lt {n : Int} (h : n.natAbs < 10 ^ 19) : Short n :=
  Nat.lt_of_lt_of_le h (Nat.pow_le_pow_right (by decide) (by decide))

theorem short_signed {negative : Bool} {ds : List Char} (h : ds.length ≤ maxDigits) :
    Short (Number.signed negative (number ds)) := by
  have hlt : number ds < 10 ^ maxDigits :=
    Nat.lt_of_lt_of_le (number_lt ds) (Nat.pow_le_pow_right (by decide) h)
  unfold Short Number.signed
  split
  · rwa [Int.natAbs_neg, Int.natAbs_natCast]
  · rwa [Int.natAbs_natCast]

theorem Short.length_digits {n : Int} (h : Short n) :
    (Nat.toDigits 10 n.toNat).length ≤ maxDigits := by
  refine (Nat.length_toDigits_le_iff (by decide) (by decide)).mpr ?_
  exact Nat.lt_of_le_of_lt (by omega) h

inductive Value.Limited : Value → Prop
  | int {n : Int} (h : Short n) : Limited (.int n)
  | arr {items : List Value} (h : ∀ v ∈ items, Limited v) : Limited (.arr items)
  | obj {fs : Fields} (h : ∀ p ∈ fs, Limited p.2) : Limited (.obj fs)
  | null : Limited .null
  | bool (b : Bool) : Limited (.bool b)
  | float (x : Float) : Limited (.float x)
  | str (s : String) : Limited (.str s)
  | brokenText (s : String) : Limited (.brokenText s)

namespace Json

section Tokens

variable {rules : Rules} {c : Char} {cs rest more : List Char} {t : Token} {v : Value}

/-- A token that stands for a value stands for one that keeps the limit. -/
def Token.Limited (t : Token) : Prop := ∀ v, t = .scalar v → v.Limited

theorem limited_readNumber (hr : rules.digits = maxDigits) (h : readNumber rules cs = some v) :
    v.Limited := by
  unfold readNumber at h
  split at h
  rename_i negative body _
  dsimp only at h
  split at h
  · cases h
  · split at h
    · split at h
      · rw [← Option.some.inj h]
        exact .int (short_signed (by omega))
      · cases h
    · obtain ⟨d, -, h⟩ := Option.bind_eq_some_iff.mp h
      split at h
      · cases h
      · rw [← Option.some.inj h]
        exact .float _

theorem limited_readName (h : readName cs = some (v, more)) : v.Limited := by
  unfold readName named at h
  obtain ⟨⟨name, value⟩, hmem, h⟩ := List.exists_of_findSome?_eq_some h
  dsimp only at h
  split at h
  · rw [← (Prod.mk.inj (Option.some.inj h)).1]
    simp only [List.mem_cons, Prod.mk.injEq, List.not_mem_nil, or_false] at hmem
    rcases hmem with ⟨-, rfl⟩ | ⟨-, rfl⟩ | ⟨-, rfl⟩ | ⟨-, rfl⟩ | ⟨-, rfl⟩ | ⟨-, rfl⟩
    · exact .null
    · exact .bool _
    · exact .bool _
    · exact .float _
    · exact .float _
    · exact .float _
  · cases h

theorem limited_readToken (hr : rules.digits = maxDigits) (h : readToken rules c rest = some (t, more)) :
    t.Limited := by
  have hplain : ∀ {t' : Token}, some (t', rest) = some (t, more) → (∀ v, t' ≠ .scalar v) → t.Limited := by
    intro t' heq hne v hv
    rw [← (Prod.mk.inj (Option.some.inj heq)).1] at hv
    exact absurd hv (hne v)
  unfold readToken at h
  split at h
  · exact hplain h fun _ => Token.noConfusion
  · exact hplain h fun _ => Token.noConfusion
  · exact hplain h fun _ => Token.noConfusion
  · exact hplain h fun _ => Token.noConfusion
  · exact hplain h fun _ => Token.noConfusion
  · exact hplain h fun _ => Token.noConfusion
  · obtain ⟨⟨s, _⟩, -, h⟩ := Option.map_eq_some_iff.mp h
    obtain ⟨rfl, -⟩ := Prod.mk.inj h
    intro v hv
    rw [← Token.scalar.inj hv]
    unfold Spelled.value
    split
    · exact .brokenText _
    · exact .str _
  · split at h
    · rename_i value more' hname
      obtain ⟨rfl, -⟩ := Prod.mk.inj (Option.some.inj h)
      intro v hv
      rw [← Token.scalar.inj hv]
      exact limited_readName hname
    · obtain ⟨value, hnumber, h⟩ := Option.map_eq_some_iff.mp h
      obtain ⟨rfl, -⟩ := Prod.mk.inj h
      intro v hv
      rw [← Token.scalar.inj hv]
      exact limited_readNumber hr hnumber

theorem limited_tokens (hr : rules.digits = maxDigits) (cs : List Char) :
    ∀ t ∈ tokens rules cs, t.Limited := by
  have hjunk : Token.Limited .junk := fun v hv => Token.noConfusion hv
  fun_induction tokens rules cs with
  | case1 => exact fun _ ht => by cases ht
  | case2 c rest hspace ih => exact ih
  | case3 c rest hspace hnone => exact fun t ht => List.mem_singleton.mp ht ▸ hjunk
  | case4 c rest hspace t more hsome hlen ih =>
    intro t' ht'
    rcases List.mem_cons.mp ht' with rfl | ht'
    · exact limited_readToken hr hsome
    · exact ih t' ht'
  | case5 c rest hspace t more hsome hlen => exact fun t ht => List.mem_singleton.mp ht ▸ hjunk

end Tokens

section Machine

/-- What a container that is still open holds keeps the limit. -/
def Frame.Limited : Frame → Prop
  | .array items => ∀ v ∈ items, v.Limited
  | .object members _ => ∀ p ∈ members, p.2.Limited

structure Machine.Limited (m : Machine) : Prop where
  frames : ∀ f ∈ m.frames, f.Limited
  result : ∀ v, m.result = some v → v.Limited

namespace Machine.Limited

variable {m m' : Machine} {t : Token} {v : Value} {depth : Nat} {n : String}

theorem put (h : m.Limited) (hv : v.Limited) : (m.put v).Limited := by
  unfold Machine.put
  split
  · exact ⟨fun _ hf => (by cases hf), fun v' hv' => Option.some.inj hv' ▸ hv⟩
  · rename_i items rest hframes
    have hframe : Frame.Limited (.array items) := h.frames _ (hframes ▸ List.mem_cons_self)
    refine ⟨fun f hf => ?_, fun v' hv' => by cases hv'⟩
    rcases List.mem_cons.mp hf with rfl | hf
    · intro v' hv'
      rcases List.mem_cons.mp hv' with rfl | hv'
      · exact hv
      · exact hframe v' hv'
    · exact h.frames f (hframes ▸ List.mem_cons_of_mem _ hf)
  · rename_i fs n rest hframes
    have hframe : Frame.Limited (.object fs n) := h.frames _ (hframes ▸ List.mem_cons_self)
    refine ⟨fun f hf => ?_, fun v' hv' => by cases hv'⟩
    rcases List.mem_cons.mp hf with rfl | hf
    · intro p hp
      rcases List.mem_cons.mp hp with rfl | hp
      · exact hv
      · exact hframe p hp
    · exact h.frames f (hframes ▸ List.mem_cons_of_mem _ hf)

theorem push {f : Frame} (h : m.Limited) (hf : f.Limited) (next : Expect) : (m.push f next).Limited where
  frames f' hf' := by
    rcases List.mem_cons.mp hf' with rfl | hf'
    · exact hf
    · exact h.frames f' hf'
  result _ hv := by cases hv

theorem close (h : m.Limited) (hc : m.close t = .ok m') : m'.Limited := by
  have hrest : ∀ {f : Frame} {rest : List Frame}, m.frames = f :: rest →
      Machine.Limited { m with frames := rest } := fun hframes =>
    ⟨fun f' hf' => h.frames f' (hframes ▸ List.mem_cons_of_mem _ hf'), h.result⟩
  unfold Machine.close at hc
  split at hc
  · rename_i items rest hframes
    have hframe : Frame.Limited (.array items) := h.frames _ (hframes ▸ List.mem_cons_self)
    rw [← Except.ok.inj hc]
    exact (hrest hframes).put (.arr fun v hv => hframe v (List.mem_reverse.mp hv))
  · rename_i fs n rest hframes
    have hframe : Frame.Limited (.object fs n) := h.frames _ (hframes ▸ List.mem_cons_self)
    rw [← Except.ok.inj hc]
    exact (hrest hframes).put (.obj fun p hp => hframe p (List.mem_reverse.mp hp))
  · cases hc

theorem openValue (h : m.Limited) (ht : t.Limited) (ho : m.openValue depth t = .ok m') : m'.Limited := by
  unfold Machine.openValue at ho
  have hcase : ∀ {next : Machine} {object : Bool}, next.Limited →
      (if m.frames.length ≤ depth then .ok next else .error (.tooDeep object)) = (.ok m' : Except Fault _) →
      m'.Limited := by
    intro next object hn hif
    split at hif
    · rw [← Except.ok.inj hif]
      exact hn
    · cases hif
  cases t with
  | scalar v => exact hcase (h.put (ht v rfl)) ho
  | openArray => exact hcase (h.push (f := .array []) (fun _ hv => by cases hv) _) ho
  | openObject => exact hcase (h.push (f := .object [] "") (fun _ hp => by cases hp) _) ho
  | _ => cases ho

theorem rename (h : m.Limited) (hr : m.rename n = .ok m') : m'.Limited := by
  unfold Machine.rename at hr
  split at hr
  · rename_i fs old rest hframes
    have hframe : Frame.Limited (.object fs old) := h.frames _ (hframes ▸ List.mem_cons_self)
    rw [← Except.ok.inj hr]
    refine ⟨fun f hf => ?_, fun _ hv => by cases hv⟩
    rcases List.mem_cons.mp hf with rfl | hf
    · exact hframe
    · exact h.frames f (hframes ▸ List.mem_cons_of_mem _ hf)
  · cases hr

theorem readName (h : m.Limited) (hr : m.readName t = .ok m') : m'.Limited := by
  unfold Machine.readName at hr
  split at hr
  · exact h.rename hr
  · exact h.rename hr
  · cases hr

theorem expecting (h : m.Limited) (e : Expect) : Machine.Limited { m with expect := e } :=
  ⟨h.frames, h.result⟩

theorem afterComma (h : m.Limited) (ha : m.afterComma = .ok m') : m'.Limited := by
  unfold Machine.afterComma at ha
  split at ha
  · exact Except.ok.inj ha ▸ h.expecting _
  · exact Except.ok.inj ha ▸ h.expecting _
  · cases ha

theorem step (h : m.Limited) (ht : t.Limited) (hs : Machine.step depth m t = .ok m') : m'.Limited := by
  unfold Machine.step at hs
  split at hs
  · exact h.openValue ht hs
  · exact h.close hs
  · exact h.openValue ht hs
  · exact h.close hs
  · exact h.readName hs
  · exact h.readName hs
  · exact Except.ok.inj hs ▸ h.expecting _
  · exact h.afterComma hs
  · exact h.close hs
  · cases hs

theorem foldlM : ∀ {ts : List Token} {m : Machine}, m.Limited → (∀ t ∈ ts, t.Limited) →
    ts.foldlM (Machine.step depth) m = .ok m' → m'.Limited
  | [], _, h, _, hs => Except.ok.inj hs ▸ h
  | t :: ts, m, h, ht, hs => by
    rw [List.foldlM_cons] at hs
    cases hm : Machine.step depth m t with
    | error f =>
      rw [hm] at hs
      cases hs
    | ok m₁ =>
      rw [hm] at hs
      exact foldlM (h.step (ht t List.mem_cons_self) hm)
        (fun t' ht' => ht t' (List.mem_cons_of_mem _ ht')) hs

end Machine.Limited

/-- A value that was read keeps the limit of the rules. -/
theorem limited_read {rules : Rules} {cs : List Char} {v : Value} (hr : rules.digits = maxDigits)
    (h : read rules cs = .ok v) : v.Limited := by
  unfold read at h
  cases hm : (tokens rules cs).foldlM (Machine.step rules.depth) {} with
  | error f =>
    rw [hm] at h
    cases h
  | ok m =>
    rw [hm] at h
    have hstart : Machine.Limited {} := ⟨fun _ hf => (by cases hf), fun _ hv => (by cases hv)⟩
    have hlimited := hstart.foldlM (limited_tokens hr cs) hm
    dsimp only [bind, Except.bind] at h
    split at h
    · rename_i v' hv'
      rw [← Except.ok.inj h]
      exact hlimited.result v' hv'
    · cases h

end Machine

end Json

end IssueBridge
