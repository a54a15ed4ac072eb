import IssueBridge.Fiber
import IssueBridge.Proofs.Step.Frame
import Mathlib.Data.List.Forall2

/-! # Fibers and their company

A fiber relies on a frame that the others keep between its parts, and guarantees it to them. What its parts may add to
a count of the world comes out of an allowance, so that fibers together add no more than their allowances together,
whatever the schedule is.
-/

namespace IssueBridge

open Step

theorem Step.ext {α : Type} {x y : Step α} (ho : ∀ w, outcome x w = outcome y w)
    (ha : ∀ w, after x w = after y w) : x = y := by
  funext w
  have ho := ho w
  have ha := ha w
  unfold outcome at ho
  unfold after at ha
  cases hx : x w <;> cases hy : y w <;> simp_all

theorem Step.observe_bind_ofExcept {α : Type} (x : Step α) : (observe x >>= ofExcept) = x := by
  refine Step.ext (fun w => ?_) fun w => ?_
  · rw [outcome_bind_ok (outcome_observe ..), after_observe, outcome_ofExcept]
  · rw [after_bind_ok (outcome_observe ..), after_observe, after_ofExcept]

theorem Step.discard_eq {α : Type} (x : Step α) : discard x = x >>= fun _ => pure () :=
  (map_eq_pure_bind (fun _ => ()) x :)

theorem Step.observe_of_ok {α : Type} {x : Step α} (h : ∀ w, ∃ a, outcome x w = .ok a) :
    observe x = Except.ok <$> x := by
  refine Step.ext (fun w => ?_) fun w => ?_
  · obtain ⟨a, ha⟩ := h w
    rw [outcome_observe, outcome_map, ha]
    rfl
  · rw [after_observe, after_map]

namespace Fiber

variable {α β : Type}

section Run

theorem run_pure (a : α) : (pure a : Fiber α).run = pure a := rfl

theorem run_part (x : Step β) (next : Except Failure β → Fiber α) :
    (part x next).run = Step.observe x >>= fun o => (next o).run := rfl

theorem run_lift (x : Step α) : (lift x).run = x := observe_bind_ofExcept x

theorem run_bind (t : Fiber α) (f : α → Fiber β) : (t >>= f).run = t.run >>= fun a => (f a).run := by
  show (t.bind f).run = _
  induction t with
  | done o => cases o <;> rfl
  | part x next ih =>
    rw [Fiber.bind, run_part, run_part, bind_assoc]
    exact congrArg (Step.observe x >>= ·) (funext ih)

theorem run_observe (t : Fiber α) : t.observe.run = Step.observe t.run := by
  induction t with
  | done o => cases o <;> rfl
  | part x next ih =>
    rw [observe, run_part, run_part, funext ih]
    refine Step.ext (fun w => ?_) fun w => ?_
    · rw [outcome_observe, outcome_bind_ok (outcome_observe ..), outcome_bind_ok (outcome_observe ..),
        outcome_observe]
    · rw [after_observe, after_bind_ok (outcome_observe ..), after_bind_ok (outcome_observe ..), after_observe]

theorem run_contain (level : Level) (start : String) (t : Fiber Unit) :
    (contain level start t).run = Step.contain level start t.run := by
  unfold contain Step.contain
  rw [run_bind, run_observe]
  congr 1
  funext o
  cases o with
  | ok u => rfl
  | error f => exact run_lift _

theorem run_forM {f : α → Fiber Unit} : ∀ l : List α, (l.forM f).run = l.forM fun a => (f a).run
  | [] => rfl
  | a :: l => by
    show (f a >>= fun _ => l.forM f).run = _
    rw [run_bind, run_forM l]
    rfl

theorem run_inTurn_cons (t : Fiber α) (ts : List (Fiber α)) : (inTurn (t :: ts)).run = do
    let o ← Step.observe t.run
    return o :: (← (inTurn ts).run) := by
  rw [inTurn, run_bind, run_observe]
  congr 1
  funext o
  rw [run_bind]
  rfl

/-- Fibers that always have a result are run like the steps that they are. -/
theorem run_inTurn_map {f : α → Fiber Unit} {g : α → Step Unit} {l : List α} (hf : ∀ a, (f a).run = g a)
    (hg : ∀ a w, outcome (g a) w = .ok ()) : discard (inTurn (l.map f)).run = l.forM g := by
  induction l with
  | nil => rfl
  | cons a l ih =>
    have ho := Step.observe_of_ok fun w => ⟨(), hg a w⟩
    show _ = g a >>= fun _ => l.forM g
    rw [List.map_cons, run_inTurn_cons, hf, ho, ← ih]
    simp only [Step.discard_eq, map_eq_pure_bind, bind_assoc, pure_bind]

end Run

/-- In company that stays inside a frame, the fiber stays inside it too, adds no more to a count than its allowance
`n`, and ends as stated, with what is left of the allowance. -/
def Meets (F : Frame) (c : World → Nat) (Q : Nat → Except Failure α → World → Prop) :
    Fiber α → Nat → World → Prop
  | .done o, n, w => ∀ v, F.rel w v → Q n o v
  | .part x next, n, w => ∀ v, F.rel w v → F.rel v (after x v) ∧
      ∃ m, c (after x v) + m ≤ c v + n ∧ (next (outcome x v)).Meets F c Q m (after x v)

namespace Meets

variable {F : Frame} {c : World → Nat} {Q Q' : Nat → Except Failure α → World → Prop} {t : Fiber α}
  {k m n : Nat} {v w : World}

theorem later (h : t.Meets F c Q n w) (hv : F.rel w v) : t.Meets F c Q n v := by
  cases t with
  | done o => exact fun u hu => h u (F.trans hv hu)
  | part x next => exact fun u hu => h u (F.trans hv hu)

theorem imp (h : t.Meets F c Q n w) (hQ : ∀ n o v, Q n o v → Q' n o v) : t.Meets F c Q' n w := by
  induction t generalizing n w with
  | done o => exact fun v hv => hQ _ _ _ (h v hv)
  | part x next ih =>
    intro v hv
    obtain ⟨hF, m, hm, hn⟩ := h v hv
    exact ⟨hF, m, hm, ih _ hn⟩

theorem spare (h : t.Meets F c Q m w) (hn : m + k ≤ n) :
    t.Meets F c (fun n' o v => ∃ m', m' + k ≤ n' ∧ Q m' o v ∧ F.rel w v) n w := by
  induction t generalizing m n w with
  | done o => exact fun v hv => ⟨m, hn, h v hv, hv⟩
  | part x next ih =>
    intro v hv
    obtain ⟨hF, m', hm, hnext⟩ := h v hv
    have hrest := ih _ hnext (Nat.le_refl (m' + k))
    refine ⟨hF, m' + k, by omega, hrest.imp fun n' o u hu => ?_⟩
    obtain ⟨l, hl, hq, hrel⟩ := hu
    exact ⟨l, hl, hq, F.trans hv (F.trans hF hrel)⟩

theorem track (h : t.Meets F c Q n w) : t.Meets F c (fun n' o v => Q n' o v ∧ F.rel w v) n w := by
  induction t generalizing n w with
  | done o => exact fun v hv => ⟨h v hv, hv⟩
  | part x next ih =>
    intro v hv
    obtain ⟨hF, m, hm, hnext⟩ := h v hv
    exact ⟨hF, m, hm, (ih _ hnext).imp fun n' o u hu => ⟨hu.1, F.trans hv (F.trans hF hu.2)⟩⟩

/-- A fiber without company ends as stated, and has added no more than its allowance. -/
theorem run (h : t.Meets F c Q n w) :
    ∃ m, c (after t.run w) + m ≤ c w + n ∧ Q m (outcome t.run w) (after t.run w) := by
  induction t generalizing n w with
  | done o =>
    show ∃ m, c (after (Step.ofExcept o) w) + m ≤ c w + n ∧ Q m (outcome (Step.ofExcept o) w)
      (after (Step.ofExcept o) w)
    rw [outcome_ofExcept, after_ofExcept]
    exact ⟨n, Nat.le_refl _, h w (F.refl w)⟩
  | part x next ih =>
    rw [run_part, outcome_bind_ok (outcome_observe ..), after_bind_ok (outcome_observe ..), after_observe]
    obtain ⟨-, m, hm, hnext⟩ := h w (F.refl w)
    obtain ⟨k, hk, hq⟩ := ih _ hnext
    exact ⟨k, by omega, hq⟩

theorem pure {a : α} (h : ∀ v, F.rel w v → Q n (.ok a) v) : (Pure.pure a : Fiber α).Meets F c Q n w := h

theorem lift {x : Step α} (h : ∀ v, F.rel w v → F.rel v (after x v) ∧
    ∃ m, c (after x v) + m ≤ c v + n ∧ ∀ u, F.rel (after x v) u → Q m (outcome x v) u) :
    (lift x).Meets F c Q n w := h

theorem bind {Q : Nat → Except Failure β → World → Prop} {f : α → Fiber β} (h : t.Meets F c Q' n w)
    (hok : ∀ n a v, Q' n (.ok a) v → (f a).Meets F c Q n v) (herror : ∀ n e v, Q' n (.error e) v → Q n (.error e) v) :
    (t >>= f).Meets F c Q n w := by
  show (t.bind f).Meets F c Q n w
  induction t generalizing n w with
  | done o =>
    cases o with
    | ok a => exact hok n a w (h w (F.refl w))
    | error e => exact fun v hv => herror n e v (h v hv)
  | part x next ih =>
    intro v hv
    obtain ⟨hF, m, hm, hnext⟩ := h v hv
    exact ⟨hF, m, hm, ih _ hnext⟩

theorem observe_bind {Q : Nat → Except Failure β → World → Prop} {f : Except Failure α → Fiber β}
    (h : t.Meets F c Q' n w) (hf : ∀ n o v, Q' n o v → (f o).Meets F c Q n v) :
    (t.observe >>= f).Meets F c Q n w := by
  show (t.observe.bind f).Meets F c Q n w
  induction t generalizing n w with
  | done o => exact hf n o w (h w (F.refl w))
  | part x next ih =>
    intro v hv
    obtain ⟨hF, m, hm, hnext⟩ := h v hv
    exact ⟨hF, m, hm, ih _ hnext⟩

end Meets

/-- Every part of the fiber stays inside a frame, whatever company it has. -/
def Calm (F : Frame) : Fiber α → Prop
  | .done _ => True
  | .part x next => Keeps F x ∧ ∀ w, (next (outcome x w)).Calm F

namespace Calm

variable {F : Frame} {t : Fiber α}

theorem pure (a : α) : (Pure.pure a : Fiber α).Calm F := trivial

theorem lift {x : Step α} (h : Keeps F x) : (lift x).Calm F := ⟨h, fun _ => trivial⟩

theorem bind {f : α → Fiber β} (h : t.Calm F) (hf : ∀ a, (f a).Calm F) : (t >>= f).Calm F := by
  show (t.bind f).Calm F
  induction t with
  | done o =>
    cases o with
    | ok a => exact hf a
    | error e => trivial
  | part x next ih => exact ⟨h.1, fun w => ih _ (h.2 w)⟩

theorem lift_bind {x : Step β} {f : β → Fiber α} (h : Keeps F x) (hf : ∀ a w, outcome x w = .ok a → (f a).Calm F) :
    (Fiber.lift x >>= f).Calm F := by
  refine ⟨h, fun w => ?_⟩
  show ((Fiber.done (outcome x w)).bind f).Calm F
  cases ho : outcome x w with
  | ok a => exact hf a w ho
  | error e => trivial

theorem observe (h : t.Calm F) : t.observe.Calm F := by
  induction t with
  | done o => trivial
  | part x next ih => exact ⟨h.1, fun w => ih _ (h.2 w)⟩

theorem contain {t : Fiber Unit} (h : t.Calm F) (level : Level) (start : String) :
    (contain level start t).Calm F :=
  h.observe.bind fun o => by
    cases o with
    | ok u => exact .pure _
    | error f => exact .lift (.say _ _)

theorem forM {f : α → Fiber Unit} : ∀ {l : List α}, (∀ a ∈ l, (f a).Calm F) → (l.forM f).Calm F
  | [], _ => .pure _
  | a :: _, h => (h a List.mem_cons_self).bind fun _ => forM fun b hb => h b (List.mem_cons_of_mem _ hb)

theorem inTurn : ∀ {ts : List (Fiber α)}, (∀ t ∈ ts, t.Calm F) → (inTurn ts).Calm F
  | [], _ => .pure _
  | t :: _, h => (h t List.mem_cons_self).observe.bind fun _ =>
      (inTurn fun u hu => h u (List.mem_cons_of_mem _ hu)).bind fun _ => .pure _

theorem scheduled (schedule : List Nat) {ts : List (Fiber α)} (h : ∀ t ∈ ts, t.Calm F) :
    (scheduled schedule ts).Calm F := by
  induction schedule generalizing ts with
  | nil => exact inTurn h
  | cons k schedule ih =>
    unfold Fiber.scheduled
    split
    · rename_i x next hk
      have hx : (part x next).Calm F := h _ (List.mem_of_getElem? hk)
      refine ⟨hx.1, fun w => ih fun u hu => ?_⟩
      obtain hu | rfl := List.mem_or_eq_of_mem_set hu
      · exact h u hu
      · exact hx.2 w
    · exact ih h

/-- Where nothing that a frame allows adds to the count, a fiber inside it needs no allowance. -/
theorem meets {F G : Frame} {c : World → Nat} (h : t.Calm G) (hG : ∀ v w, G.rel v w → F.rel v w ∧ c w ≤ c v)
    (n : Nat) (w : World) : t.Meets F c (fun m _ v => m = n ∧ F.rel w v) n w := by
  induction t generalizing w with
  | done o => exact fun v hv => ⟨rfl, hv⟩
  | part x next ih =>
    intro v hv
    obtain ⟨hF, hc⟩ := hG _ _ (h.1 v)
    refine ⟨hF, n, by omega, (ih _ (h.2 v) _).imp fun m o u hu => ⟨hu.1, ?_⟩⟩
    exact F.trans hv (F.trans hF hu.2)

end Calm

/-- However its parts come out, the fiber ends with one of the outcomes. -/
def Yields (P : Except Failure α → Prop) : Fiber α → Prop
  | .done o => P o
  | .part x next => ∀ w, (next (outcome x w)).Yields P

namespace Yields

variable {P : Except Failure β → Prop} {P' : Except Failure α → Prop} {t : Fiber α}

theorem lift {x : Step β} (h : ∀ w, P (outcome x w)) : (lift x).Yields P := h

theorem bind {f : α → Fiber β} (h : t.Yields P') (hok : ∀ a, P' (.ok a) → (f a).Yields P)
    (herror : ∀ e, P' (.error e) → P (.error e)) : (t >>= f).Yields P := by
  show (t.bind f).Yields P
  induction t with
  | done o =>
    cases o with
    | ok a => exact hok a h
    | error e => exact herror e h
  | part x next ih => exact fun w => ih _ (h w)

theorem observe_bind {f : Except Failure α → Fiber β} (hf : ∀ o, (f o).Yields P) : (t.observe >>= f).Yields P := by
  show (t.observe.bind f).Yields P
  induction t with
  | done o => exact hf o
  | part x next ih => exact fun w => ih _

end Yields

theorem Meets.yields {F : Frame} {c : World → Nat} {Q : Nat → Except Failure α → World → Prop}
    {P : Except Failure α → Prop} {t : Fiber α} {n : Nat} {w : World} (h : t.Meets F c Q n w) (ht : t.Yields P) :
    t.Meets F c (fun n o v => Q n o v ∧ P o) n w := by
  induction t generalizing n w with
  | done o => exact fun v hv => ⟨h v hv, ht⟩
  | part x next ih =>
    intro v hv
    obtain ⟨hF, m, hm, hnext⟩ := h v hv
    exact ⟨hF, m, hm, ih _ hnext (ht v)⟩

section Company

variable {ι : Type} {F : Frame} {c : World → Nat} {Q : ι → Except Failure α → World → Prop} {l : List ι}
  {ts : List (Fiber α)} {n : Nat} {v w : World}

def AllEnd (l : List ι) (Q : ι → Except Failure α → World → Prop) (o : Except Failure (List (Except Failure α)))
    (v : World) : Prop :=
  ∃ os, o = .ok os ∧ List.Forall₂ (fun a o => Q a o v) l os

theorem AllEnd.not_error {e : Failure} (h : AllEnd l Q (.error e) v) : False := by
  obtain ⟨os, h, -⟩ := h
  cases h

theorem AllEnd.cons {a : ι} {o : Except Failure α} {os : List (Except Failure α)} {u : World}
    (hQ : ∀ a o v w, F.rel v w → Q a o v → Q a o w) (ho : Q a o v) (h : AllEnd l Q (.ok os) w) (hv : F.rel v u)
    (hw : F.rel w u) : AllEnd (a :: l) Q (.ok (o :: os)) u := by
  obtain ⟨os', hos, hall⟩ := h
  cases hos
  exact ⟨o :: os, rfl, .cons (hQ _ _ _ _ hv ho) (hall.imp fun _ _ h => hQ _ _ _ _ hw h)⟩

/-- The fibers have an allowance together. -/
def Share (F : Frame) (c : World → Nat) (Q : ι → Except Failure α → World → Prop) :
    List ι → List (Fiber α) → Nat → World → Prop
  | a :: l, t :: ts, n, w => ∃ m k, m + k ≤ n ∧ t.Meets F c (fun _ => Q a) m w ∧ Share F c Q l ts k w
  | [], [], _, _ => True
  | _, _, _, _ => False

theorem Share.later (h : Share F c Q l ts n w) (hv : F.rel w v) : Share F c Q l ts n v := by
  induction l generalizing ts n with
  | nil =>
    cases ts with
    | nil => trivial
    | cons t ts => exact h
  | cons a l ih =>
    cases ts with
    | nil => exact h
    | cons t ts =>
      obtain ⟨m, k, hmk, ht, hts⟩ := h
      exact ⟨m, k, hmk, ht.later hv, ih hts⟩

theorem Share.turn {β : Type} {x : Step β} {next : Except Failure β → Fiber α} {k : Nat} (h : Share F c Q l ts n w)
    (hk : ts[k]? = some (part x next)) (hv : F.rel w v) : F.rel v (after x v) ∧
      ∃ m, c (after x v) + m ≤ c v + n ∧ Share F c Q l (ts.set k (next (outcome x v))) m (after x v) := by
  induction ts generalizing l k n with
  | nil => cases hk
  | cons t ts ih =>
    cases l with
    | nil => exact h.elim
    | cons a l =>
      obtain ⟨m, j, hmj, ht, hts⟩ := h
      cases k with
      | zero =>
        obtain rfl : t = part x next := Option.some.inj hk
        obtain ⟨hF, m', hm', hnext⟩ := ht v hv
        exact ⟨hF, m' + j, by omega, m', j, Nat.le_refl _, hnext, hts.later (F.trans hv hF)⟩
      | succ k =>
        obtain ⟨hF, j', hj', hrest⟩ := ih hts hk
        exact ⟨hF, m + j', by omega, m, j', Nat.le_refl _, ht.later (F.trans hv hF), hrest⟩

theorem Meets.inTurn (hQ : ∀ a o v w, F.rel v w → Q a o v → Q a o w) (h : Share F c Q l ts n w) :
    (inTurn ts).Meets F c (fun _ => AllEnd l Q) n w := by
  induction ts generalizing l n w with
  | nil =>
    cases l with
    | nil => exact .pure fun _ _ => ⟨[], rfl, .nil⟩
    | cons a l => exact h.elim
  | cons t ts ih =>
    cases l with
    | nil => exact h.elim
    | cons a l =>
      obtain ⟨m, k, hmk, ht, hts⟩ := h
      refine (ht.spare hmk).observe_bind fun n' o v hv => ?_
      obtain ⟨m', hm', ho, hwv⟩ := hv
      have hrest := (ih (hts.later hwv)).spare (k := m') (by omega : k + m' ≤ n')
      refine hrest.bind (fun _ os u hu => .pure fun u' hu' => ?_) fun _ e u hu => ?_
      · obtain ⟨_, -, hall, hvu⟩ := hu
        exact hall.cons hQ ho (F.trans hvu hu') hu'
      · obtain ⟨_, -, he, -⟩ := hu
        exact he.not_error.elim

/-- Fibers that have an allowance together keep to it, whatever the schedule is. -/
theorem Meets.scheduled (hQ : ∀ a o v w, F.rel v w → Q a o v → Q a o w) (schedule : List Nat)
    (h : Share F c Q l ts n w) : (scheduled schedule ts).Meets F c (fun _ => AllEnd l Q) n w := by
  induction schedule generalizing ts n w with
  | nil => exact .inTurn hQ h
  | cons k schedule ih =>
    unfold Fiber.scheduled
    split
    · rename_i x next hk
      intro v hv
      obtain ⟨hF, m, hm, hrest⟩ := h.turn hk hv
      exact ⟨hF, m, hm, ih hrest⟩
    · exact ih h

/-- Fibers that have their turns one after the other hand on what they need. -/
theorem Meets.inTurn_of {P : Nat → World → Prop} {f : ι → Fiber α} (hQ : ∀ a o v w, F.rel v w → Q a o v → Q a o w)
    (h : ∀ a ∈ l, ∀ n v, F.rel w v → P n v → (f a).Meets F c (fun n' o u => P n' u ∧ Q a o u) n v) (hP : P n w) :
    (Fiber.inTurn (l.map f)).Meets F c (fun _ => AllEnd l Q) n w := by
  induction l generalizing n w with
  | nil => exact .pure fun _ _ => ⟨[], rfl, .nil⟩
  | cons a l ih =>
    refine (h a List.mem_cons_self n w (F.refl w) hP).track.observe_bind fun n' o v hv => ?_
    obtain ⟨⟨hP', ho⟩, hwv⟩ := hv
    have hrest := (ih (fun a ha n u hu => h a (List.mem_cons_of_mem _ ha) n u (F.trans hwv hu)) hP').track
    refine hrest.bind (fun _ os u hu => .pure fun u' hu' => ?_) fun _ e u hu => hu.1.not_error.elim
    exact hu.1.cons hQ ho (F.trans hu.2 hu') hu'

end Company

end Fiber

end IssueBridge
