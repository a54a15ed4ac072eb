import IssueBridge.Proofs.Correlation.Token
import IssueBridge.Proofs.Tracker.Store
import Mathlib.Data.List.Nodup

/-! # Comments that are sought by their tokens

While comments are written to a thread, its old comments keep their ids and tokens. So each comment that
was written is found again, with the body that was written, unless a token before it cannot be read.
-/

namespace IssueBridge.Tracker

open Correlation

def Comment.mark (c : Comment) : Except Failure (Option Nat) := token? c.body.get?

def sought (id : Int) (cs : List Comment) : Except Failure (Option Comment) :=
  findToken? (fun c => c.body.get?) id cs

variable {id : Int} {c x : Comment} {cs cs' new : List Comment} {f : Failure} {n : Nat} {k body : String}

theorem sought_cons (id : Int) (c : Comment) (cs : List Comment) : sought id (c :: cs) =
    match c.mark with
    | .error f => .error f
    | .ok none => sought id cs
    | .ok (some n) => if (n : Int) = id then .ok (some c) else sought id cs := by
  unfold sought Comment.mark
  cases ht : token? c.body.get? with
  | error f => simp only [findToken?_cons, ht]
  | ok o => cases o <;> simp only [findToken?_cons, ht]

theorem of_sought (h : sought id cs = .ok (some c)) :
    c ∈ cs ∧ ∃ n : Nat, c.mark = .ok (some n) ∧ (n : Int) = id := by
  obtain ⟨hmem, n, hn, hid⟩ := of_findToken? h
  exact ⟨hmem, n, hn, hid⟩

theorem sought_append : ∀ (cs new : List Comment), sought id (cs ++ new) =
    match sought id cs with
    | .ok none => sought id new
    | o => o
  | [], _ => rfl
  | d :: cs, new => by
    rw [List.cons_append, sought_cons, sought_cons, sought_append cs new]
    cases d.mark with
    | error f => rfl
    | ok o =>
      cases o with
      | none => rfl
      | some n =>
        dsimp only
        split <;> rfl

section SetBody

theorem setBody_of_body : ∀ {cs : List Comment}, (∀ c ∈ cs, c.id = k → c.body = .given body) →
    Store.setBody k body cs = cs
  | [], _ => rfl
  | c :: cs, h => by
    unfold Store.setBody
    split
    · rename_i hk
      rw [← h c List.mem_cons_self hk]
    · rw [setBody_of_body fun d hd => h d (List.mem_cons_of_mem _ hd)]

theorem sought_setBody_of_ne (hbody : token? (some body) = .ok (some n)) (hn : (n : Int) ≠ id) :
    ∀ {cs : List Comment}, (∀ c ∈ cs, c.id = k → c.mark = .ok (some n)) →
      sought id (Store.setBody k body cs) = sought id cs
  | [], _ => rfl
  | c :: cs, h => by
    have hrest := sought_setBody_of_ne hbody hn fun d hd => h d (List.mem_cons_of_mem _ hd)
    unfold Store.setBody
    split
    · rename_i hk
      have hnew : Comment.mark { c with body := .given body } = .ok (some n) := hbody
      rw [sought_cons, sought_cons, h c List.mem_cons_self hk, hnew]
      simp only [hn, if_false]
    · rw [sought_cons, sought_cons, hrest]

theorem sought_setBody_self (hbody : token? (some body) = .ok (some n)) :
    ∀ {cs : List Comment}, (cs.map (·.id)).Nodup → sought (n : Int) cs = .ok (some c) →
      sought (n : Int) (Store.setBody c.id body cs) = .ok (some { c with body := .given body })
  | [], _, h => by cases h
  | d :: cs, hd, h => by
    rw [List.map_cons, List.nodup_cons] at hd
    have hnew : Comment.mark { d with body := .given body } = .ok (some n) := hbody
    by_cases hid : d.id = c.id
    · -- Only one comment has this id, so that it is the one that was found.
      have hdc : d = c := by
        rcases List.mem_cons.mp (of_sought h).1 with rfl | hmem
        · rfl
        · exact absurd (hid ▸ List.mem_map_of_mem hmem) hd.1
      subst hdc
      unfold Store.setBody
      rw [if_pos rfl, sought_cons, hnew]
      exact if_pos rfl
    · have hrest : sought n cs = .ok (some c) → _ := sought_setBody_self hbody hd.2
      unfold Store.setBody
      rw [if_neg hid, sought_cons]
      rw [sought_cons] at h
      cases hm : d.mark with
      | error f =>
        rw [hm] at h
        cases h
      | ok o =>
        rw [hm] at h
        cases o with
        | none => exact hrest h
        | some m =>
          dsimp only at h ⊢
          split at h
          · cases h
            exact absurd rfl hid
          · rw [if_neg ‹_›]
            exact hrest h

end SetBody

/-- The first comments of a thread have the ids and tokens that they had in another. -/
inductive Continues : List Comment → List Comment → Prop
  | nil (cs : List Comment) : Continues [] cs
  | cons {c c' : Comment} {cs cs' : List Comment} (hid : c'.id = c.id) (hmark : c'.mark = c.mark)
    (h : Continues cs cs') : Continues (c :: cs) (c' :: cs')

namespace Continues

theorem refl : ∀ cs : List Comment, Continues cs cs
  | [] => .nil []
  | _ :: cs => .cons rfl rfl (refl cs)

theorem append (h : Continues cs cs') (new : List Comment) : Continues cs (cs' ++ new) := by
  induction h with
  | nil _ => exact .nil _
  | cons hid hmark _ ih => exact .cons hid hmark ih

theorem setBody (h : Continues cs cs') (hk : ∀ c ∈ cs', c.id = k → c.mark = token? (some body)) :
    Continues cs (Store.setBody k body cs') := by
  induction h with
  | nil _ => exact .nil _
  | @cons c c' cs cs' hid hmark h ih =>
    unfold Store.setBody
    split
    · rename_i hc
      exact .cons hid ((hk c' List.mem_cons_self hc).symm.trans hmark) h
    · exact .cons hid hmark (ih fun d hd => hk d (List.mem_cons_of_mem _ hd))

theorem sought_error (h : Continues cs cs') (hs : sought id cs = .error f) :
    sought id cs' = .error f := by
  induction h with
  | nil _ => cases hs
  | @cons c c' cs cs' hid hmark h ih =>
    rw [sought_cons] at hs ⊢
    rw [hmark]
    cases hc : c.mark with
    | error g =>
      rw [hc] at hs
      exact hs
    | ok o =>
      rw [hc] at hs
      cases o with
      | none => exact ih hs
      | some n =>
        dsimp only at hs ⊢
        split at hs
        · cases hs
        · rw [if_neg ‹_›]
          exact ih hs

theorem sought_some (h : Continues cs cs') (hs : sought id cs = .ok (some c)) :
    ∃ c', sought id cs' = .ok (some c') ∧ c'.id = c.id := by
  induction h with
  | nil _ => cases hs
  | @cons d d' cs cs' hid hmark h ih =>
    rw [sought_cons] at hs ⊢
    rw [hmark]
    cases hd : d.mark with
    | error g =>
      rw [hd] at hs
      cases hs
    | ok o =>
      rw [hd] at hs
      cases o with
      | none => exact ih hs
      | some n =>
        dsimp only at hs ⊢
        split at hs
        · cases hs
          rw [if_pos ‹_›]
          exact ⟨d', rfl, hid⟩
        · rw [if_neg ‹_›]
          exact ih hs

end Continues

/-- The body carries the id in its token, unless the token cannot be read. -/
def Fits (id : Int) (body : String) : Prop :=
  (∃ f, token? (some body) = .error f) ∨ ∃ n : Nat, token? (some body) = .ok (some n) ∧ (n : Int) = id

/-- The comment that is found for the id has the body, unless a token cannot be read. -/
def Held (id : Int) (body : String) (cs : List Comment) : Prop :=
  (∃ f, sought id cs = .error f) ∨ ∃ c, sought id cs = .ok (some c) ∧ c.body = .given body

section Appending

theorem Held.append (h : Held id body cs) (new : List Comment) : Held id body (cs ++ new) := by
  unfold Held
  rw [sought_append]
  rcases h with ⟨f, hf⟩ | ⟨c, hc, hcb⟩
  · rw [hf]
    exact .inl ⟨f, rfl⟩
  · rw [hc]
    exact .inr ⟨c, rfl, hcb⟩

theorem mark_given (k body : String) : Comment.mark ⟨k, .given body⟩ = token? (some body) := rfl

theorem held_append (hbody : Fits id body) (h : ∀ c, sought id cs ≠ .ok (some c)) :
    Held id body (cs ++ [⟨k, .given body⟩]) := by
  unfold Held
  rw [sought_append]
  cases hcs : sought id cs with
  | error f => exact .inl ⟨f, rfl⟩
  | ok o =>
    cases o with
    | some c => exact absurd hcs (h c)
    | none =>
      dsimp only
      rw [sought_cons, mark_given]
      rcases hbody with ⟨f, hf⟩ | ⟨n, hn, hnid⟩
      · rw [hf]
        exact .inl ⟨f, rfl⟩
      · rw [hn]
        exact .inr ⟨_, if_pos hnid, rfl⟩

theorem of_sought_append {id' : Int} (hbody : Fits id body)
    (h : sought id' (cs ++ [⟨k, .given body⟩]) = .ok (some c)) :
    sought id' cs = .ok (some c) ∨ id' = id := by
  rw [sought_append] at h
  cases hcs : sought id' cs with
  | error f =>
    rw [hcs] at h
    cases h
  | ok o =>
    rw [hcs] at h
    cases o with
    | some c' => exact .inl h
    | none =>
      obtain ⟨hmem, m, hm, hmid⟩ := of_sought h
      rw [List.mem_singleton.mp hmem, mark_given] at hm
      rcases hbody with ⟨f, hf⟩ | ⟨n, hn, hnid⟩
      · rw [hf] at hm
        cases hm
      · rw [hn, Except.ok.injEq, Option.some.injEq] at hm
        subst hm
        exact .inr (hmid.symm.trans hnid)

end Appending

/-- The thread `new` came from the thread `old` when the bodies in `done` were written for their ids. -/
structure Wrote (old : List Comment) (done : List (Int × String)) (new : List Comment) : Prop where
  distinct : (new.map (·.id)).Nodup
  continues : Continues old new
  held : ∀ p ∈ done, Held p.1 p.2 new
  known : ∀ id c, sought id new = .ok (some c) →
    id ∈ done.map (·.1) ∨ ∃ c', sought id old = .ok (some c')

namespace Wrote

variable {old : List Comment} {done : List (Int × String)}

theorem start (h : (old.map (·.id)).Nodup) : Wrote old [] old where
  distinct := h
  continues := .refl old
  held := fun _ hp => by cases hp
  known := fun _ c hc => .inr ⟨c, hc⟩

theorem rewrite (h : Wrote old done new) (hid : id ∉ done.map (·.1)) (hs : sought id old = .ok (some c))
    (hbody : token? (some body) = .ok (some n)) (hn : (n : Int) = id) :
    Wrote old ((id, body) :: done) (Store.setBody c.id body new) := by
  subst hn
  obtain ⟨c', hc', hcid⟩ := h.continues.sought_some hs
  obtain ⟨hmem, m, hm, hmn⟩ := of_sought hc'
  have hsole : ∀ x ∈ new, x.id = c.id → x.mark = .ok (some n) := by
    intro x hx hxc
    rw [List.inj_on_of_nodup_map h.distinct hx hmem (hxc.trans hcid.symm), hm, Int.ofNat_inj.mp hmn]
  have hother : ∀ id : Int, id ≠ n → sought id (Store.setBody c.id body new) = sought id new :=
    fun id hne => sought_setBody_of_ne hbody hne.symm hsole
  constructor
  case distinct =>
    rw [Store.map_id_setBody]
    exact h.distinct
  case continues => exact h.continues.setBody fun x hx hxc => (hsole x hx hxc).trans hbody.symm
  case held =>
    intro p hp
    rcases List.mem_cons.mp hp with rfl | hp
    · rw [← hcid]
      exact .inr ⟨_, sought_setBody_self hbody h.distinct hc', rfl⟩
    · have hne : p.1 ≠ n := fun heq => hid (heq ▸ List.mem_map_of_mem hp)
      unfold Held
      rw [hother p.1 hne]
      exact h.held p hp
  case known =>
    intro id x hx
    by_cases hne : id = n
    · exact .inl (hne ▸ List.mem_cons_self)
    · rw [hother id hne] at hx
      exact (h.known id x hx).imp_left (List.mem_cons_of_mem _)

theorem add (h : Wrote old done new) (hid : id ∉ done.map (·.1)) (hs : sought id old = .ok none)
    (hbody : Fits id body) (hk : k ∉ new.map (·.id)) :
    Wrote old ((id, body) :: done) (new ++ [⟨k, .given body⟩]) := by
  constructor
  case distinct =>
    rw [List.map_append, List.nodup_append]
    refine ⟨h.distinct, List.pairwise_singleton _ _, ?_⟩
    rintro a ha c hc rfl
    have hak : a = k := List.mem_singleton.mp hc
    exact hk (hak ▸ ha)
  case continues => exact h.continues.append _
  case held =>
    intro p hp
    rcases List.mem_cons.mp hp with rfl | hp
    · refine held_append hbody fun c hc => ?_
      rcases h.known id c hc with hmem | ⟨c', hc'⟩
      · exact hid hmem
      · rw [hs] at hc'
        cases hc'
    · exact (h.held p hp).append _
  case known =>
    intro id' c hc
    rcases of_sought_append hbody hc with hold | rfl
    · exact (h.known id' c hold).imp_left (List.mem_cons_of_mem _)
    · exact .inl List.mem_cons_self

end Wrote

section Deleting

/-- What is left of a thread when the comments with tokens are deleted, up to a token that cannot be
read. -/
def kept : List Comment → List Comment
  | [] => []
  | c :: cs =>
    match c.mark with
    | .ok none => c :: kept cs
    | .ok (some _) => kept cs
    | .error _ => c :: cs

def Unmarked : List Comment → Prop
  | [] => True
  | c :: cs =>
    match c.mark with
    | .ok none => Unmarked cs
    | .ok (some _) => False
    | .error _ => True

theorem unmarked_kept : ∀ cs : List Comment, Unmarked (kept cs)
  | [] => trivial
  | c :: cs => by
    unfold kept
    split
    · unfold Unmarked
      rw [‹c.mark = _›]
      exact unmarked_kept cs
    · exact unmarked_kept cs
    · unfold Unmarked
      rw [‹c.mark = _›]
      trivial

theorem sublist_kept : ∀ cs : List Comment, (kept cs).Sublist cs
  | [] => .slnil
  | c :: cs => by
    unfold kept
    split
    · exact (sublist_kept cs).cons_cons c
    · exact (sublist_kept cs).cons c
    · exact .refl _

end Deleting

end IssueBridge.Tracker
