import IssueBridge.Proofs.Bridge.Upheld
import IssueBridge.Proofs.Json.Limit

/-! # Live comments and their copies

Events create, edit and delete the comments of an issue. Those that are live have copies at the end of
the ticket's thread, in the same order, and each is found by its token. So what an event does to the live
comments can be done to the thread.
-/

namespace IssueBridge

open Tracker Correlation

def CommentAction.applied (a : CommentAction) (c : GitHub.Comment) (live : List GitHub.Comment) :
    List GitHub.Comment :=
  match a with
  | .created => live ++ [c]
  | .edited => live.map fun d => if d.id = c.id then c else d
  | .deleted => live.filter (·.id ≠ c.id)

/-- The live comments after some events, in the order in which they were created. -/
def liveAfter (notes : List (CommentAction × GitHub.Comment)) : List GitHub.Comment :=
  notes.foldl (fun live n => n.1.applied n.2 live) []

section Positions

variable {before after : List GitHub.Comment} {c d : GitHub.Comment} {id : Int}

theorem map_unedited {l : List GitHub.Comment} (h : ∀ x ∈ l, x.id ≠ c.id) :
    l.map (fun x => if x.id = c.id then c else x) = l :=
  (List.map_congr_left fun x hx => if_neg (h x hx)).trans (List.map_id' l)

theorem filter_undeleted {l : List GitHub.Comment} (h : ∀ x ∈ l, x.id ≠ c.id) :
    l.filter (·.id ≠ c.id) = l :=
  List.filter_eq_self.mpr fun x hx => by simpa using h x hx

theorem applied_edited (hid : d.id = c.id) (hbefore : ∀ x ∈ before, x.id ≠ c.id)
    (hafter : ∀ x ∈ after, x.id ≠ c.id) :
    CommentAction.edited.applied c (before ++ d :: after) = before ++ c :: after := by
  unfold CommentAction.applied
  dsimp only
  rw [List.map_append, List.map_cons, if_pos hid, map_unedited hbefore, map_unedited hafter]

theorem applied_deleted (hid : d.id = c.id) (hbefore : ∀ x ∈ before, x.id ≠ c.id)
    (hafter : ∀ x ∈ after, x.id ≠ c.id) :
    CommentAction.deleted.applied c (before ++ d :: after) = before ++ after := by
  unfold CommentAction.applied
  dsimp only
  rw [List.filter_append, List.filter_cons_of_neg (by simpa using hid), filter_undeleted hbefore,
    filter_undeleted hafter]

/-- An event about a comment that is not live, unless it creates it, leaves the live ones as they are. -/
theorem applied_of_absent {a : CommentAction} {l : List GitHub.Comment} (ha : a ≠ .created)
    (h : ∀ x ∈ l, x.id ≠ c.id) : a.applied c l = l := by
  cases a with
  | created => exact absurd rfl ha
  | edited => exact map_unedited h
  | deleted => exact filter_undeleted h

theorem map_id_applied_edited (l : List GitHub.Comment) :
    (CommentAction.edited.applied c l).map (·.id) = l.map (·.id) := by
  unfold CommentAction.applied
  dsimp only
  rw [List.map_map]
  refine List.map_congr_left fun x _ => ?_
  rw [Function.comp_apply]
  split
  · exact Eq.symm ‹_›
  · rfl

end Positions

namespace Tracker

variable {id : Int} {k body : String} {c x : Comment} {front back cs : List Comment}

/-- The comment carries no token, or one of another id. -/
def Comment.Avoids (id : Int) (c : Comment) : Prop := ∃ o, c.mark = .ok o ∧ ∀ n ∈ o, (n : Int) ≠ id

theorem sought_of_avoids (cs : List Comment) : ∀ {front : List Comment}, (∀ c ∈ front, c.Avoids id) →
    sought id (front ++ cs) = sought id cs
  | [], _ => rfl
  | c :: front, h => by
    have hrest := sought_of_avoids cs fun d hd => h d (List.mem_cons_of_mem c hd)
    obtain ⟨o, ho, hne⟩ := h c List.mem_cons_self
    rw [List.cons_append, sought_cons, ho]
    cases o with
    | none => exact hrest
    | some n => exact (if_neg (hne n rfl)).trans hrest

theorem sought_eq_none (h : ∀ c ∈ cs, c.Avoids id) : sought id cs = .ok none := by
  have hnil := sought_of_avoids [] h
  rw [List.append_nil] at hnil
  exact hnil.trans rfl

theorem setBody_append (x : Comment) (body : String) (back : List Comment) :
    ∀ {front : List Comment}, (∀ c ∈ front, c.id ≠ x.id) →
      Store.setBody x.id body (front ++ x :: back) = front ++ { x with body := .given body } :: back
  | [], _ => if_pos rfl
  | c :: front, h => by
    have hrest := setBody_append x body back fun d hd => h d (List.mem_cons_of_mem c hd)
    rw [List.cons_append, Store.setBody, if_neg (h c List.mem_cons_self), hrest]
    rfl

theorem eraseP_append (h : ∀ c ∈ front, c.id ≠ x.id) :
    (front ++ x :: back).eraseP (·.id = x.id) = front ++ back := by
  rw [List.eraseP_append_right _ fun c hc => by simpa using h c hc,
    List.eraseP_cons_of_pos (by simp)]

theorem ids_ne (h : ((front ++ x :: back).map (·.id)).Nodup) : ∀ c ∈ front, c.id ≠ x.id := by
  intro c hc heq
  rw [List.map_append, List.nodup_append] at h
  exact h.2.2 c.id (List.mem_map_of_mem hc) x.id List.mem_cons_self heq

theorem unmarked_of_mark : ∀ {cs : List Comment}, (∀ c ∈ cs, c.mark = .ok none) → Unmarked cs
  | [], _ => trivial
  | c :: cs, h => by
    unfold Unmarked
    rw [h c List.mem_cons_self]
    exact unmarked_of_mark fun d hd => h d (List.mem_cons_of_mem c hd)

end Tracker

namespace Bridge

variable {b : Bridge} {c : GitHub.Comment} {k : Comment} {id : Int} {body : String}

def Renders (b : Bridge) (c : GitHub.Comment) (k : Comment) : Prop :=
  ∃ body, Logged.result (b.commentBody c) = .ok body ∧ k.body = .given body

/-- An id that can be read back from the token that is made of it. -/
def Sound (id : Int) : Prop := 0 ≤ id ∧ Short id

theorem Renders.mark (h : b.Renders c k) (hid : Sound c.id) : k.mark = .ok (some c.id.toNat) := by
  obtain ⟨body, hbody, hk⟩ := h
  unfold Comment.mark
  rw [hk]
  refine (token?_commentBody hbody hid.1).trans ?_
  rw [if_pos hid.2.length_digits]

theorem Renders.avoids (h : b.Renders c k) (hid : Sound c.id) (hne : c.id ≠ id) : k.Avoids id := by
  refine ⟨_, h.mark hid, fun n hn => ?_⟩
  rw [← Option.some.inj (Option.mem_def.mp hn), Int.toNat_of_nonneg hid.1]
  exact hne

/-- The thread `cs` consists of the comments `init` and the copies of the live ones. -/
structure Told (b : Bridge) (init : List Comment) (live : List GitHub.Comment) (cs : List Comment) : Prop where
  copies : ∃ new, cs = init ++ new ∧ List.Forall₂ b.Renders live new
  distinct : (live.map (·.id)).Nodup
  sound : ∀ c ∈ live, Sound c.id

/-- A live comment with the id and its copy, with what stands before and after both. -/
inductive Located (b : Bridge) (init : List Comment) (id : Int) :
    List GitHub.Comment → List Comment → Comment → Prop
  | mk {before after : List GitHub.Comment} {d : GitHub.Comment} {front back : List Comment} {k : Comment}
    (hid : d.id = id) (hbefore : ∀ x ∈ before, x.id ≠ id) (hafter : ∀ x ∈ after, x.id ≠ id)
    (hk : b.Renders d k) (hfront : List.Forall₂ b.Renders before front)
    (hback : List.Forall₂ b.Renders after back) :
    Located b init id (before ++ d :: after) (init ++ front ++ k :: back) k

theorem forall₂_locate {α β : Type} {R : α → β → Prop} {p : α → Prop} {l : List α} {l' : List β}
    (h : List.Forall₂ R l l') : (∃ before a after front c back, l = before ++ a :: after ∧ p a ∧
      l' = front ++ c :: back ∧ R a c ∧ List.Forall₂ R before front ∧ List.Forall₂ R after back) ∨
      ∀ a ∈ l, ¬ p a := by
  induction h with
  | nil => exact .inr fun _ ha => by cases ha
  | @cons a c l l' hac h ih =>
    by_cases ha : p a
    · exact .inl ⟨[], a, l, [], c, l', rfl, ha, rfl, hac, .nil, h⟩
    · rcases ih with ⟨before, a', after, front, c', back, rfl, ha', rfl, hac', hb, hf⟩ | hnone
      · exact .inl ⟨a :: before, a', after, c :: front, c', back, rfl, ha', rfl, hac', .cons hac hb, hf⟩
      · refine .inr fun a' ha' => ?_
        rcases List.mem_cons.mp ha' with rfl | ha'
        · exact ha
        · exact hnone a' ha'

namespace Told

variable {init cs : List Comment} {live : List GitHub.Comment}

theorem start (init : List Comment) : b.Told init [] init where
  copies := ⟨[], (List.append_nil _).symm, .nil⟩
  distinct := List.nodup_nil
  sound _ hc := by cases hc

theorem avoids_new {l : List GitHub.Comment} {new : List Comment} (h : List.Forall₂ b.Renders l new)
    (hsound : ∀ c ∈ l, Sound c.id) (hne : ∀ c ∈ l, c.id ≠ id) : ∀ k ∈ new, k.Avoids id := by
  induction h with
  | nil => exact fun _ hk => by cases hk
  | @cons c k l new hck h ih =>
    intro k' hk'
    rcases List.mem_cons.mp hk' with rfl | hk'
    · exact hck.avoids (hsound c List.mem_cons_self) (hne c List.mem_cons_self)
    · exact ih (fun d hd => hsound d (List.mem_cons_of_mem _ hd))
        (fun d hd => hne d (List.mem_cons_of_mem _ hd)) k' hk'

/-- A comment is live and has a copy, or it is not live and none is found for it. -/
theorem locate (h : b.Told init live cs) (hinit : ∀ k ∈ init, k.Avoids id) :
    (∃ k, b.Located init id live cs k) ∨ (∀ c ∈ live, c.id ≠ id) ∧ sought id cs = .ok none := by
  obtain ⟨new, rfl, hnew⟩ := h.copies
  rcases forall₂_locate (p := fun c => c.id = id) hnew with
    ⟨before, d, after, front, k, back, rfl, hid, rfl, hk, hfront, hback⟩ | hne
  · have hdistinct := h.distinct
    rw [List.map_append, List.map_cons, List.nodup_append, List.nodup_cons, hid] at hdistinct
    refine .inl ⟨k, ?_⟩
    rw [← List.append_assoc]
    refine .mk hid (fun x hx heq => ?_) (fun x hx heq => ?_) hk hfront hback
    · exact hdistinct.2.2 x.id (List.mem_map_of_mem hx) id List.mem_cons_self heq
    · exact hdistinct.2.1.1 (heq ▸ List.mem_map_of_mem hx)
  · refine .inr ⟨hne, sought_eq_none fun k hk => ?_⟩
    rcases List.mem_append.mp hk with hk | hk
    · exact hinit k hk
    · exact avoids_new hnew h.sound hne k hk

theorem sought (h : b.Told init live cs) (hinit : ∀ k ∈ init, k.Avoids id)
    (hloc : b.Located init id live cs k) : sought id cs = .ok (some k) := by
  obtain ⟨hid, hbefore, -, hk, hfront, -⟩ := hloc
  have hsound := h.sound
  rename_i before after d front back
  have hfrontAvoids : ∀ k ∈ init ++ front, k.Avoids id := by
    intro k hk
    rcases List.mem_append.mp hk with hk | hk
    · exact hinit k hk
    · exact avoids_new hfront (fun c hc => hsound c (List.mem_append_left _ hc)) hbefore k hk
  have hd := hsound d (List.mem_append_right _ List.mem_cons_self)
  rw [sought_of_avoids _ hfrontAvoids, sought_cons, hk.mark hd]
  exact if_pos ((Int.toNat_of_nonneg hd.1).trans hid)

theorem found (h : b.Told init live cs) (hinit : ∀ k ∈ init, k.Avoids c.id) (hc : c ∈ live) :
    ∃ k, Tracker.sought c.id cs = .ok (some k) ∧ b.Renders c k := by
  rcases h.locate hinit with ⟨k, hloc⟩ | ⟨hne, -⟩
  · refine ⟨k, h.sought hinit hloc, ?_⟩
    have hdistinct := h.distinct
    obtain ⟨hid, -, -, hk, -, -⟩ := hloc
    rename_i before after d front back
    have hd : d ∈ before ++ d :: after := List.mem_append_right _ List.mem_cons_self
    exact List.inj_on_of_nodup_map hdistinct hd hc hid ▸ hk
  · exact absurd rfl (hne c hc)

theorem upheld (h : b.Told init live cs) (hinit : ∀ k ∈ init, k.mark = .ok none) :
    ∀ {l : List GitHub.Comment}, (∀ c ∈ l, ∃ d ∈ live, d.id = c.id ∧
      Logged.result (b.commentBody d) = Logged.result (b.commentBody c)) → b.Upheld cs l
  | [], _ => trivial
  | c :: l, hl => by
    obtain ⟨d, hd, hid, hsame⟩ := hl c List.mem_cons_self
    have havoids : ∀ k ∈ init, k.Avoids d.id := fun k hk => ⟨none, hinit k hk, fun _ hn => by cases hn⟩
    obtain ⟨k, hk, body, hbody, hgiven⟩ := h.found havoids hd
    rw [hsame] at hbody
    rw [hid] at hk
    exact .cons hbody (.inr ⟨k, hk, hgiven⟩) (h.upheld hinit fun c hc => hl c (List.mem_cons_of_mem _ hc))

theorem created {k : String} (h : b.Told init live cs) (hc : Sound c.id) (hnew : ∀ d ∈ live, d.id ≠ c.id)
    (hbody : Logged.result (b.commentBody c) = .ok body) :
    b.Told init (CommentAction.created.applied c live) (cs ++ [⟨k, .given body⟩]) where
  copies := by
    obtain ⟨new, rfl, hcopies⟩ := h.copies
    refine ⟨new ++ [⟨k, .given body⟩], List.append_assoc .., ?_⟩
    exact List.rel_append hcopies (.cons ⟨body, hbody, rfl⟩ .nil)
  distinct := by
    have hids : (CommentAction.created.applied c live).map (·.id) = live.map (·.id) ++ [c.id] :=
      List.map_append
    rw [hids, List.nodup_append]
    refine ⟨h.distinct, List.pairwise_singleton _ _, ?_⟩
    rintro a ha e he rfl
    obtain ⟨d, hd, hid⟩ := List.mem_map.mp ha
    exact hnew d hd (hid.trans (List.mem_singleton.mp he))
  sound d hd := by
    rcases List.mem_append.mp hd with hd | hd
    · exact h.sound d hd
    · exact List.mem_singleton.mp hd ▸ hc

theorem edited (h : b.Told init live cs) (hc : Sound c.id) (hloc : b.Located init c.id live cs k)
    (hd : (cs.map (·.id)).Nodup) (hbody : Logged.result (b.commentBody c) = .ok body) :
    b.Told init (CommentAction.edited.applied c live) (Store.setBody k.id body cs) := by
  have hids : ((CommentAction.edited.applied c live).map (·.id)).Nodup := by
    rw [map_id_applied_edited]
    exact h.distinct
  obtain ⟨hid, hbefore, hafter, hk, hfront, hback⟩ := hloc
  rename_i before after d front back
  rw [applied_edited hid hbefore hafter] at hids ⊢
  refine ⟨⟨front ++ { k with body := .given body } :: back, ?_, ?_⟩, hids, fun x hx => ?_⟩
  · rw [setBody_append k body back (ids_ne hd), List.append_assoc]
  · exact List.rel_append hfront (.cons ⟨body, hbody, rfl⟩ hback)
  · rcases List.mem_append.mp hx with hx | hx
    · exact h.sound x (List.mem_append_left _ hx)
    · rcases List.mem_cons.mp hx with rfl | hx
      · exact hc
      · exact h.sound x (List.mem_append_right _ (List.mem_cons_of_mem _ hx))

theorem deleted (h : b.Told init live cs) (hloc : b.Located init c.id live cs k)
    (hd : (cs.map (·.id)).Nodup) :
    b.Told init (CommentAction.deleted.applied c live) (cs.eraseP (·.id = k.id)) := by
  have hsub : (CommentAction.deleted.applied c live).Sublist live := List.filter_sublist
  have hids := h.distinct.sublist (hsub.map _)
  have hsound : ∀ x ∈ CommentAction.deleted.applied c live, Sound x.id := fun x hx =>
    h.sound x (hsub.subset hx)
  obtain ⟨hid, hbefore, hafter, hk, hfront, hback⟩ := hloc
  rename_i before after d front back
  rw [applied_deleted hid hbefore hafter] at hids hsound ⊢
  refine ⟨⟨front ++ back, ?_, List.rel_append hfront hback⟩, hids, hsound⟩
  rw [eraseP_append (ids_ne hd), List.append_assoc]

end Told

end Bridge

end IssueBridge
