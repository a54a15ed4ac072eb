import IssueBridge.Proofs.Tracker.Discussion

/-! # Threads that are written to

For each id that is written, the first comment with the id in its token gets the new body, and a comment is
added where there is none. The thread that results is told at once, from the thread at the start and from what
was written. Likewise for comments that are deleted.
-/

namespace IssueBridge.Tracker

open Correlation

namespace Store

theorem lookup_comments (s : Store) (thread : ThreadId) :
    (s.comments thread).2.threads.lookup thread = some (s.thread thread) :=
  (lookup_alterThread ..).trans (if_pos rfl)

theorem thread_of_lookup {s : Store} {thread : ThreadId} {cs : List Comment}
    (h : s.threads.lookup thread = some cs) : s.thread thread = cs := by
  unfold Store.thread
  rw [h]
  rfl

end Store

namespace Comment

def isMarked (c : Comment) : Bool :=
  match c.mark with
  | .ok (some _) => true
  | _ => false

def carries (id : Int) (c : Comment) : Bool := Correlation.carries id c.body.get?

end Comment

variable {cs : List Comment} {id : Int} {k body : String} {done : List (Int × String)} {s : Store}
  {thread : ThreadId}

theorem sought_eq_find? (h : ∀ c ∈ cs, ∃ o, c.mark = .ok o) : sought id cs = .ok (cs.find? (·.carries id)) :=
  findToken?_eq_find? h

/-- The comment that is to be given a new body for an id, if there is one. -/
def target (cs : List Comment) (id : Int) : Option String := (cs.find? (·.carries id)).map (·.id)

theorem of_target (h : target cs id = some k) : ∃ c ∈ cs, c.id = k ∧ c.carries id := by
  obtain ⟨c, hc, hk⟩ := Option.map_eq_some_iff.mp h
  exact ⟨c, List.mem_of_find?_eq_some hc, hk, List.find?_some hc⟩

theorem target_inj (hd : (cs.map (·.id)).Nodup) {id' : Int} (h : target cs id = some k)
    (h' : target cs id' = some k) : id = id' := by
  obtain ⟨c, hc, hk, hid⟩ := of_target h
  obtain ⟨c', hc', hk', hid'⟩ := of_target h'
  rw [← List.inj_on_of_nodup_map hd hc hc' (hk.trans hk'.symm)] at hid'
  exact carries_unique hid hid'

section Writing

/-- The call that writes a body for an id: an update of the comment with the id, or a new comment. -/
def writeCall (thread : ThreadId) (cs : List Comment) (p : Int × String) : Call :=
  match target cs p.1 with
  | some k => .updateComment k p.2
  | none => .addComment thread p.2

def write (thread : ThreadId) (cs : List Comment) (p : Int × String) (s : Store) : Store :=
  match target cs p.1 with
  | some k => s.updateComment ⟨thread, k, none⟩ p.2
  | none => (s.addComment thread p.2).2

/-- The old comments when the bodies were written: the first that has an id in its token has the body that was
written for the id, all others are as they were. -/
def rewritten (done : List (Int × String)) (cs : List Comment) : List Comment :=
  cs.map fun c =>
    match done.find? fun p => target cs p.1 = some c.id with
    | some p => { c with body := .given p.2 }
    | none => c

/-- The new comments when the bodies were written, in the order of writing, after `added` others. -/
def appended (added : Nat) (done : List (Int × String)) (cs : List Comment) : List Comment :=
  ((done.filter fun p => (target cs p.1).isNone).zipIdx (added + 1)).map fun q =>
    ⟨"n" ++ toString q.2, .given q.1.2⟩

theorem rewritten_nil (cs : List Comment) : rewritten [] cs = cs := List.map_id' cs

theorem map_id_rewritten (done : List (Int × String)) (cs : List Comment) :
    (rewritten done cs).map (·.id) = cs.map (·.id) := by
  unfold rewritten
  rw [List.map_map]
  refine List.map_congr_left fun c _ => ?_
  rw [Function.comp_apply]
  split <;> rfl

/-- Where ids are distinct, only one comment gets the new body. -/
theorem setBody_eq_map (hd : (cs.map (·.id)).Nodup) : Store.setBody k body cs =
    cs.map fun c => if c.id = k then { c with body := .given body } else c := by
  induction cs with
  | nil => rfl
  | cons c cs ih =>
    rw [List.map_cons, List.nodup_cons] at hd
    unfold Store.setBody
    rw [List.map_cons]
    split
    · rename_i hk
      have hrest : (cs.map fun d => if d.id = k then { d with body := .given body } else d) = cs := by
        refine (List.map_congr_left fun d hdc => ?_).trans (List.map_id cs)
        have hne : d.id ≠ k := fun hdk => hd.1 ((hdk.trans hk.symm) ▸ List.mem_map_of_mem hdc)
        exact if_neg hne
      rw [hrest]
    · rw [ih hd.2]

theorem setBody_append_of_mem (hk : k ∈ cs.map (·.id)) (new : List Comment) :
    Store.setBody k body (cs ++ new) = Store.setBody k body cs ++ new := by
  induction cs with
  | nil => cases hk
  | cons c cs ih =>
    rw [List.cons_append]
    unfold Store.setBody
    split
    · rfl
    · rename_i hne
      rw [List.map_cons, List.mem_cons] at hk
      rw [ih (hk.resolve_left (Ne.symm hne))]
      rfl

theorem rewritten_concat_of_some {p : Int × String} (hd : (cs.map (·.id)).Nodup) (hp : p.1 ∉ done.map (·.1))
    (hk : target cs p.1 = some k) :
    rewritten (done ++ [p]) cs = Store.setBody k p.2 (rewritten done cs) := by
  rw [setBody_eq_map (by rwa [map_id_rewritten])]
  unfold rewritten
  rw [List.map_map]
  refine List.map_congr_left fun c _ => ?_
  rw [Function.comp_apply, List.find?_append, List.find?_singleton, hk]
  by_cases hc : c.id = k
  · have hnone : done.find? (fun q => target cs q.1 = some c.id) = none := by
      refine List.find?_eq_none.mpr fun q hq htarget => hp ?_
      rw [target_inj hd hk (hc ▸ of_decide_eq_true htarget)]
      exact List.mem_map_of_mem hq
    rw [hnone, if_pos (decide_eq_true (congrArg some hc.symm))]
    exact (if_pos hc).symm
  · rw [if_neg (by simpa using Ne.symm hc), Option.or_none]
    split
    · exact (if_neg hc).symm
    · exact (if_neg hc).symm

theorem rewritten_concat_of_none {p : Int × String} (hk : target cs p.1 = none) :
    rewritten (done ++ [p]) cs = rewritten done cs := by
  unfold rewritten
  refine List.map_congr_left fun c _ => ?_
  rw [List.find?_append, List.find?_singleton, hk, if_neg (by simp), Option.or_none]

theorem appended_concat_of_some {p : Int × String} (added : Nat) (hk : target cs p.1 = some k) :
    appended added (done ++ [p]) cs = appended added done cs := by
  unfold appended
  rw [List.filter_append, List.filter_cons_of_neg (by simp [hk]), List.filter_nil, List.append_nil]

def newCount (done : List (Int × String)) (cs : List Comment) : Nat :=
  (done.filter fun p => (target cs p.1).isNone).length

theorem newCount_concat (done : List (Int × String)) (p : Int × String) (cs : List Comment) :
    newCount (done ++ [p]) cs = newCount done cs + if (target cs p.1).isNone then 1 else 0 := by
  unfold newCount
  rw [List.filter_append, List.length_append, List.filter_singleton]
  cases target cs p.1 <;> rfl

theorem appended_concat_of_none {p : Int × String} (added : Nat) (hk : target cs p.1 = none) :
    appended added (done ++ [p]) cs =
      appended added done cs ++ [⟨"n" ++ toString (added + newCount done cs + 1), .given p.2⟩] := by
  unfold appended newCount
  rw [List.filter_append, List.filter_cons_of_pos (by simp [hk]), List.filter_nil, List.zipIdx_append,
    List.map_append, Nat.add_right_comm]
  rfl

theorem written_thread (hlookup : s.threads.lookup thread = some cs) (hd : (cs.map (·.id)).Nodup)
    (hids : (done.map (·.1)).Nodup) :
    (done.foldl (fun s p => write thread cs p s) s).threads.lookup thread =
        some (rewritten done cs ++ appended s.added done cs) ∧
      (done.foldl (fun s p => write thread cs p s) s).added = s.added + newCount done cs := by
  induction done using List.reverseRecOn with
  | nil =>
    rw [rewritten_nil]
    exact ⟨hlookup.trans (congrArg some (List.append_nil cs).symm), rfl⟩
  | append_singleton done p ih =>
    rw [List.map_append, List.nodup_append] at hids
    have hp : p.1 ∉ done.map (·.1) := fun hmem => hids.2.2 _ hmem _ List.mem_cons_self rfl
    obtain ⟨hthread, hadded⟩ := ih hids.1
    rw [List.foldl_append, List.foldl_cons, List.foldl_nil]
    generalize done.foldl (fun s p => write thread cs p s) s = t at hthread hadded
    unfold write
    cases hk : target cs p.1 with
    | some k =>
      have hmem : k ∈ (rewritten done cs).map (·.id) := by
        obtain ⟨c, hc, rfl, -⟩ := of_target hk
        rw [map_id_rewritten]
        exact List.mem_map_of_mem hc
      have hcount : newCount (done ++ [p]) cs = newCount done cs := by
        rw [newCount_concat, hk]
        rfl
      rw [rewritten_concat_of_some hd hp hk, appended_concat_of_some _ hk, ← setBody_append_of_mem hmem, hcount]
      exact ⟨Store.lookup_alterThread_self hthread _, hadded⟩
    | none =>
      have hcount : newCount (done ++ [p]) cs = newCount done cs + 1 := by
        rw [newCount_concat, hk]
        rfl
      rw [rewritten_concat_of_none hk, appended_concat_of_none _ hk, ← List.append_assoc, hcount, ← Nat.add_assoc,
        ← hadded]
      exact ⟨Store.lookup_alterThread_self hthread _, rfl⟩

end Writing

section Deleting

def deleteCall (c : Comment) : Call := .deleteComment c.id

def delete (thread : ThreadId) (c : Comment) (s : Store) : Store := s.deleteComment ⟨thread, c.id, none⟩

theorem eraseP_eq_filter (hd : (cs.map (·.id)).Nodup) (k : String) :
    cs.eraseP (·.id = k) = cs.filter fun c => c.id ≠ k := by
  induction cs with
  | nil => rfl
  | cons c cs ih =>
    rw [List.map_cons, List.nodup_cons] at hd
    by_cases hc : c.id = k
    · have hrest : (cs.filter fun d => d.id ≠ k) = cs := by
        refine List.filter_eq_self.mpr fun d hdc => decide_eq_true fun hdk => hd.1 ?_
        exact (hdk.trans hc.symm) ▸ List.mem_map_of_mem hdc
      rw [List.eraseP_cons, decide_eq_true hc, cond_true, List.filter_cons_of_neg (by simpa using hc), hrest]
    · rw [List.eraseP_cons, decide_eq_false hc, cond_false, List.filter_cons_of_pos (by simpa using hc), ih hd.2]

theorem lookup_deleted {gone : List Comment} (hlookup : s.threads.lookup thread = some cs)
    (hd : (cs.map (·.id)).Nodup) :
    (gone.foldl (fun s c => delete thread c s) s).threads.lookup thread =
      some (cs.filter fun c => c.id ∉ gone.map (·.id)) := by
  induction gone generalizing s cs with
  | nil =>
    have hall : (cs.filter fun c => c.id ∉ ([] : List Comment).map (·.id)) = cs :=
      List.filter_eq_self.mpr fun c _ => decide_eq_true List.not_mem_nil
    rw [hall]
    exact hlookup
  | cons c gone ih =>
    have hfirst := Store.lookup_alterThread_self hlookup (·.eraseP (·.id = c.id))
    rw [eraseP_eq_filter hd] at hfirst
    have hrest := ih (s := delete thread c s) hfirst
      (hd.sublist (List.filter_sublist.map _))
    rw [List.foldl_cons, hrest, List.filter_filter]
    refine congrArg some (List.filter_congr fun d _ => ?_)
    simp only [List.map_cons, List.mem_cons, not_or, Bool.decide_and, Bool.and_comm, ne_eq]

end Deleting

end IssueBridge.Tracker
