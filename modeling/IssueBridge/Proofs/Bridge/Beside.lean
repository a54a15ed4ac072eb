import IssueBridge.Proofs.Bridge.Creation
import IssueBridge.Proofs.Bridge.Thread
import IssueBridge.Proofs.Step.Coupled
import IssueBridge.Proofs.Tracker.Beside

/-! # Steps beside an ailing ticket

Two runs in which only calls that concern one ticket may fail go side by side in all they do to other tickets.
-/

namespace IssueBridge

open Step Tracker

def Call.Concerns (a : Ailing) : Call → Prop
  | .update key _ => key = a.key
  | .transition key _ => key = a.key
  | .comments thread => thread = a.thread
  | .addComment thread _ => thread = a.thread
  | .updateComment id _ => id ∈ a.comments
  | .deleteComment id => id ∈ a.comments
  | _ => False

/-- All calls but those that concern the ailing ticket are served. -/
def Faults.Spare (a : Ailing) (faults : Faults) : Prop :=
  ∀ history c, ¬ c.Concerns a → faults history c = .served

/-- The worlds have the same source and differ in the ailing ticket and in the ids of comments, and in both only
calls that concern this ticket may fail. -/
structure World.Beside (a : Ailing) (pairs : List (CommentRef × CommentRef)) (v w : World) : Prop where
  source : w.source = v.source
  spareLeft : v.faults.Spare a
  spareRight : w.faults.Spare a
  left : v.store.Apart a
  right : w.store.Apart a
  store : v.store.Beside a pairs w.store

def Bond.beside (a : Ailing) (pairs : List (CommentRef × CommentRef)) : Bond where
  rel := World.Beside a pairs
  noted hv hw h := {
    source := hw.source.trans (h.source.trans hv.source.symm)
    spareLeft := hv.faults ▸ h.spareLeft
    spareRight := hw.faults ▸ h.spareRight
    left := hv.store ▸ h.left
    right := hw.store ▸ h.right
    store := hv.store ▸ hw.store ▸ h.store }

variable {a : Ailing} {pairs : List (CommentRef × CommentRef)} {r : TicketRef}

theorem World.Beside.mapStore {pairs' : List (CommentRef × CommentRef)} {v w : World}
    (h : World.Beside a pairs v w) {s t : Store} (hs : s.Apart a) (ht : t.Apart a) (hst : s.Beside a pairs' t) :
    World.Beside a pairs' { v with store := s } { w with store := t } :=
  ⟨h.source, h.spareLeft, h.spareRight, hs, ht, hst⟩

theorem coupled_modifyStore {f g : Store → Store} (hf : ∀ s, s.Apart a → (f s).Apart a)
    (hg : ∀ t, t.Apart a → (g t).Apart a) (hfg : ∀ s t, s.Beside a pairs t → (f s).Beside a pairs (g t)) :
    Coupled (.beside a pairs) Eq (modifyStore f) (modifyStore g) :=
  .modifyStore fun _ _ h => h.mapStore (hf _ h.left) (hg _ h.right) (hfg _ _ h.store)

theorem coupled_place {c d : Call} (hc : ¬ c.Concerns a) (hd : ¬ d.Concerns a) :
    Coupled (.beside a pairs) Eq (place c) (place d) :=
  .of_silent (.place c) (.place d) fun v w h => by
    rw [outcome_place, outcome_place, h.spareLeft _ c hc, h.spareRight _ d hd]
    rfl

namespace Tracker

section Tickets

def Sound (a : Ailing) (x y : Ticket) : Prop := x = y ∧ x.key.get? ≠ a.key ∧ x.thread? ≠ some a.thread

theorem coupled_ticket (hr : r ≠ a.ref) : Coupled (.beside a pairs) (Sound a) (ticket r) (ticket r) :=
  .of_silent (silent_ticket r) (silent_ticket r) fun v w h => by
    have hsame := h.store.ticket r hr
    cases hx : v.store.ticket? r with
    | some x =>
      rw [outcome_ticket hx, outcome_ticket (hsame.trans hx)]
      exact ⟨rfl, h.left.key r x hr hx, h.left.thread r x hr hx⟩
    | none =>
      rw [outcome_ticket_of_none hx, outcome_ticket_of_none (hsame.trans hx)]
      rfl

theorem coupled_part {α : Type} (B : Bond) : ∀ p : Part α, Coupled B Eq (part p) (part p)
  | .given _ => .pure rfl
  | .null => .pure rfl
  | .missing => .throw _

theorem coupled_keyText (B : Bond) (t : Ticket) : Coupled B Eq (keyText t) (keyText t) :=
  (coupled_part B t.key).seq fun _ => .pure rfl

theorem coupled_update (hr : r ≠ a.ref) (fs : Fields) :
    Coupled (.beside a pairs) Eq (update r fs) (update r fs) := by
  refine (coupled_ticket hr).bind fun t _ ht => ?_
  obtain ⟨rfl, hkey, -⟩ := ht
  refine .loggingFrom ?_ ((coupled_keyText _ t).seq fun _ => .pure rfl) _
  have hcall : ¬ (Call.update t.key.get? fs).Concerns a := hkey
  refine (coupled_place hcall hcall).seq fun _ => ?_
  exact (coupled_modifyStore (fun s h => h.update r fs) (fun s h => h.update r fs)
    fun s t h => h.update hr fs).seq fun _ => (coupled_keyText _ t).discard

theorem coupled_transition (hr : r ≠ a.ref) (step : String) :
    Coupled (.beside a pairs) Eq (transition r step) (transition r step) := by
  refine (coupled_ticket hr).bind fun t _ ht => ?_
  obtain ⟨rfl, hkey, -⟩ := ht
  refine (coupled_keyText _ t).seq fun key => .logging ?_ _ _ _
  have hcall : ¬ (Call.transition t.key.get? step).Concerns a := hkey
  refine (coupled_place hcall hcall).seq fun _ => ?_
  exact (coupled_modifyStore (fun s h => h.transition r step) (fun s h => h.transition r step)
    fun s t h => h.transition hr step).seq fun _ => .say _ _ _ _

theorem coupled_create (fs : Fields) :
    Coupled (.beside a pairs) (fun r r' => r = r' ∧ r ≠ a.ref) (create fs) (create fs) := by
  refine (coupled_place id id).seq fun _ => ?_
  refine (Coupled.onStore (S := fun r r' => r = r' ∧ r ≠ a.ref) fun v w h => ⟨⟨?_, ?_⟩, ?_⟩).bind fun r _ hr => ?_
  · exact h.store.length.symm
  · exact (Nat.ne_of_lt h.left.inside).symm
  · exact h.mapStore (h.left.create fs) (h.right.create fs) (h.store.create h.left fs)
  · obtain ⟨rfl, hr⟩ := hr
    refine (coupled_ticket hr).bind fun t _ ht => ?_
    obtain ⟨rfl, -⟩ := ht
    exact (coupled_keyText _ t).seq fun _ => (Coupled.say _ _ _ _).seq fun _ => .pure ⟨rfl, hr⟩

end Tickets

end Tracker

theorem coupled_view (hr : r ≠ a.ref) : Coupled (.beside a pairs) Eq (Bridge.view r) (Bridge.view r) :=
  Coupled.get.bind fun v w h => .pure (by rw [h.store.ticket r hr])

theorem Editing.coupled {α : Type} {names : List String} {x : Step α} (h : Editing names r x) (hr : r ≠ a.ref) :
    Coupled (.beside a pairs) Eq x x :=
  .of_composed h fun α x he => by
    cases he with
    | view => exact coupled_view hr
    | update _ => exact coupled_update hr _
    | transition step _ => exact coupled_transition hr step

namespace Bridge

variable {b : Bridge} {repo : Repo} {i : GitHub.Issue} {name : String} {since : Time.Timestamp}

theorem coupled_createTicket (fs : Fields) :
    Coupled (.beside a pairs) (fun r r' => r = r' ∧ r ≠ a.ref) (createTicket fs) (createTicket fs) := by
  refine (coupled_create fs).observe.bind fun o p h => ?_
  match o, p, h with
  | .ok r, .ok _, h => exact .pure h
  | .error f, .error _, rfl =>
    dsimp only
    unfold createAgain
    split
    · exact (Coupled.say _ _ _ _).seq fun _ => (coupled_create _).logging _ _ _
    · split
      · exact (Coupled.say _ _ _ _).seq fun _ => .throw f
      · exact .throw f

theorem coupled_createFromSource (b : Bridge) (i : GitHub.Issue) (repo : Repo) :
    Coupled (.beside a pairs) (fun r r' => r = r' ∧ r ≠ a.ref) (b.createFromSource i repo)
      (b.createFromSource i repo) := by
  have hwarn : Coupled (.beside a pairs) Eq (b.warnUnmapped i) (b.warnUnmapped i) := by
    unfold warnUnmapped
    split
    · exact .say _ _ _ _
    · exact .pure rfl
  have hopened : Coupled (.beside a pairs) (fun r r' => r = r' ∧ r ≠ a.ref) (b.opened i repo) (b.opened i repo) :=
    (Coupled.ofLogged (b.blind_newFields i repo)).seq coupled_createTicket
  refine hwarn.seq fun _ => hopened.bind fun r _ hr => ?_
  obtain ⟨rfl, hr⟩ := hr
  exact ((editing_settleNew r i repo).coupled hr).seq fun _ => .pure ⟨rfl, hr⟩

section Finding

theorem keys_beside {s t : Store} (h : s.Beside a pairs t) (refs : List TicketRef) : keys t refs = keys s refs := by
  unfold keys
  refine List.map_congr_left fun r _ => ?_
  rw [h.map_ticket (fun x y hxy => hxy.key) r]

theorem coupled_search (query : String) : Coupled (.beside a pairs) Eq (search query) (search query) := by
  refine .logging ((coupled_place id id).seq fun served => ?_) _ _ _
  split
  · split
    · exact Coupled.get.bind fun v w h => .pure (by rw [h.store.search])
    · exact .pure rfl
  · exact .pure rfl

theorem coupled_findIssue (b : Bridge) (project : String) (id : Int) :
    Coupled (.beside a pairs) Eq (b.findIssue project id) (b.findIssue project id) := by
  refine (coupled_search _).seq fun refs => ?_
  match refs with
  | [] => exact .throw _
  | [r] => exact .pure rfl
  | r :: r' :: refs =>
    refine Coupled.get.bind fun v w h => (Coupled.say _ _ _ _).seq fun _ => ?_
    rw [keys_beside h.store]
    exact .throw _

theorem coupled_issues (owner name : String) (since : Option Time.Timestamp) :
    Coupled (.beside a pairs) Eq (GitHub.issues owner name since) (GitHub.issues owner name since) := by
  refine .logging ((coupled_place id id).seq fun _ => (coupled_place id id).seq fun _ => ?_) _ _ _
  refine Coupled.get.bind fun v w h => ?_
  rw [h.source]
  exact (Coupled.ofExcept (.of_eq rfl)).seq fun _ => .pure rfl

theorem coupled_githubComments (owner name : String) (number : Int) (since : Option Time.Timestamp) :
    Coupled (.beside a pairs) Eq (GitHub.comments owner name number since)
      (GitHub.comments owner name number since) := by
  refine .logging ((coupled_place id id).seq fun _ => (coupled_place id id).seq fun _ =>
    (coupled_place id id).seq fun _ => ?_) _ _ _
  refine Coupled.get.bind fun v w h => ?_
  rw [h.source]
  exact .ofExcept (.of_eq rfl)

end Finding

section Comments

variable {γ : Type} {thread : ThreadId} {p : CommentRef × CommentRef} {l l' : List CommentRef}

theorem coupled_threadOf (hr : r ≠ a.ref) : Coupled (.beside a pairs) (fun id id' => id = id' ∧ id ≠ a.thread)
    (threadOf r) (threadOf r) := by
  refine (coupled_ticket hr).bind fun t _ ht => ?_
  obtain ⟨rfl, -, hthread⟩ := ht
  have hpart : ∀ id, t.thread? = some id → id ≠ a.thread := fun id h heq => hthread (heq ▸ h)
  unfold Ticket.thread? at hpart
  unfold part
  cases hid : t.id with
  | missing => exact .throw _
  | null =>
    rw [hid] at hpart
    exact .pure ⟨rfl, hpart _ rfl⟩
  | given id =>
    rw [hid] at hpart
    exact .pure ⟨rfl, hpart _ rfl⟩

theorem coupled_comments_bind {f : List CommentRef → Step γ} (hid : thread ≠ a.thread)
    (hf : ∀ l l', List.Forall₂ (fun c d => (c, d) ∈ l.zip l') l l' →
      Coupled (.beside a (l.zip l')) Eq (f l) (f l')) :
    Coupled (.beside a []) Eq (Tracker.comments thread >>= f) (Tracker.comments thread >>= f) := by
  intro v w h
  have hcall : ¬ (Call.comments thread).Concerns a := hid
  obtain ⟨hv, hav⟩ := comments_of_served (h.spareLeft v.history _ hcall)
  obtain ⟨hw, haw⟩ := comments_of_served (h.spareRight w.history _ hcall)
  have hrel := (Bond.beside a _).noted hav haw (h.mapStore (h.left.comments thread) (h.right.comments thread)
    (h.store.comments h.left h.right hid))
  have hlength : (v.store.comments thread).1.length = (w.store.comments thread).1.length := by
    unfold Store.comments
    rw [List.length_map, List.length_map]
    exact (h.store.thread thread hid).length_eq
  have hzip := List.forall₂_iff_zip.mpr ⟨hlength, fun {c d} hcd => hcd⟩
  obtain ⟨ho, hr⟩ := hf _ _ hzip _ _ hrel
  rw [outcome_bind_ok hv, outcome_bind_ok hw, after_bind_ok hv, after_bind_ok hw]
  exact ⟨ho, hr.mapStore hr.left hr.right hr.store.forget⟩

theorem coupled_deleteIfSynced (hp : p ∈ pairs) :
    Coupled (.beside a pairs) Eq (deleteIfSynced p.1) (deleteIfSynced p.2) := by
  refine .of_rel fun v w h => ?_
  have htied := h.store.tied p hp
  have hdelete : Coupled (.beside a pairs) Eq (deleteComment p.1) (deleteComment p.2) := by
    refine .logging ?_ _ _ _
    have hleft : ¬ (Call.deleteComment p.1.id).Concerns a := htied.left
    have hright : ¬ (Call.deleteComment p.2.id).Concerns a := htied.right
    refine (coupled_place hleft hright).seq fun _ => ?_
    exact (coupled_modifyStore (fun s h => h.deleteComment p.1) (fun t h => h.deleteComment p.2)
      fun s t h => h.deleteComment hp).seq fun _ => .say _ _ _ _
  unfold deleteIfSynced
  rw [htied.body]
  refine (Coupled.ofExcept (.of_eq rfl)).seq fun o => ?_
  split
  · exact hdelete.abreast.contain _ _ _
  · exact .pure rfl

theorem coupled_updateComment (hp : p ∈ pairs) (body : String) :
    Coupled (.beside a pairs) Eq (updateComment p.1 body) (updateComment p.2 body) := by
  refine .of_rel fun v w h => .logging ?_ _ _ _
  have hleft : ¬ (Call.updateComment p.1.id body).Concerns a := (h.store.tied p hp).left
  have hright : ¬ (Call.updateComment p.2.id body).Concerns a := (h.store.tied p hp).right
  exact (coupled_place hleft hright).seq fun _ => coupled_modifyStore (fun s h => h.updateComment p.1 body)
    (fun t h => h.updateComment p.2 body) fun s t h => h.updateComment hp body

theorem coupled_addComment (hid : thread ≠ a.thread) (body : String) :
    Coupled (.beside a pairs) (fun _ _ => True) (addComment thread body) (addComment thread body) := by
  refine .logging ?_ _ _ _
  have hcall : ¬ (Call.addComment thread body).Concerns a := hid
  refine (coupled_place hcall hcall).seq fun _ => ?_
  refine (Coupled.onStore (S := fun _ _ => True) fun v w h => ⟨trivial, ?_⟩).bind fun c d _ => ?_
  · exact h.mapStore (h.left.addComment thread body) (h.right.addComment thread body)
      (h.store.addComment thread body)
  · exact (Coupled.say _ _ _ _).seq fun _ => .pure trivial

theorem paired_matching (hbody : ∀ p ∈ pairs, p.2.body = p.1.body) (id : Int)
    (h : List.Forall₂ (fun c d => (c, d) ∈ pairs) l l') :
    Paired (Option.Rel fun c d => (c, d) ∈ pairs) (matching l id) (matching l' id) := by
  unfold matching
  induction h with
  | nil => exact .none
  | @cons c d l l' hcd h ih =>
    rw [Correlation.findToken?_cons, Correlation.findToken?_cons, hbody _ hcd]
    cases Correlation.token? c.body with
    | error f => rfl
    | ok o =>
      cases o with
      | none => exact ih
      | some n =>
        dsimp only
        split
        · exact .some hcd
        · exact ih

theorem coupled_writeComment (hr : r ≠ a.ref) (h : List.Forall₂ (fun c d => (c, d) ∈ pairs) l l')
    (c : GitHub.Comment) :
    Coupled (.beside a pairs) Eq (b.writeComment r l c) (b.writeComment r l' c) := by
  refine .of_rel fun v w hvw => (Coupled.ofLogged (b.blind_commentBody c)).seq fun body => ?_
  refine (Coupled.ofExcept (paired_matching (fun p hp => (hvw.store.tied p hp).body) c.id h)).bind
    fun old old' hold => ?_
  refine Abreast.contain ?_ _ _ _
  cases hold with
  | some hcd => exact (coupled_updateComment hcd body).abreast
  | none =>
    refine (coupled_threadOf hr).bind_abreast fun thread _ ht => ?_
    obtain ⟨rfl, hid⟩ := ht
    exact (coupled_addComment hid body).discard.abreast

theorem coupled_syncComments (hr : r ≠ a.ref) (b : Bridge) (i : GitHub.Issue) (name : String) (repo : Repo)
    (since : Time.Timestamp) : Coupled (.beside a []) Eq (b.syncComments r i name repo since)
      (b.syncComments r i name repo since) := by
  refine (coupled_threadOf hr).bind fun thread _ ht => ?_
  obtain ⟨rfl, hid⟩ := ht
  refine coupled_comments_bind hid fun l l' hl => ?_
  split
  · exact .forM (hl.imp fun c d hcd => coupled_deleteIfSynced hcd)
  · exact (coupled_githubComments _ _ _ _).seq fun comments =>
      .forM_self fun c _ => coupled_writeComment hr hl c

end Comments

end Bridge

end IssueBridge
