import IssueBridge.Proofs.Bridge.Beside
import IssueBridge.Proofs.Bridge.Mirror

/-! # One ticket's failures

Two passes over the same trackers, in which only calls that concern one ticket may fail, bring all other
tickets to the same end.
-/

namespace IssueBridge

open Step Tracker

/-- What the ailing ticket goes by stays its own. -/
def Frame.apart (a : Ailing) : Frame where
  rel v w := Frame.surroundings.rel v w ∧ (v.store.Apart a → w.store.Apart a)
  trans h h' := ⟨Frame.surroundings.trans h.1 h'.1, h'.2 ∘ h.2⟩
  noted h := ⟨Frame.surroundings.noted h, fun hv => h.store ▸ hv⟩

variable {α : Type} {a : Ailing} {r : TicketRef} {v w : World}

theorem Frame.Admits.apart {names : List String} : (Frame.apart a).Admits names r :=
  fun _ fs _ => ⟨⟨rfl, rfl, rfl⟩, fun h => h.update r fs⟩

theorem Step.Applies.apart {g : Store → Store} {x : Step α} (h : Applies g x)
    (hg : ∀ s : Store, s.Apart a → (g s).Apart a) : Keeps (.apart a) x :=
  h.keeps fun w => ⟨⟨rfl, rfl, rfl⟩, hg w.store⟩

namespace Bridge

variable {b : Bridge} {i : GitHub.Issue} {name : String} {repo : Repo} {since : Time.Timestamp}

theorem keeps_syncComments_apart (r : TicketRef) :
    Keeps (.apart a) (b.syncComments r i name repo since) := by
  have hdelete : ∀ c, Keeps (.apart a) (deleteIfSynced c) := fun c =>
    (Keeps.ofExcept _).bind fun o => by
      split
      · exact ((applies_deleteComment c).apart fun s h => h.deleteComment c).contain _ _
      · exact .pure _
  have hput : ∀ body old, Keeps (.apart a) (putComment r body old) := by
    intro body old
    cases old with
    | some c => exact (applies_updateComment c body).apart fun s h => h.updateComment c body
    | none =>
      exact (silent_threadOf r).keeps.bind fun thread =>
        ((applies_addComment thread body).apart fun s h => h.addComment thread body).discard
  refine (silent_threadOf r).keeps.bind fun thread =>
    ((applies_comments thread).apart fun s h => h.comments thread).bind fun existing => ?_
  split
  · exact .forM fun c _ => hdelete c
  · refine (GitHub.silent_comments repo.owner name i.number (some since)).keeps.bind fun comments =>
      .forM fun c _ => ?_
    exact (Keeps.ofLogged _).bind fun body => (Keeps.ofExcept _).bind fun old => (hput body old).contain _ _

theorem coupled_ensureTicket (b : Bridge) (name : String) (repo : Repo) (i : GitHub.Issue) :
    Coupled (.beside a []) Eq (b.ensureTicket name repo i) (b.ensureTicket name repo i) := by
  refine (coupled_findIssue b repo.project i.id).observe.bind fun o p h => ?_
  cases h.eq
  split
  · exact .pure rfl
  · refine (coupled_createFromSource b i repo).observe.bind fun o p h => ?_
    match o, p, h with
    | .ok _, .ok _, _ => exact .modifyTally _ _
    | .error f, .error _, rfl => exact (Coupled.say _ _ _ _).seq fun _ => .modifyTally _ _
  · exact (Coupled.say _ _ _ _).seq fun _ => .modifyTally _ _

theorem abreast_refresh (b : Bridge) (i : GitHub.Issue) (name : String) (repo : Repo) (since : Time.Timestamp) :
    let refresh := do
      b.updateFromSource a.ref i repo
      b.syncComments a.ref i name repo since
    Abreast (.beside a []) refresh refresh := by
  intro refresh v w h
  have hkeeps : Keeps (.apart a) refresh :=
    ((editing_updateFromSource b a.ref i repo).keeps .apart).bind fun _ => keeps_syncComments_apart a.ref
  have halters : ∀ u : World, u.store.Apart a →
      u.store.Alters mirrored (· = a.ref) (· = a.thread) (after refresh u).store := by
    intro u hu
    refine (rel_refresh b a.ref i name repo since u).1.mono (List.Subset.refl _) (fun _ => id) ?_
    rintro thread ⟨x, hx, hthread⟩
    exact Option.some.inj (hthread.symm.trans (hu.own x hx))
  obtain ⟨⟨hsource, hfaults, -⟩, hv⟩ := hkeeps v
  obtain ⟨⟨hsource', hfaults', -⟩, hw⟩ := hkeeps w
  exact {
    source := hsource'.trans (h.source.trans hsource.symm)
    spareLeft := hfaults.symm ▸ h.spareLeft
    spareRight := hfaults'.symm ▸ h.spareRight
    left := hv h.left
    right := hw h.right
    store := h.store.alters (halters v h.left) (halters w h.right) }

theorem abreast_bringUpToDate (b : Bridge) (name : String) (repo : Repo) (since : Time.Timestamp)
    (i : GitHub.Issue) :
    Abreast (.beside a []) (b.bringUpToDate name repo since i) (b.bringUpToDate name repo since i) := by
  refine (coupled_findIssue b repo.project i.id).bind_abreast fun r _ hr => ?_
  subst hr
  by_cases hr : r = a.ref
  · subst hr
    exact abreast_refresh b i name repo since
  · exact (((editing_updateFromSource b r i repo).coupled hr).seq fun _ =>
      coupled_syncComments hr b i name repo since).abreast

theorem coupled_syncIssue (b : Bridge) (name : String) (repo : Repo) (since : Time.Timestamp)
    (i : GitHub.Issue) :
    Coupled (.beside a []) Eq (b.syncIssue name repo since i) (b.syncIssue name repo since i) := by
  intro v w h
  refine ⟨?_, ?_⟩
  · rw [outcome_syncIssue, outcome_syncIssue]
    rfl
  · -- The issue may count as updated in one run and as failed in the other.
    refine (abreast_bringUpToDate b name repo since i).observe.bind_abreast (fun o p _ => .of_silent ?_ ?_) v w h
    · cases o with
      | ok u => exact .modifyTally _
      | error f => exact (Keeps.say _ _).bind fun _ => .modifyTally _
    · cases p with
      | ok u => exact .modifyTally _
      | error f => exact (Keeps.say _ _).bind fun _ => .modifyTally _

section Repositories

theorem coupled_updateAll (b : Bridge) (name : String) (repo : Repo) (since : Time.Timestamp)
    (issues : List GitHub.Issue) :
    Coupled (.beside a []) Eq (b.updateAll name repo since issues) (b.updateAll name repo since issues) := by
  unfold updateAll
  split
  · exact (coupled_place id id).seq fun _ => .forM_self fun i _ => coupled_syncIssue b name repo since i
  · exact .pure rfl

theorem coupled_journalEntry (b : Bridge) (e e' : JournalEntry) :
    Coupled (.beside a []) Eq (b.journal e) (b.journal e') := by
  unfold Bridge.journal
  split
  · exact (coupled_place id id).seq fun _ =>
      (Abreast.of_silent (silent_insertRow e) (silent_insertRow e')).contain _ _ _
  · exact .pure rfl

theorem coupled_reportRepository (b : Bridge) (name : String) (issues : Nat) :
    Coupled (.beside a []) Eq (b.reportRepository name issues) (b.reportRepository name issues) := by
  have hjournal : ∀ tally : Tally, ∃ e, (if (tally.errorsOf name).isEmpty
      then b.journalPass name .success s!"{issues} issues synced"
      else b.journalPass name .failed s!"{(tally.errorsOf name).length} of {issues} issues failed") =
        b.journal e := by
    intro tally
    split <;> exact ⟨_, rfl⟩
  refine Coupled.get.bind fun v w _ => ?_
  obtain ⟨e, he⟩ := hjournal v.tally
  obtain ⟨e', he'⟩ := hjournal w.tally
  dsimp only
  rw [he, he']
  exact coupled_journalEntry b e e'

theorem coupled_syncRepository (b : Bridge) (since : Time.Timestamp) (name : String) (repo : Repo) :
    Coupled (.beside a []) Eq (b.syncRepository since name repo) (b.syncRepository since name repo) := by
  refine (Coupled.modifyTally _ _).seq fun _ => ?_
  refine (coupled_issues repo.owner name (some since)).observe.bind fun o p h => ?_
  cases h.eq
  cases o with
  | error f =>
    exact (Coupled.say _ _ _ _).seq fun _ => (Coupled.modifyTally _ _).seq fun _ =>
      coupled_journalEntry b _ _
  | ok issues =>
    exact (Coupled.modifyTally _ _).seq fun _ =>
      (Coupled.forM_self fun i _ => coupled_ensureTicket b name repo i).seq fun _ =>
        (coupled_updateAll b name repo since issues).seq fun _ => coupled_reportRepository b name _

theorem coupled_syncRepositories (b : Bridge) (since : Time.Timestamp) : ∀ repos : Table Repo,
    Coupled (.beside a []) Eq (b.syncRepositories since repos) (b.syncRepositories since repos)
  | [] => .pure rfl
  | (name, repo) :: repos => by
    have hrest := coupled_syncRepositories b since repos
    refine (coupled_syncRepository b since name repo).observe.bind fun o p h => ?_
    cases h.eq
    cases o with
    | ok u => exact hrest
    | error f => exact hrest.seq fun fs => .pure rfl

theorem coupled_syncConfigured (b : Bridge) (since : Time.Timestamp) :
    Coupled (.beside a []) Eq (b.syncConfigured since) (b.syncConfigured since) := by
  have hreport : ∀ f, Coupled (.beside a []) Eq (reportCrash f) (reportCrash f) := fun f =>
    (Coupled.say _ _ _ _).seq fun _ => .modifyTally _ _
  unfold syncConfigured
  dsimp only
  split
  · exact (coupled_place id id).seq fun _ => (coupled_syncRepositories b since _).seq fun fs =>
      .forM_self fun f _ => hreport f
  · exact .pure rfl

end Repositories

/-- Two passes that start at the same time with the same watermark go side by side. -/
theorem beside_pass (h : World.Beside a [] v w) (hclock : w.clock = v.clock) (htables : w.tables = v.tables)
    (b : Bridge) : World.Beside a [] (after b.pass v) (after b.pass w) := by
  have hopen : w.faults w.history .openSession = v.faults v.history .openSession :=
    (h.spareRight _ _ id).trans (h.spareLeft _ _ id).symm
  have hstart : outcome b.startPass w = outcome b.startPass v := by
    rw [outcome_startPass, outcome_startPass]
    exact Watermark.outcome_since (v := { v with tally := {} }) (w := { w with tally := {} }) hclock htables hopen _
  have hrel := (Bond.beside a []).noted (silent_startPass b v) (silent_startPass b w) h
  unfold pass
  cases hv : outcome b.startPass v with
  | error f =>
    rw [after_bind_error hv, after_bind_error (hstart.trans hv)]
    exact hrel
  | ok since =>
    rw [after_bind_ok hv, after_bind_ok (hstart.trans hv)]
    exact (coupled_syncConfigured b since).bind_abreast (fun _ _ _ => .of_silent silent_endPass silent_endPass)
      _ _ hrel

theorem beside_syncAll (h : World.Beside a [] v w) (hclock : w.clock = v.clock) (htables : w.tables = v.tables)
    (hbusy : w.busy = v.busy) (b : Bridge) : World.Beside a [] (after b.syncAll v) (after b.syncAll w) := by
  have hset : ∀ busy {v w : World}, World.Beside a [] v w →
      World.Beside a [] { v with busy } { w with busy } :=
    fun _ _ _ h => ⟨h.source, h.spareLeft, h.spareRight, h.left, h.right, h.store⟩
  cases hv : v.busy with
  | true =>
    exact (Bond.beside a []).noted (syncAll_of_busy hv b).2 (syncAll_of_busy (hbusy.trans hv) b).2 h
  | false =>
    rw [(syncAll_of_not_busy hv b).2, (syncAll_of_not_busy (hbusy.trans hv) b).2]
    exact hset _ (beside_pass (hset true h) hclock htables b)

/-- Of two passes over the same trackers in which calls that concern one ticket fare differently, in whatever
way, both make the same of every other ticket, and give it comments with the same bodies in the same order. The
ticket itself differs at most in mirrored fields. -/
theorem syncAll_isolates {k : TicketRef} {x : Ticket} {f g : Faults} (hnum : w.store.Numbered)
    (hnamed : w.store.Named) (hthreads : w.store.Threaded) (hparted : w.store.Parted)
    (hx : w.store.ticket? k = some x) (hf : f.Spare (w.store.ailing k x)) (hg : g.Spare (w.store.ailing k x))
    (b : Bridge) :
    let s := (after b.syncAll { w with faults := f }).store
    let t := (after b.syncAll { w with faults := g }).store
    (∀ r, r ≠ k → t.ticket? r = s.ticket? r ∧ ∀ y thread, s.ticket? r = some y → y.thread? = some thread →
      (t.thread thread).map (·.body) = (s.thread thread).map (·.body)) ∧
      ∃ y z, s.ticket? k = some y ∧ t.ticket? k = some z ∧ y.SameBut mirrored z := by
  intro s t
  have hapart := Store.apart_ailing hnum hnamed hthreads hparted hx
  have hstart : World.Beside (w.store.ailing k x) [] { w with faults := f } { w with faults := g } :=
    ⟨rfl, hf, hg, hapart, hapart, .refl _ _⟩
  have hend := beside_syncAll hstart rfl rfl rfl b
  refine ⟨fun r hr => ⟨hend.store.ticket r hr, fun y thread hy hthread => ?_⟩, ?_⟩
  · have hother : thread ≠ (w.store.ailing k x).thread := fun heq =>
      hend.left.thread r y hr hy (heq ▸ hthread)
    exact hend.store.map_body hother
  · have hlt : k < s.tickets.length := hend.left.inside
    obtain ⟨z, hz, hyz⟩ := hend.store.own s.tickets[k] (List.getElem?_eq_getElem hlt)
    exact ⟨_, z, List.getElem?_eq_getElem hlt, hz, hyz⟩

theorem named_half : halfWorld.store.Named where
  distinct := List.pairwise_singleton _ _
  fresh x hx p n hn heq := by
    rw [List.mem_singleton.mp hx] at heq
    have hkey : "AB-1" = p ++ "-" ++ toString n := Part.given.inj heq
    -- Only the project that the key names counts a ticket, and that is the first.
    have hproject : p = "AB" := by
      rw [← Ticket.keyPrefix_numbered p n, ← hkey]
      decide
    subst hproject
    have hone : 1 = n := Text.toString_inj ((String.append_right_inj "AB-").mp hkey)
    have hcount : halfWorld.store.projects.count "AB" = 1 := by decide
    omega

def refusing : Faults := fun _ c =>
  match c with
  | .update (some "AB-1") _ => .failed (.connection "refused")
  | .comments (some "10001") => .failed (.connection "refused")
  | _ => .served

theorem syncAll_isolates_half :
    let s := (after small.syncAll { halfWorld with faults := .none }).store
    let t := (after small.syncAll { halfWorld with faults := refusing }).store
    (s.ticket? 0).any (fun x => (x.field "summary").isText "Old") ∧
      (t.ticket? 0).all (fun x => !(x.field "summary").isText "Old") ∧
      t.ticket? 1 = s.ticket? 1 ∧
      (t.thread (some "10002")).map (·.body) = (s.thread (some "10002")).map (·.body) ∧
      (s.thread (some "10002")).length = 1 := by
  intro s t
  have hspare : refusing.Spare (halfWorld.store.ailing 0 halfWorld.store.tickets[0]) := by
    intro history c hc
    unfold refusing
    split
    · exact absurd rfl hc
    · exact absurd rfl hc
    · rfl
  have hthreads : halfWorld.store.Threaded := .of_ids (by decide)
  obtain ⟨hothers, -⟩ := syncAll_isolates numbered_half named_half hthreads (fun _ _ _ _ hc => by cases hc) rfl
    (f := .none) (fun _ _ _ => rfl) hspare small
  obtain ⟨hticket, hbodies⟩ := hothers 1 (by decide)
  have hnew : (s.ticket? 1).bind (·.thread?) = some (some "10002") := by decide +kernel
  obtain ⟨y, hy, hthread⟩ := Option.bind_eq_some_iff.mp hnew
  exact ⟨by decide +kernel, by decide +kernel, hticket, hbodies y _ hy hthread, by decide +kernel⟩

end Bridge

end IssueBridge
