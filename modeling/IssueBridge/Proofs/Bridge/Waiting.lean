import IssueBridge.Proofs.Bridge.Carrier
import IssueBridge.Proofs.Bridge.Work
import IssueBridge.Proofs.Tracker.Asked

/-! # Waiting for a ticket

A search that finds nothing is made again after a pause, a bounded number of times. What any other search comes to is
final. The events that wait for a ticket do nothing else before the waiting has ended.
-/

namespace IssueBridge

open Step Tracker

/-- The first step is done before all else that the second does, and where it fails there is nothing else. -/
structure Step.Leads {α β : Type} (x : Step α) (y : Step β) (w : World) : Prop where
  history : ∃ calls, (after y w).history = calls ++ (after x w).history
  failed : ∀ f, outcome x w = .error f → outcome y w = .error f ∧ after y w = after x w

theorem Step.Leads.of_bind {α β : Type} {x : Step α} {f : α → Step β} (h : ∀ a, Tracks (f a)) (w : World) :
    Leads x (x >>= f) w := by
  constructor
  · cases ho : outcome x w with
    | ok a =>
      obtain ⟨store, log, calls, hafter, -⟩ := (h a).worked (after x w)
      rw [after_bind_ok ho]
      exact ⟨calls, congrArg World.history hafter⟩
    | error e =>
      rw [after_bind_error ho]
      exact ⟨[], rfl⟩
  · intro f ho
    exact ⟨outcome_bind_error ho, after_bind_error ho⟩

inductive Missed : Except Failure (List TicketRef) → Prop
  | nothing : Missed (.ok [])
  | raised (project : String) (id : Int) : Missed (.error (.issueNotFound project id))

namespace Bridge

variable {b : Bridge} {project : String} {id : Int} {u : Course} {n : Nat}

section Verdict

variable {s : Store} {o : Except Failure (List TicketRef)}

/-- What is made of the outcome of a search for the ticket of an issue. -/
def verdict (s : Store) (project : String) (id : Int) : Except Failure (List TicketRef) → Except Failure TicketRef
  | .ok [] => .error (.issueNotFound project id)
  | .ok [r] => .ok r
  | .ok refs => .error (ambiguity project id (keys s refs))
  | .error f => .error f

theorem verdict_of_several {refs : List TicketRef} {names : List String} (h : 2 ≤ refs.length)
    (hnames : keys s refs = names.map some) :
    verdict s project id (.ok refs) = .error (.ambiguous project id names) := by
  match refs with
  | r :: r' :: refs =>
    have hnull : (names.map some).findIdx? (·.isNone) = none := by
      rw [List.findIdx?_eq_none_iff]
      simp
    show Except.error (ambiguity project id (keys s (r :: r' :: refs))) = _
    unfold ambiguity
    rw [hnames, hnull, List.filterMap_map]
    exact congrArg _ (congrArg _ List.filterMap_some)

theorem missed_iff : Missed o ↔ ∃ p i, verdict s project id o = .error (.issueNotFound p i) := by
  constructor
  · rintro (_ | ⟨p, i⟩)
    · exact ⟨project, id, rfl⟩
    · exact ⟨p, i, rfl⟩
  · rintro ⟨p, i, h⟩
    match o with
    | .ok [] => exact .nothing
    | .ok [r] => cases h
    | .ok (r :: r' :: refs) => exact absurd (Except.error.inj h) (ambiguity_ne_issueNotFound _ p i)
    | .error f =>
      obtain rfl := Except.error.inj h
      exact .raised p i

theorem proceeds_findIssue (b : Bridge) (u : Course) (project : String) (id : Int) :
    Proceeds u (b.findIssue project id)
      (verdict u.store project id (u.found (query b.fieldIds project id).text))
      (u.call (.search (query b.fieldIds project id).text)) := by
  have hsearch := proceeds_search u (query b.fieldIds project id).text
  unfold findIssue
  match hfound : u.found (query b.fieldIds project id).text with
  | .ok [] =>
    rw [hfound] at hsearch
    exact hsearch.bind (.throw _)
  | .ok [r] =>
    rw [hfound] at hsearch
    exact hsearch.bind (.pure r)
  | .ok (r :: r' :: refs) =>
    rw [hfound] at hsearch
    refine hsearch.bind (Proceeds.get_bind fun w hw => ?_)
    rw [show w.store = u.store from congrArg Course.store hw]
    exact (Proceeds.say _ _).bind (.throw _)
  | .error f =>
    rw [hfound] at hsearch
    exact hsearch.bind_error

end Verdict

def sought (b : Bridge) (project : String) (id : Int) : Call := .search (query b.fieldIds project id).text

/-- The pause after `k + 1` searches. Each is twice as long as the one before. -/
def pause (b : Bridge) (k : Nat) : Call := .sleep (b.settings.waitBaseDelay * Float.ofNat (2 ^ k))

/-- The course before search `k`, counted from 0: there was a pause after each search. -/
def waiting (b : Bridge) (project : String) (id : Int) (u : Course) : Nat → Course
  | 0 => u
  | k + 1 => ((waiting b project id u k).call (b.sought project id)).call (b.pause k)

def tried (b : Bridge) (project : String) (id : Int) (u : Course) (k : Nat) : Except Failure (List TicketRef) :=
  (b.waiting project id u k).found (query b.fieldIds project id).text

def paused (b : Bridge) (project : String) (id : Int) (u : Course) (k : Nat) : Except Failure Unit :=
  ((b.waiting project id u k).call (b.sought project id)).answer (b.pause k)

/-- Search `k` finds nothing, and the pause after it does not fail. -/
def InVain (b : Bridge) (project : String) (id : Int) (u : Course) (k : Nat) : Prop :=
  Missed (b.tried project id u k) ∧ b.paused project id u k = .ok ()

/-- How waiting ends where at most `n` searches are made: with a search that finds something or is the last one, or
with a pause that fails. -/
inductive Ends (b : Bridge) (project : String) (id : Int) (u : Course) (n : Nat) :
    Except Failure TicketRef → Course → Prop
  | search {m : Nat} (hm : m < n) (hbefore : ∀ k < m, b.InVain project id u k)
    (hlast : Missed (b.tried project id u m) → m + 1 = n) :
    Ends b project id u n (verdict u.store project id (b.tried project id u m))
      ((b.waiting project id u m).call (b.sought project id))
  | pause {m : Nat} {f : Failure} (hm : m + 1 < n) (hbefore : ∀ k < m, b.InVain project id u k)
    (hmissed : Missed (b.tried project id u m)) (hf : b.paused project id u m = .error f) :
    Ends b project id u n (.error f) (b.waiting project id u (m + 1))

theorem store_waiting (b : Bridge) (project : String) (id : Int) (u : Course) :
    ∀ k, (b.waiting project id u k).store = u.store
  | 0 => rfl
  | k + 1 => store_waiting b project id u k

theorem proceeds_tried (b : Bridge) (project : String) (id : Int) (u : Course) (k : Nat) :
    Proceeds (b.waiting project id u k) (b.findIssue project id)
      (verdict u.store project id (b.tried project id u k))
      ((b.waiting project id u k).call (b.sought project id)) := by
  rw [← b.store_waiting project id u k]
  exact b.proceeds_findIssue _ project id

section Again

variable {k left : Nat} {o : Except Failure TicketRef} {v : Course}

theorem proceeds_waitDelay (hk : k < 1024) (base : Float) (u : Course) :
    Proceeds u (Step.ofExcept (waitDelay base k)) (.ok (base * Float.ofNat (2 ^ k))) u := by
  have hdelay : waitDelay base k = .ok (base * Float.ofNat (2 ^ k)) := if_pos hk
  rw [← hdelay]
  exact .ofExcept _

theorem proceeds_findAfter_of_found (h : ¬ Missed (b.tried project id u k)) :
    Proceeds (b.waiting project id u k) (b.findAfter project id k (left + 1))
      (verdict u.store project id (b.tried project id u k))
      ((b.waiting project id u k).call (b.sought project id)) := by
  refine (b.proceeds_tried project id u k).observe.bind ?_
  cases hverdict : verdict u.store project id (b.tried project id u k) with
  | ok r => exact .pure r
  | error f =>
    split
    · cases ‹Except.error f = .ok _›
    · rename_i p i heq
      exact absurd (missed_iff.mpr ⟨p, i, hverdict.trans heq⟩) h
    · rename_i heq
      exact Except.error.inj heq ▸ .throw f

variable (hk : k < 1024) (hmissed : Missed (b.tried project id u k))
include hk hmissed

theorem proceeds_findAfter_of_paused (hpaused : b.paused project id u k = .ok ())
    (hrest : Proceeds (b.waiting project id u (k + 1)) (b.findAfter project id (k + 1) left) o v) :
    Proceeds (b.waiting project id u k) (b.findAfter project id k (left + 1)) o v := by
  have htried := (b.proceeds_tried project id u k).observe
  obtain ⟨p, i, hverdict⟩ := (missed_iff (s := u.store)).mp hmissed
  obtain ⟨served, hpause⟩ := Proceeds.place_of_ok hpaused
  rw [hverdict] at htried
  exact htried.bind ((proceeds_waitDelay hk _ _).bind (hpause.bind hrest))

theorem proceeds_findAfter_of_unpaused {f : Failure} (hpaused : b.paused project id u k = .error f) :
    Proceeds (b.waiting project id u k) (b.findAfter project id k (left + 1)) (.error f)
      (b.waiting project id u (k + 1)) := by
  have htried := (b.proceeds_tried project id u k).observe
  obtain ⟨p, i, hverdict⟩ := (missed_iff (s := u.store)).mp hmissed
  rw [hverdict] at htried
  exact htried.bind ((proceeds_waitDelay hk _ _).bind (Proceeds.place_of_error hpaused).bind_error)

end Again

/-- When `k` searches were made in vain, searching `left` times more after the next ends as waiting does. -/
theorem proceeds_findAfter (b : Bridge) (project : String) (id : Int) (u : Course) (hn : n ≤ 1024)
    {left : Nat} : ∀ {k : Nat}, k + left + 1 = n →
    (∀ j < k, b.InVain project id u j) →
    ∃ o v, b.Ends project id u n o v ∧ Proceeds (b.waiting project id u k) (b.findAfter project id k left) o v := by
  -- The searches that are left become fewer; that those before were in vain is carried along.
  induction left with
  | zero =>
    intro k hk hbefore
    exact ⟨_, _, .search (by omega) hbefore fun _ => hk, b.proceeds_tried project id u k⟩
  | succ left ih =>
    intro k hk hbefore
    have hk' : k < 1024 := by omega
    by_cases hmissed : Missed (b.tried project id u k)
    · cases hpaused : b.paused project id u k with
      | ok _ =>
        obtain ⟨o, v, hends, hrest⟩ := ih (k := k + 1) (by omega) fun j hj => by
          obtain hj | rfl := Nat.lt_succ_iff_lt_or_eq.mp hj
          · exact hbefore j hj
          · exact ⟨hmissed, hpaused⟩
        exact ⟨o, v, hends, proceeds_findAfter_of_paused hk' hmissed hpaused hrest⟩
      | error f =>
        exact ⟨_, _, .pause (by omega) hbefore hmissed hpaused, proceeds_findAfter_of_unpaused hk' hmissed hpaused⟩
    · exact ⟨_, _, .search (by omega) hbefore fun h => absurd h hmissed, proceeds_findAfter_of_found hmissed⟩

/-- Nothing is found up to search `m`, and the pause after it is the first that fails. -/
structure StopsAt (b : Bridge) (project : String) (id : Int) (u : Course) (m : Nat) (f : Failure) : Prop where
  before : ∀ k < m, b.InVain project id u k
  missed : Missed (b.tried project id u m)
  fails : b.paused project id u m = .error f

section Ending

variable {o : Except Failure TicketRef} {v : Course} {m : Nat} {f : Failure}

/-- The first pause that fails is the end. -/
theorem Ends.of_stopsAt (h : b.Ends project id u n o v) (hm : m + 1 < n) (hstop : b.StopsAt project id u m f) :
    o = .error f ∧ v = b.waiting project id u (m + 1) := by
  have hagree : ∀ {k g}, (∀ j < k, b.InVain project id u j) → b.paused project id u k = .error g → m ≤ k := by
    intro k g hk hg
    by_contra hlt
    have hvain := hstop.before k (Nat.lt_of_not_le hlt)
    rw [hvain.2] at hg
    cases hg
  cases h with
  | @search m' hm' hbefore hlast =>
    rcases Nat.lt_or_ge m m' with hlt | hle
    · have hvain := (hbefore m hlt).2
      rw [hstop.fails] at hvain
      cases hvain
    · have hmissed : Missed (b.tried project id u m') := by
        obtain hlt | rfl := Nat.lt_or_eq_of_le hle
        · exact (hstop.before m' hlt).1
        · exact hstop.missed
      have := hlast hmissed
      omega
  | @pause m' g hm' hbefore hmissed hg =>
    have hle : m ≤ m' := hagree hbefore hg
    have heq : m = m' := by
      by_contra hne
      have hvain := (hbefore m (by omega)).2
      rw [hstop.fails] at hvain
      cases hvain
    subst heq
    rw [hstop.fails] at hg
    exact ⟨congrArg Except.error (Except.error.inj hg).symm, rfl⟩

/-- That no issue was found is the outcome if no search finds one and no pause fails; a pause could only fail in the
same words. -/
theorem Ends.issueNotFound_iff (h : b.Ends project id u n o v) : (∃ p i, o = .error (.issueNotFound p i)) ↔
    ((∀ k < n, Missed (b.tried project id u k)) ∧ ∀ k, k + 1 < n → b.paused project id u k = .ok ()) ∨
      ∃ m p i, m + 1 < n ∧ b.StopsAt project id u m (.issueNotFound p i) := by
  constructor
  · intro ho
    cases h with
    | @search m hm hbefore hlast =>
      have hmissed := missed_iff.mpr ho
      obtain rfl := hlast hmissed
      refine .inl ⟨fun k hk => ?_, fun k hk => (hbefore k (by omega)).2⟩
      obtain hk | rfl := Nat.lt_succ_iff_lt_or_eq.mp hk
      · exact (hbefore k hk).1
      · exact hmissed
    | @pause m f hm hbefore hmissed hf =>
      obtain ⟨p, i, ho⟩ := ho
      exact .inr ⟨m, p, i, hm, hbefore, hmissed, hf.trans (congrArg Except.error (Except.error.inj ho))⟩
  · rintro (⟨hmissed, hpaused⟩ | ⟨m, p, i, hm, hstop⟩)
    · cases h with
      | @search m hm hbefore hlast => exact missed_iff.mp (hmissed m hm)
      | @pause m f hm hbefore hmissed hf =>
        rw [hpaused m hm] at hf
        cases hf
    · exact ⟨p, i, (h.of_stopsAt hm hstop).1⟩

end Ending

theorem Ends.store_eq {o : Except Failure TicketRef} {v : Course} (h : b.Ends project id u n o v) :
    v.store = u.store := by
  cases h with
  | search => exact b.store_waiting ..
  | pause => exact b.store_waiting ..

/-- The actions whose events wait for a ticket that may still be about to be created. -/
def waitingActions : List IssueAction := [.assigned, .unassigned, .labeled]

theorem awaitIssue_leads {a : IssueAction} (ha : a ∈ waitingActions) (e : GitHub.IssueEvent) (repo : Repo)
    (w : World) : Leads (b.awaitIssue repo.project e.issue.id) (b.handleIssue a e repo) w := by
  have hopened : a ≠ .opened := by
    rintro rfl
    cases List.contains_iff_mem.mpr ha
  have hfinder : b.finder a e.issue repo = b.awaitIssue repo.project e.issue.id := by
    simp only [waitingActions, List.mem_cons, List.not_mem_nil, or_false] at ha
    obtain rfl | rfl | rfl := ha <;> rfl
  obtain ⟨f, hf, hedits⟩ := editsFound_handleIssue (b := b) hopened e
  rw [hf, hfinder]
  exact Leads.of_bind (fun r => (hedits r).labours.tracks) w

/-- Waiting for the ticket of an issue makes `n` searches at most, where `n` is the number of attempts, but at least
one, with a pause between any two, each twice as long as the one before. It ends with the last search, with the first
that finds a ticket, finds several or fails, or with the first pause that fails: no search follows it, and its failure is
the outcome. That no issue was found is the outcome exactly if none of the searches finds one and none of the pauses
fails, or fails in these words. Of several tickets with keys the outcome gives the keys. The store stays as it is, and the
events that wait do nothing else before. -/
theorem awaitIssue_ends (hb : b.settings.waitAttempts ≤ 1024) (project : String) (id : Int) (w : World) :
    let n := (max 1 b.settings.waitAttempts).toNat
    let o := outcome (b.awaitIssue project id) w
    b.Ends project id w.course n o (after (b.awaitIssue project id) w).course ∧
      (after (b.awaitIssue project id) w).store = w.store ∧
      ((∃ p i, o = .error (.issueNotFound p i)) ↔
        ((∀ k < n, Missed (b.tried project id w.course k)) ∧
            ∀ k, k + 1 < n → b.paused project id w.course k = .ok ()) ∨
          ∃ m p i, m + 1 < n ∧ b.StopsAt project id w.course m (.issueNotFound p i)) ∧
      (∀ m f, m + 1 < n → b.StopsAt project id w.course m f →
        o = .error f ∧ (after (b.awaitIssue project id) w).course = b.waiting project id w.course (m + 1)) ∧
      (∀ refs names, 2 ≤ refs.length → keys w.store refs = names.map some →
        verdict w.store project id (.ok refs) = .error (.ambiguous project id names)) ∧
      ∀ a ∈ waitingActions, ∀ e repo, Leads (b.awaitIssue repo.project e.issue.id) (b.handleIssue a e repo) w := by
  dsimp only
  have hn : (max 1 b.settings.waitAttempts).toNat ≤ 1024 := by omega
  have hleft : 0 + (b.settings.waitAttempts.toNat - 1) + 1 = (max 1 b.settings.waitAttempts).toNat := by omega
  obtain ⟨o, v, hends, hproceeds⟩ := b.proceeds_findAfter project id w.course hn hleft nofun
  obtain ⟨rfl, rfl⟩ := hproceeds w rfl
  refine ⟨hends, hends.store_eq, hends.issueNotFound_iff, fun m f => hends.of_stopsAt,
    fun refs names => verdict_of_several, ?_⟩
  intro a ha e repo
  exact awaitIssue_leads ha e repo w

def lateTicket : Ticket := ⟨.given "AB-1", .given "1", .given [("customfield_10", .int 7)], [("project", .str "AB")]⟩

/-- A world in which the first two searches find nothing although the ticket is there. -/
def lateWorld : World := { smallWorld with
  store := { tickets := [lateTicket] }
  faults history c :=
    match c with
    | .search _ => if history.length < 4 then .empty else .served
    | _ => .served }

theorem awaitIssue_ends_late : small.settings.waitAttempts ≤ 1024 ∧
    small.InVain "AB" 7 lateWorld.course 0 ∧ small.InVain "AB" 7 lateWorld.course 1 ∧
    small.Ends "AB" 7 lateWorld.course 5 (.ok 0) (after (small.awaitIssue "AB" 7) lateWorld).course := by
  have ho : outcome (small.awaitIssue "AB" 7) lateWorld = .ok 0 := eq_ok_of_toOption (by decide +kernel)
  have hends := (awaitIssue_ends (b := small) (by decide) "AB" 7 lateWorld).1
  rw [ho] at hends
  exact ⟨by decide, ⟨.nothing, rfl⟩, ⟨.nothing, rfl⟩, hends⟩

def hasty : Bridge := { small with settings := { small.settings with waitBaseDelay := -1.0, waitAttempts := 3 } }

/-- A world with nothing to find, which refuses to sleep for a negative time. -/
def wakefulWorld : World := { smallWorld with
  faults _ c :=
    match c with
    | .sleep _ => .failed (.refused "sleep length must be non-negative")
    | _ => .served }

/-- A world in which two tickets without a key carry an issue. -/
def twinWorld : World := { smallWorld with
  store := { tickets := List.replicate 2 { lateTicket with key := .null } } }

/-- Where no search would find anything, the first pause can be the end; and several tickets may have no keys to be
named by. -/
theorem awaitIssue_ends_otherwise :
    (∀ k < 3, Missed (hasty.tried "AB" 7 wakefulWorld.course k)) ∧
      outcome (hasty.awaitIssue "AB" 7) wakefulWorld = .error (.refused "sleep length must be non-negative") ∧
      (after (hasty.awaitIssue "AB" 7) wakefulWorld).history.map Call.name = ["sleep", "search_issues"] ∧
      twinWorld.store.search (query small.fieldIds "AB" 7) = [0, 1] ∧
      outcome (small.awaitIssue "AB" 7) twinWorld = .error (.nullKey 0) := by
  refine ⟨fun k hk => ?_, rfl, by decide +kernel, by decide +kernel, rfl⟩
  obtain rfl | rfl | rfl : k = 0 ∨ k = 1 ∨ k = 2 := by omega
  · exact .nothing
  · exact .nothing
  · exact .nothing

end Bridge

end IssueBridge
