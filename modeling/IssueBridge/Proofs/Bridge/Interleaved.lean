import IssueBridge.Proofs.Bridge.Concurrent

/-! # What the workers of a pass do to the carriers of an issue

A worker makes a carrier only after a search that found none. In between another worker may have made one. So each
worker of a repository that lists the issue may add one carrier, and no other worker adds any.
-/

namespace IssueBridge

open Step Tracker Correlation

/-- Nothing that answers a query is lost. -/
def Frame.grows (q : Query) : Frame where
  rel v w := Frame.surroundings.rel v w ∧ v.store.search q <+: w.store.search q
  trans h h' := ⟨Frame.surroundings.trans h.1 h'.1, h.2.trans h'.2⟩
  noted h := ⟨Frame.surroundings.noted h, h.store ▸ List.prefix_rfl⟩

/-- The same tickets answer a query. -/
def Frame.fixes (q : Query) : Frame where
  rel v w := Frame.surroundings.rel v w ∧ w.store.search q = v.store.search q
  trans h h' := ⟨Frame.surroundings.trans h.1 h'.1, h'.2.trans h.2⟩
  noted h := ⟨Frame.surroundings.noted h, h.store ▸ rfl⟩

def World.answering (q : Query) (w : World) : Nat := (w.store.search q).length

variable {q : Query} {v w : World}

theorem World.Agrees.answering_eq (h : v.Agrees w) (q : Query) : w.answering q = v.answering q := by
  unfold World.answering
  rw [h.store]

theorem Frame.fixes_le (h : (Frame.fixes q).rel v w) :
    (Frame.grows q).rel v w ∧ w.answering q ≤ v.answering q :=
  ⟨⟨h.1, h.2 ▸ List.prefix_rfl⟩, Nat.le_of_eq (congrArg List.length h.2)⟩

theorem Frame.fixes_of_alters {T : TicketRef → Prop} {D : ThreadId → Prop}
    (h : (Frame.alters mirrored T D).rel v w) : (Frame.fixes q).rel v w :=
  ⟨h.2, h.1.search q⟩

theorem Frame.fixes_admits (r : TicketRef) : (Frame.fixes q).Admits mirrored r := fun w fs h =>
  fixes_of_alters (Frame.Admits.alters (T := (· = r)) (D := fun _ => False) rfl w fs h)

theorem Step.Keeps.fixes {α : Type} {x : Step α} {T : TicketRef → Prop} {D : ThreadId → Prop}
    (h : Keeps (.alters mirrored T D) x) : Keeps (.fixes q) x := fun w => Frame.fixes_of_alters (h w)

theorem Step.Keeps.fixes_of_comments {α : Type} {x : Step α} {r : TicketRef}
    (h : Keeps (.comments r fun _ => True) x) : Keeps (.fixes q) x := fun w => by
  obtain ⟨-, hrel⟩ := h w fun _ _ _ _ => trivial
  exact ⟨hrel.2, (hrel.1.mono (List.nil_subset _) (fun _ => id) fun _ => id).search q⟩

/-- In company that loses no answer to a query, the fiber loses none either and adds no more than it is allowed. -/
abbrev Fiber.Adds {α : Type} (q : Query) (Q : Nat → Except Failure α → World → Prop) (t : Fiber α) (n : Nat)
    (w : World) : Prop :=
  t.Meets (.grows q) (World.answering q) Q n w

theorem Fiber.Calm.adds {α : Type} {t : Fiber α} (h : t.Calm (.fixes q)) (n : Nat) (w : World) :
    t.Adds q (fun m _ v => m = n ∧ (Frame.grows q).rel w v) n w :=
  h.meets (fun _ _ => Frame.fixes_le) n w

/-- Before a fiber goes on, something is done that never fails and leaves the tracker alone. -/
theorem Fiber.Adds.silent_bind {α β : Type} {Q : Nat → Except Failure α → World → Prop} {x : Step β}
    {f : β → Fiber α} {n : Nat} (hx : Silent x) (hok : ∀ w, ∃ a, outcome x w = .ok a)
    (hf : ∀ a v, (Frame.grows q).rel w v → (f a).Adds q Q n v) : (Fiber.lift x >>= f).Adds q Q n w := by
  have hcalm : (Fiber.lift x).Calm (.fixes q) := .lift hx.keeps
  refine ((hcalm.adds n w).yields (P := fun o => ∃ a, o = .ok a) hok).bind (fun m a v hm => ?_) fun m e v hm => ?_
  · obtain ⟨⟨rfl, hv⟩, -⟩ := hm
    exact hf a v hv
  · obtain ⟨-, a, ha⟩ := hm
    cases ha

namespace Bridge.Fibers

variable {b : Bridge} {name : String} {repo : Repo} {since : Time.Timestamp} {i : GitHub.Issue} {r : TicketRef}

section Calm

theorem calm_transitions (r : TicketRef) (repo : Repo) (name : String) :
    (transitions r repo name).Calm (.fixes q) :=
  .forM fun step _ => .lift <| by
    have hedit : Edits mirrored r _ (Tracker.transition r step) := .transition step (by decide)
    exact hedit.keeps (Frame.fixes_admits r)

theorem calm_settleNew (r : TicketRef) (i : GitHub.Issue) (repo : Repo) :
    (settleNew r i repo).Calm (.fixes q) := by
  have hclose : (closeNew r i repo).Calm (.fixes q) := by
    unfold closeNew
    split
    · exact (calm_transitions r repo done).contain _ _
    · exact .pure _
  exact hclose.bind fun _ => .forM fun rule hrule => .lift ((editing_fillIn rule hrule).keeps (Frame.fixes_admits r))

theorem calm_updateFromSource (b : Bridge) (r : TicketRef) (i : GitHub.Issue) (repo : Repo) :
    (updateFromSource b r i repo).Calm (.fixes q) := by
  have hstatus : (pushStatus r i repo).Calm (.fixes q) :=
    .lift_bind (silent_view r).keeps fun t _ _ => by
      cases wantedTransition i.state t.statusCategory with
      | none => exact .pure _
      | some name => exact (calm_transitions r repo name).contain _ _
  have htext : Editing mirrored r (b.pushText r i) := (editing_pushText b r i).mono (by decide)
  have hassignee : Editing mirrored r (b.pushAssignee r i) := editing_pushAssignee (by decide)
  exact Fiber.Calm.bind (.lift (htext.keeps (Frame.fixes_admits r))) fun _ =>
    .bind (.lift (hassignee.keeps (Frame.fixes_admits r))) fun _ =>
      hstatus.bind fun _ => .forM fun rule hrule => .lift ((editing_pushRule rule hrule).keeps (Frame.fixes_admits r))

theorem calm_syncComments (b : Bridge) (r : TicketRef) (i : GitHub.Issue) (name : String) (repo : Repo)
    (since : Time.Timestamp) : (syncComments b r i name repo since).Calm (.fixes q) := by
  have hlook : Keeps (.fixes q) (threadOf r >>= Tracker.comments) :=
    (silent_threadOf r).keeps.bind fun thread => (keeps_comments (T := (· = r)) (D := fun _ => False) thread).fixes
  refine Fiber.Calm.bind (.lift hlook) fun existing => ?_
  split
  · exact .forM fun c _ => .lift (keeps_deleteIfSynced (r := r) trivial).fixes_of_comments
  · refine .bind (.lift (GitHub.silent_comments repo.owner name i.number (some since)).keeps) fun comments => ?_
    exact .forM fun c _ => .lift (keeps_writeComment (r := r) (fun _ _ => trivial) c).fixes_of_comments

theorem calm_syncIssue (b : Bridge) (name : String) (repo : Repo) (since : Time.Timestamp) (i : GitHub.Issue) :
    (syncIssue b name repo since i).Calm (.fixes q) := by
  have hbring : (bringUpToDate b name repo since i).Calm (.fixes q) :=
    .bind (.lift (silent_findIssue b repo.project i.id).keeps) fun r =>
      (calm_updateFromSource b r i repo).bind fun _ => calm_syncComments b r i name repo since
  refine hbring.observe.bind fun o => ?_
  cases o with
  | ok u => exact .lift (.modifyTally _)
  | error f => exact .lift ((Keeps.say _ _).bind fun _ => (silent_recordError name (some i.number) f).keeps)

theorem calm_updateAll (b : Bridge) (schedule : List Nat) (name : String) (repo : Repo) (since : Time.Timestamp)
    (issues : List GitHub.Issue) : (updateAll b schedule name repo since issues).Calm (.fixes q) := by
  unfold updateAll
  split
  · refine .bind (.lift (.place _)) fun _ => .bind (.scheduled _ fun t ht => ?_) fun _ => .pure _
    obtain ⟨i, -, rfl⟩ := List.mem_map.mp ht
    exact calm_syncIssue b name repo since i
  · exact .pure _

end Calm

section Making

variable {project : String} {id : Int} {n : Nat} {P : Fields → Prop} {x : Step TicketRef}

theorem keeps_of_creates {F : Frame} (h : Creates P x)
    (hF : ∀ fs, P fs → ∀ w : World, F.rel w { w with store := (w.store.create fs).2 }) : Keeps F x := fun w => by
  obtain ⟨fs, hfs, -, hs⟩ | ⟨-, hs⟩ := h w
  · exact F.trans (hF fs hfs w) (F.noted hs)
  · exact F.noted hs

/-- The first attempt makes a ticket of the fields that it keeps, or none. -/
theorem firstAttempt_cases (b : Bridge) (i : GitHub.Issue) (repo : Repo) (w : World) :
    (∃ fs o, outcome (firstAttempt b i repo) w = .ok (fs, o) ∧ (∀ fs', Attempts fs fs' → b.Drafts i repo fs') ∧
      ((o = .ok w.store.tickets.length ∧
        World.Agrees { w with store := (w.store.create fs).2 } (after (firstAttempt b i repo) w)) ∨
      ((∃ f, o = .error f) ∧ w.Agrees (after (firstAttempt b i repo) w)))) ∨
    ((∃ f, outcome (firstAttempt b i repo) w = .error f) ∧ w.Agrees (after (firstAttempt b i repo) w)) := by
  have hs : w.Agrees (after (ofLogged (b.newFields i repo)) w) := Keeps.ofLogged (F := .agreement) _ w
  have hfields := outcome_ofLogged (b.blind_newFields i repo) w
  rw [b.result_newFields] at hfields
  unfold firstAttempt
  cases hd : Logged.result (b.description i) with
  | error f =>
    rw [hd] at hfields
    rw [outcome_bind_error hfields, after_bind_error hfields]
    exact .inr ⟨⟨f, rfl⟩, hs⟩
  | ok d =>
    rw [hd] at hfields
    rw [outcome_bind_ok hfields, after_bind_ok hfields, outcome_bind_ok (outcome_observe ..), after_bind_pure,
      after_observe]
    refine .inl ⟨_, _, rfl, fun fs' h => ⟨d, hd, h⟩, ?_⟩
    have hcreate := creates_create (b.newFieldsOf i repo d) (after (ofLogged (b.newFields i repo)) w)
    obtain ⟨_, rfl, ho, hc⟩ | ⟨ho, hc⟩ := hcreate
    · refine .inl ⟨ho.trans (by rw [hs.store]), .trans ?_ hc⟩
      exact ⟨by rw [hs.store], hs.source, hs.faults, hs.clock⟩
    · exact .inr ⟨ho, hs.trans hc⟩

/-- A ticket that was made answers the query. Where none was made, one more is still allowed. -/
def Made (q : Query) (n : Nat) (o : Except Failure TicketRef) (v : World) : Prop :=
  match o with
  | .ok r => r ∈ v.store.search q
  | .error _ => 1 ≤ n

theorem Made.later {o : Except Failure TicketRef} (h : Made q n o v) (hw : (Frame.grows q).rel v w) :
    Made q n o w := by
  cases o with
  | ok r => exact hw.2.subset h
  | error f => exact h

/-- One more answer is allowed, unless there is one. -/
def Affords (q : Query) (n : Nat) (w : World) : Prop := w.store.search q = [] → 1 ≤ n

theorem Affords.later (h : Affords q n v) (hw : (Frame.grows q).rel v w) : Affords q n w := fun he =>
  h (List.prefix_nil.mp (he ▸ hw.2))

theorem Affords.of_mem {r : TicketRef} (h : r ∈ w.store.search q) : Affords q n w := fun he => by
  rw [he] at h
  cases h

/-- A ticket that was found or made answers the query, and one more answer is allowed unless there is one. -/
def Provided (q : Query) (n : Nat) (o : Except Failure TicketRef) (v : World) : Prop :=
  Affords q n v ∧ ∀ r, o = .ok r → r ∈ v.store.search q

theorem Provided.of_mem {r : TicketRef} (h : r ∈ w.store.search q) : Provided q n (.ok r) w :=
  ⟨.of_mem h, fun _ hr => Except.ok.inj hr ▸ h⟩

theorem Provided.of_affords {f : Failure} (h : Affords q n w) : Provided q n (.error f) w :=
  ⟨h, fun r hr => by cases hr⟩

theorem Provided.later {o : Except Failure TicketRef} (h : Provided q n o v) (hw : (Frame.grows q).rel v w) :
    Provided q n o w :=
  ⟨h.1.later hw, fun r hr => hw.2.subset (h.2 r hr)⟩

variable (hids : b.fieldIds.githubUrl ≠ some b.fieldIds.githubId)

include hids

/-- A new ticket answers the query for its own issue and no other. -/
theorem search_drafted {fs : Fields} (hfs : b.Drafts i repo fs) (project : String) (id : Int) (w : World) :
    (w.store.create fs).2.search (query b.fieldIds project id) =
      w.store.search (query b.fieldIds project id) ++
        if repo.project = project ∧ i.id = id then [w.store.tickets.length] else [] := by
  rw [Store.search_create]
  simp only [hfs.answers_iff hids]

abbrev own (b : Bridge) (repo : Repo) (i : GitHub.Issue) : Query := query b.fieldIds repo.project i.id

/-- An attempt to create the counterpart of an issue takes one from the allowance if it succeeds. -/
theorem made_of_attempt (i : GitHub.Issue) (repo : Repo) {o : Except Failure TicketRef} (hn : 1 ≤ n)
    (h : (∃ fs, b.Drafts i repo fs ∧ o = .ok v.store.tickets.length ∧
        World.Agrees { v with store := (v.store.create fs).2 } w) ∨ ((∃ f, o = .error f) ∧ v.Agrees w)) :
    (Frame.grows (own b repo i)).rel v w ∧
      ∃ m, w.answering (own b repo i) + m ≤ v.answering (own b repo i) + n ∧
        ∀ u, (Frame.grows (own b repo i)).rel w u → Made (own b repo i) m o u := by
  obtain ⟨fs, hfs, rfl, hw⟩ | ⟨⟨f, rfl⟩, hw⟩ := h
  · have hsearch : w.store.search (own b repo i) = v.store.search (own b repo i) ++ [v.store.tickets.length] := by
      rw [hw.store, search_drafted hids hfs, if_pos ⟨rfl, rfl⟩]
    refine ⟨⟨⟨hw.source, hw.faults, hw.clock⟩, hsearch ▸ List.prefix_append ..⟩, n - 1, ?_, fun u hu => hu.2.subset ?_⟩
    · unfold World.answering
      rw [hsearch, List.length_append, List.length_singleton]
      omega
    · rw [hsearch]
      exact List.mem_append_right _ (List.mem_singleton_self _)
  · have hsearch := hw.answering_eq (own b repo i)
    exact ⟨(Frame.grows _).noted hw, n, by omega, fun _ _ => hn⟩

theorem adds_opened (hn : 1 ≤ n) (w : World) :
    (opened b i repo).Adds (own b repo i) (Made (own b repo i)) n w := by
  have hfirst : (Fiber.lift (firstAttempt b i repo)).Adds (own b repo i)
      (fun n o v => match o with
        | .ok (fs, o) => Made (own b repo i) n o v ∧ ∀ fs', Attempts fs fs' → b.Drafts i repo fs'
        | .error _ => 1 ≤ n) n w := by
    refine .lift fun v _ => ?_
    obtain ⟨fs, o, ho, hfs, h⟩ | ⟨⟨f, ho⟩, hs⟩ := firstAttempt_cases b i repo v
    · obtain ⟨hrel, m, hm, hmade⟩ := made_of_attempt hids i repo hn
        (h.imp_left fun ⟨hr, hc⟩ => ⟨fs, hfs fs (.inl rfl), hr, hc⟩)
      rw [ho]
      exact ⟨hrel, m, hm, fun u hu => ⟨hmade u hu, hfs⟩⟩
    · have hsearch := hs.answering_eq (own b repo i)
      rw [ho]
      exact ⟨(Frame.grows _).noted hs, n, by omega, fun _ _ => hn⟩
  refine hfirst.bind (fun m p v h => ?_) fun _ _ _ h => h
  obtain ⟨fs, o⟩ := p
  obtain ⟨hmade, hfs⟩ := h
  cases o with
  | ok r => exact .pure fun u hu => hmade.later hu
  | error f =>
    refine .lift fun u _ => made_of_attempt hids i repo hmade ?_
    exact (creates_createAgain fs f u).imp_left fun ⟨fs', h, hc⟩ => ⟨fs', hfs fs' h, hc⟩

theorem adds_createFromSource (hn : 1 ≤ n) (w : World) :
    (createFromSource b i repo).Adds (own b repo i) (Provided (own b repo i)) n w := by
  have hwarn : (Fiber.lift (b.warnUnmapped i)).Calm (.fixes (own b repo i)) := .lift (silent_warnUnmapped b i).keeps
  refine (hwarn.adds n w).bind (fun m _ v hm => ?_) fun m e v hm => .of_affords fun _ => hm.1 ▸ hn
  refine (adds_opened hids (hm.1 ▸ hn) v).bind (fun k r u hr => ?_) fun k e u hk => .of_affords fun _ => hk
  have hsettle := (calm_settleNew r i repo (q := own b repo i)).adds k u
  refine hsettle.bind (fun l _ t ht => .pure fun t' ht' => ?_) fun l e t ht => ?_
  · exact .of_mem (ht'.2.subset (ht.2.2.subset hr))
  · exact .of_affords (.of_mem (ht.2.2.subset hr))

/-- What is made of another issue or in another project does not answer the query. -/
theorem calm_ensureTicket (name : String) (h : ¬ (repo.project = project ∧ i.id = id)) :
    (ensureTicket b name repo i).Calm (.fixes (query b.fieldIds project id)) := by
  have hcreate : ∀ fs, b.Drafts i repo fs → ∀ w : World,
      (Frame.fixes (query b.fieldIds project id)).rel w { w with store := (w.store.create fs).2 } := by
    intro fs hfs w
    refine ⟨⟨rfl, rfl, rfl⟩, ?_⟩
    dsimp only
    rw [search_drafted hids hfs, if_neg h, List.append_nil]
  have hfirst : Keeps (.fixes (query b.fieldIds project id)) (firstAttempt b i repo) := fun w => by
    obtain ⟨fs, o, -, hfs, ⟨-, hc⟩ | ⟨-, hs⟩⟩ | ⟨-, hs⟩ := firstAttempt_cases b i repo w
    · exact (Frame.fixes _).trans (hcreate fs (hfs fs (.inl rfl)) w) ((Frame.fixes _).noted hc)
    · exact (Frame.fixes _).noted hs
    · exact (Frame.fixes _).noted hs
  have hopened : (opened b i repo).Calm (.fixes (query b.fieldIds project id)) := by
    refine .lift_bind hfirst fun p w hp => ?_
    obtain ⟨fs, o⟩ := p
    cases o with
    | ok r => exact .pure r
    | error f =>
      obtain ⟨fs', o, ho, hfs, -⟩ | ⟨⟨g, hg⟩, -⟩ := firstAttempt_cases b i repo w
      · cases hp.symm.trans ho
        exact .lift (keeps_of_creates (creates_createAgain fs f) fun fs' h => hcreate fs' (hfs fs' h))
      · cases hp.symm.trans hg
  have hmake : (createFromSource b i repo).Calm (.fixes (query b.fieldIds project id)) :=
    .bind (.lift (silent_warnUnmapped b i).keeps) fun _ => hopened.bind fun r =>
      (calm_settleNew r i repo).bind fun _ => .pure r
  refine Fiber.Calm.bind (Fiber.Calm.lift (silent_findIssue b repo.project i.id).keeps).observe fun o => ?_
  split
  · exact .pure _
  · refine hmake.observe.bind fun o => ?_
    split
    · exact .bind (.lift silent_countCreated.keeps) fun _ => .pure _
    · exact .bind (.lift ((Keeps.say _ _).bind fun _ => (silent_recordError name (some i.number) _).keeps)) fun _ =>
        .pure _
  · exact .bind (.lift ((Keeps.say _ _).bind fun _ => (silent_recordError name (some i.number) _).keeps)) fun _ =>
      .pure _

end Making

section Workers

variable {project : String} {id : Int} {n : Nat}

/-- What is left of an allowance suffices if the allowance did. -/
def Hands (q : Query) (n : Nat) (w : World) (m : Nat) (v : World) : Prop := Affords q n w → Affords q m v

theorem Hands.of_grows (h : (Frame.grows q).rel w v) : Hands q n w n v := fun hn => hn.later h

theorem outcome_recordFailure (text name : String) (number : Option Int) (f : Failure) (w : World) :
    ∃ a, outcome (do Step.error text; recordError name number f) w = .ok a :=
  ⟨(), rfl⟩

theorem silent_recordFailure (text name : String) (number : Option Int) (f : Failure) :
    Silent (do Step.error text; recordError name number f) :=
  (Keeps.say _ _).bind fun _ => silent_recordError name number f

theorem yields_ensureTicket (b : Bridge) (name : String) (repo : Repo) (i : GitHub.Issue) :
    (ensureTicket b name repo i).Yields fun o => ∃ result, o = .ok result := by
  refine .observe_bind fun o => ?_
  split
  · exact ⟨_, rfl⟩
  · refine .observe_bind fun o => ?_
    split <;> exact .bind (.lift (P := fun o => o = .ok ()) fun _ => rfl) (fun _ _ => ⟨_, rfl⟩) fun _ h => by cases h
  · exact .bind (.lift (P := fun o => o = .ok ()) fun _ => rfl) (fun _ _ => ⟨_, rfl⟩) fun _ h => by cases h

theorem Provided.note {x : Step Unit} {o : Except Failure TicketRef} (h : Provided q n o w) (hx : Silent x)
    (hok : ∀ w, ∃ a, outcome x w = .ok a) :
    (do Fiber.lift x; return o : Fiber (Except Failure TicketRef)).Adds q
      (fun n o v => ∀ o', o = .ok o' → Provided q n o' v) n w :=
  Fiber.Adds.silent_bind hx hok fun _ _ hv => .pure fun _ hu o' ho' => by
    cases ho'
    exact h.later ((Frame.grows q).trans hv hu)

/-- A worker that looks for an issue and creates what is missing has a carrier in the end, unless something fails. -/
theorem adds_own (hb : b.Searchable) (hr : (name, repo) ∈ b.settings.repos) (ht : w.faults.Truthful)
    (hn : Affords (own b repo i) n w) :
    (ensureTicket b name repo i).Adds (own b repo i) (fun n o v => ∀ o', o = .ok o' → Provided (own b repo i) n o' v)
      n w := by
  have hfind : (Fiber.lift (b.findIssue repo.project i.id)).Adds (own b repo i) (fun m o v =>
      Provided (own b repo i) m o v ∧ ∀ p k, o = .error (.issueNotFound p k) → 1 ≤ m) n w := by
    refine .lift fun v hv => ?_
    have hs := silent_findIssue b repo.project i.id v
    refine ⟨(Frame.grows _).noted hs, n, Nat.le_of_eq ?_, fun u hu => ?_⟩
    · rw [World.Agrees.answering_eq hs]
    have hvu := (Frame.grows _).trans ((Frame.grows _).noted hs) hu
    refine ⟨⟨(hn.later hv).later hvu, fun r ho => hvu.2.subset ?_⟩, fun p k ho => hn.later hv ?_⟩
    · rw [← hb.finds_eq hr, findIssue_eq_ok ho]
      exact List.mem_singleton_self r
    · rw [← hb.finds_eq hr]
      exact finds_of_issueNotFound (hv.1.2.1 ▸ ht) ho
  refine hfind.observe_bind fun m o v ho => ?_
  split
  · refine .pure fun u hu o' ho' => ?_
    cases ho'
    exact ho.1.later hu
  · -- Between the search and the creation another worker may have made a carrier.
    refine (adds_createFromSource hb.url (ho.2 _ _ rfl) v).observe_bind fun k o u hu => ?_
    split
    · exact hu.note silent_countCreated fun _ => ⟨(), rfl⟩
    · exact hu.note (silent_recordFailure _ _ _ _) (outcome_recordFailure _ _ _ _)
  · exact ho.1.note (silent_recordFailure _ _ _ _) (outcome_recordFailure _ _ _ _)

/-- What was found or created for the issue carries it. -/
def Carried (b : Bridge) (project : String) (id : Int) (l : List Finding) (v : World) : Prop :=
  ∀ x ∈ l, x.project = project → x.issue.id = id → ∀ r, x.result = .ok r →
    r ∈ v.store.search (query b.fieldIds project id)

theorem Carried.later {l : List Finding} (h : Carried b project id l v)
    (hw : (Frame.grows (query b.fieldIds project id)).rel v w) : Carried b project id l w :=
  fun x hx hp hi r hr => hw.2.subset (h x hx hp hi r hr)

theorem carried_nil (b : Bridge) (project : String) (id : Int) (w : World) : Carried b project id [] w :=
  fun x hx => by cases hx

def Covers (repo : Repo) (issues : List GitHub.Issue) (l : List Finding) : Prop :=
  l.map (fun x => (x.project, x.issue)) = issues.map fun i => (repo.project, i)

theorem adds_ensureTicket (hb : b.Searchable) (hr : (name, repo) ∈ b.settings.repos) (ht : w.faults.Truthful)
    (hn : repo.project = project ∧ i.id = id → Affords (query b.fieldIds project id) n w) :
    (ensureTicket b name repo i).Adds (query b.fieldIds project id) (fun m o v =>
      Hands (query b.fieldIds project id) n w m v ∧
        ∃ result, o = .ok result ∧ Carried b project id [⟨repo.project, i, result⟩] v) n w := by
  have hok := yields_ensureTicket b name repo i
  by_cases h : repo.project = project ∧ i.id = id
  · obtain ⟨rfl, rfl⟩ := h
    refine ((adds_own hb hr ht (hn ⟨rfl, rfl⟩)).yields hok).imp fun m o v hm => ?_
    obtain ⟨hm, result, rfl⟩ := hm
    refine ⟨fun _ => (hm _ rfl).1, result, rfl, fun x hx _ _ r hr => ?_⟩
    obtain rfl := List.mem_singleton.mp hx
    exact (hm _ rfl).2 r hr
  · refine (((calm_ensureTicket hb.url name h).adds n w).yields hok).imp fun m o v hm => ?_
    obtain ⟨⟨rfl, hv⟩, result, rfl⟩ := hm
    refine ⟨.of_grows hv, result, rfl, fun x hx hp hi => ?_⟩
    obtain rfl := List.mem_singleton.mp hx
    exact absurd ⟨hp, hi⟩ h

theorem adds_ensureAll (hb : b.Searchable) (hr : (name, repo) ∈ b.settings.repos) (ht : w.faults.Truthful)
    (issues : List GitHub.Issue)
    (hn : repo.project = project ∧ (∃ i ∈ issues, i.id = id) → Affords (query b.fieldIds project id) n w) :
    (ensureAll b name repo issues).Adds (query b.fieldIds project id) (fun m o v =>
      Hands (query b.fieldIds project id) n w m v ∧
        ∃ l, o = .ok l ∧ Carried b project id l v ∧ Covers repo issues l) n w := by
  induction issues generalizing n w with
  | nil => exact .pure fun v hv => ⟨.of_grows hv, [], rfl, carried_nil _ _ _ _, rfl⟩
  | cons i issues ih =>
    have hfirst := adds_ensureTicket (i := i) hb hr ht fun h => hn ⟨h.1, i, List.mem_cons_self, h.2⟩
    refine hfirst.track.bind (fun m o v hm => ?_) fun m e v hm => ?_
    · obtain ⟨⟨hands, o', ho, hfound⟩, hwv⟩ := hm
      cases ho
      have hrest := ih (n := m) (hwv.1.2.1 ▸ ht) fun ⟨hp, i', hi', hid⟩ =>
        hands (hn ⟨hp, i', List.mem_cons_of_mem _ hi', hid⟩)
      refine hrest.track.bind (fun k l u hu => .pure fun t ht => ?_) fun k e u hu => ?_
      · obtain ⟨⟨hands', l', hl, hall, hcovers⟩, hvu⟩ := hu
        cases hl
        refine ⟨fun h => (hands' (hands h)).later ht, _, rfl, fun x hx => ?_, ?_⟩
        · obtain rfl | hx := List.mem_cons.mp hx
          · exact hfound.later ((Frame.grows _).trans hvu ht) _ (List.mem_singleton_self _)
          · exact hall.later ht x hx
        · exact congrArg _ hcovers
      · obtain ⟨⟨-, l, hl, -⟩, -⟩ := hu
        cases hl
    · obtain ⟨⟨-, o', ho, -⟩, -⟩ := hm
      cases ho

/-- What a worker reports is true, and is complete if its repository could be listed. -/
def Reports (b : Bridge) (src : Source) (faults : Faults) (project : String) (id : Int) (p : String × Repo)
    (o : Except Failure Report) (v : World) : Prop :=
  Carried b project id (foundBy o) v ∧
    (faults.Lists (GitHub.fullName p.2.owner p.1) → Covers p.2 (src.listing p.2.owner p.1) (foundBy o))

/-- The worker of a repository needs an allowance only if the repository lists the issue. -/
theorem adds_syncRepository (hb : b.Searchable) (hr : (name, repo) ∈ b.settings.repos) (ht : w.faults.Truthful)
    (schedule : List Nat) (since : Time.Timestamp)
    (hn : repo.project = project ∧ (∃ i ∈ w.source.listing repo.owner name, i.id = id) →
      Affords (query b.fieldIds project id) n w) :
    (syncRepository b schedule since name repo).Adds (query b.fieldIds project id) (fun m o v =>
      Hands (query b.fieldIds project id) n w m v ∧ Reports b w.source w.faults project id (name, repo) o v) n w := by
  refine .silent_bind (Keeps.modifyTally _) (fun _ => ⟨(), rfl⟩) fun _ v hwv => ?_
  have hlist : (Fiber.lift (GitHub.issues repo.owner name (some since))).Adds (query b.fieldIds project id)
      (fun m o v => (m = n ∧ (Frame.grows (query b.fieldIds project id)).rel w v) ∧
        (∀ l, o = .ok l → l = w.source.listing repo.owner name) ∧
        (w.faults.Lists (GitHub.fullName repo.owner name) → (∃ l, o = .ok l) ∨ w.source.listing repo.owner name = []))
      n v := by
    refine .lift fun u hu => ?_
    have hs := GitHub.silent_issues repo.owner name (some since) u
    have hwu := (Frame.grows _).trans hwv hu
    refine ⟨(Frame.grows _).noted hs, n, Nat.le_of_eq ?_, fun t ht => ⟨⟨rfl, ?_⟩, fun l hl => ?_, fun hl => ?_⟩⟩
    · rw [World.Agrees.answering_eq hs]
    · exact (Frame.grows _).trans hwu ((Frame.grows _).trans ((Frame.grows _).noted hs) ht)
    · rw [GitHub.issues_eq_ok hl, hwu.1.1]
    · rw [← hwu.1.1]
      exact GitHub.issues_of_lists (hwu.1.2.1.symm ▸ hl) _
  refine hlist.observe_bind fun m o v hm => ?_
  obtain ⟨⟨rfl, hwv⟩, hl, hlisted⟩ := hm
  cases o with
  | error f =>
    have hreport : (Fiber.lift (do
        Step.error ("getGithubIssuesByRepo error occur of " ++ name ++ ": " ++ f.message)
        recordError name none f
        b.journalPass name .failed ("Listing issues failed: " ++ f.message))).Calm
          (.fixes (query b.fieldIds project id)) :=
      .lift ((Keeps.say _ _).bind fun _ => (silent_recordError _ _ _).keeps.bind fun _ =>
        (silent_journalEntry b _).keeps)
    refine (hreport.adds m v).observe_bind fun k o u hk => .pure fun t ht => ?_
    obtain ⟨rfl, hvu⟩ := hk
    refine ⟨.of_grows ((Frame.grows _).trans hwv ((Frame.grows _).trans hvu ht)), carried_nil _ _ _ _, fun h => ?_⟩
    obtain ⟨l, hl⟩ | hnone := hlisted h
    · cases hl
    · exact hnone ▸ rfl
  | ok issues =>
    obtain rfl := hl issues rfl
    refine Fiber.Adds.silent_bind (Keeps.modifyTally _) (fun _ => ⟨(), rfl⟩) fun _ u hvu => ?_
    have hwu := (Frame.grows _).trans hwv hvu
    have hensure := adds_ensureAll hb hr (hwu.1.2.1 ▸ ht) (w.source.listing repo.owner name)
      fun h => (hn h).later hwu
    refine hensure.bind (fun l findings t hf => ?_) fun l e t hf => ?_
    · obtain ⟨hands, l', hl, hfound, hcovers⟩ := hf
      cases hl
      have hupdate : (do
          updateAll b schedule name repo since (w.source.listing repo.owner name)
          Fiber.lift (b.reportRepository name (w.source.listing repo.owner name).length)).Calm
            (.fixes (query b.fieldIds project id)) :=
        (calm_updateAll b schedule name repo since _).bind fun _ => .lift (silent_reportRepository b name _).keeps
      refine (hupdate.adds l t).observe_bind fun j o' s hs => .pure fun s' hs' => ?_
      obtain ⟨rfl, hts⟩ := hs
      have hts := (Frame.grows _).trans hts hs'
      exact ⟨fun h => (hands (h.later hwu)).later hts, hfound.later hts, fun _ => hcovers⟩
    · obtain ⟨-, l', hl, -⟩ := hf
      cases hl

end Workers

end Bridge.Fibers

end IssueBridge
