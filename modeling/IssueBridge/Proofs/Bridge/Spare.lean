import IssueBridge.Proofs.Bridge.Whole

/-! # Steps for other issues

Only two steps of a pass are about an issue. All others leave its counterpart as it is, since they find
other tickets and write to other threads. So a pass can be seen from each issue as these two steps
and what comes before, between and after them.
-/

namespace IssueBridge

open Step Tracker Correlation

namespace Tracker

/-- What a query finds is the same in both stores, and so are the comments of what it finds. -/
structure Store.Yields (q : Query) (s t : Store) : Prop where
  workflow : t.workflow = s.workflow
  search : t.search q = s.search q
  ticket : ∀ r ∈ s.search q, t.ticket? r = s.ticket? r
  thread : ∀ r ∈ s.search q, ∀ x, s.ticket? r = some x → t.thread x.id.get? = s.thread x.id.get?

/-- The store yields the same, and nobody has asked for the comments in between. -/
structure Store.Spares (q : Query) (s t : Store) : Prop extends Yields q s t where
  lookup : ∀ r ∈ s.search q, ∀ x, s.ticket? r = some x →
    t.threads.lookup x.id.get? = s.threads.lookup x.id.get?

section

variable {q : Query} {s t u : Store} {names : List String} {T : TicketRef → Prop} {D : ThreadId → Prop}

namespace Store.Yields

theorem refl (q : Query) (s : Store) : Yields q s s := ⟨rfl, rfl, fun _ _ => rfl, fun _ _ _ _ => rfl⟩

theorem trans (h : Yields q s t) (h' : Yields q t u) : Yields q s u where
  workflow := h'.workflow.trans h.workflow
  search := h'.search.trans h.search
  ticket r hr := (h'.ticket r (h.search ▸ hr)).trans (h.ticket r hr)
  thread r hr x hx :=
    (h'.thread r (h.search ▸ hr) x ((h.ticket r hr).trans hx)).trans (h.thread r hr x hx)

/-- Other tickets than those that are found were altered, and the comments of others. -/
theorem of_alters (h : Alters names T D s t) (hn : names ⊆ mirrored) (hT : ∀ r ∈ s.search q, ¬ T r)
    (hD : ∀ r ∈ s.search q, ∀ x, s.ticket? r = some x → ¬ D x.id.get?) : Yields q s t where
  workflow := h.workflow
  search := (h.mono hn (fun _ hr => hr) fun _ hd => hd).search q
  ticket r hr := h.ticket?_eq (hT r hr)
  thread r hr x hx := (h.thread _).resolve_left (hD r hr x hx)

theorem create {fs : Fields} (h : ¬ (s.newTicket fs).answers q) : Yields q s (s.create fs).2 where
  workflow := rfl
  search := by rw [search_create, if_neg h, List.append_nil]
  ticket r hr := by
    obtain ⟨x, hx, -⟩ := mem_search.mp hr
    exact ticket?_create_of_lt (ticket?_lt hx)
  thread _ _ _ _ := rfl

end Store.Yields

namespace Store.Spares

theorem refl (q : Query) (s : Store) : Spares q s s := ⟨.refl q s, fun _ _ _ _ => rfl⟩

theorem trans (h : Spares q s t) (h' : Spares q t u) : Spares q s u where
  toYields := h.toYields.trans h'.toYields
  lookup r hr x hx := by
    have hx' : t.ticket? r = some x := (h.ticket r hr).trans hx
    exact (h'.lookup r (h.search ▸ hr) x hx').trans (h.lookup r hr x hx)

theorem symm (h : Spares q s t) : Spares q t s where
  workflow := h.workflow.symm
  search := h.search.symm
  ticket r hr := (h.ticket r (h.search ▸ hr)).symm
  thread r hr x hx := by
    have hr' : r ∈ s.search q := h.search ▸ hr
    exact (h.thread r hr' x ((h.ticket r hr').symm.trans hx)).symm
  lookup r hr x hx := by
    have hr' : r ∈ s.search q := h.search ▸ hr
    exact (h.lookup r hr' x ((h.ticket r hr').symm.trans hx)).symm

end Store.Spares

end

end Tracker

namespace Bridge

variable {b : Bridge} {v : Scene} {name : String} {repo : Repo} {i : GitHub.Issue} {d project : String}
  {id : Int} {q : Query}

section Creating

theorem search_created_eq (b : Bridge) (repo : Repo) (i : GitHub.Issue) (d : String) (v : Scene) (q : Query) :
    (b.created repo i d v).store.search q = (v.store.create (b.newFieldsOf i repo d)).2.search q :=
  Store.search_put (Store.ticket?_create ..) ((sameBut_settled ..).mono (by simp [mirrored])) q

theorem carriers_created (hu : b.fieldIds.githubUrl ≠ some b.fieldIds.githubId)
    (hd : Logged.result (b.description i) = .ok d) :
    (b.created repo i d v).store.search (query b.fieldIds project id) =
      v.store.search (query b.fieldIds project id) ++
        if repo.project = project ∧ i.id = id then [v.store.tickets.length] else [] := by
  have hdraft : b.Drafts i repo (b.newFieldsOf i repo d) := ⟨d, hd, .inl rfl⟩
  rw [search_created_eq, Store.search_create]
  simp only [hdraft.answers_iff hu v.store project id]

theorem ticket?_created (b : Bridge) (repo : Repo) (i : GitHub.Issue) (d : String) (v : Scene) :
    (b.created repo i d v).store.ticket? v.store.tickets.length =
      some (settled v.store.workflow repo i (v.store.newTicket (b.newFieldsOf i repo d))) :=
  Store.ticket?_put_self (Store.ticket?_create ..) _

theorem ticket?_created_of_some {r : TicketRef} {x : Ticket} (hx : v.store.ticket? r = some x) :
    (b.created repo i d v).store.ticket? r = some x := by
  have hlt := Store.ticket?_lt hx
  refine (Store.ticket?_put_of_ne _ (Nat.ne_of_gt hlt) _).trans ?_
  exact (Store.ticket?_create_of_lt hlt).trans hx

/-- Creating the counterpart of an issue spares what is found for other ids. -/
theorem spares_created (hd : Logged.result (b.description i) = .ok d) (h : i.id ≠ q.id) :
    v.store.Spares q (b.created repo i d v).store where
  workflow := rfl
  search := by
    have hdraft : b.Drafts i repo (b.newFieldsOf i repo d) := ⟨d, hd, .inl rfl⟩
    rw [search_created_eq, Store.search_create, if_neg fun ha => h (hdraft.id_of_answers ha), List.append_nil]
  ticket r hr := by
    obtain ⟨x, hx, -⟩ := Store.mem_search.mp hr
    rw [hx]
    exact ticket?_created_of_some hx
  thread _ _ _ _ := rfl
  lookup _ _ _ _ := rfl

theorem spares_ensured (h : i.id ≠ q.id) : v.store.Spares q (b.ensured repo i v).store := by
  unfold ensured
  split
  · rename_i hd
    exact spares_created hd h
  · exact .refl ..

end Creating

section Updating

variable {r : TicketRef} {x : Ticket}

theorem broughtUp_eq (hx : v.store.ticket? r = some x) (hd : Logged.result (b.description i) = .ok d) :
    b.broughtUp r i name repo v =
      b.commented x.id.get? i name repo (v.put r (b.refreshed v.store.workflow repo i d x)) := by
  unfold broughtUp
  rw [hx, hd]

theorem synced_eq (hr : b.finds v.store repo.project i.id = [r]) :
    b.synced name repo i v = b.broughtUp r i name repo v := by
  unfold synced
  rw [hr]

theorem search_commented (b : Bridge) (thread : ThreadId) (i : GitHub.Issue) (name : String)
    (repo : Repo) (v : Scene) (q : Query) :
    (b.commented thread i name repo v).store.search q = v.store.search q := by
  rw [Store.search, (inThread_commented b thread i name repo v).tickets]
  rfl

theorem ticket?_commented (b : Bridge) (thread : ThreadId) (i : GitHub.Issue) (name : String)
    (repo : Repo) (v : Scene) (r : TicketRef) :
    (b.commented thread i name repo v).store.ticket? r = v.store.ticket? r := by
  rw [Store.ticket?, (inThread_commented b thread i name repo v).tickets]
  rfl

/-- Bringing a ticket up to date spares what a query finds, unless it is this ticket. -/
theorem spares_broughtUp (hv : v.store.Identified) (hr : r ∉ v.store.search q) :
    v.store.Spares q (b.broughtUp r i name repo v).store := by
  unfold broughtUp
  split
  · rename_i x d hx _
    have hsame := (follows_refreshed b v.store.workflow repo i d x).same
    have hthread := inThread_commented b x.id.get? i name repo
      (v.put r (b.refreshed v.store.workflow repo i d x))
    have hne : ∀ r' ∈ v.store.search q, r ≠ r' := by
      rintro r' hr' rfl
      exact hr hr'
    have hother : ∀ r' ∈ v.store.search q, ∀ y, v.store.ticket? r' = some y → y.id.get? ≠ x.id.get? :=
      fun r' hr' y hy => hv.id_ne hy hx (hne r' hr').symm
    have halters : v.store.Alters mirrored (· = r) (· = x.id.get?)
        (b.commented x.id.get? i name repo (v.put r (b.refreshed v.store.workflow repo i d x))).store :=
      .trans (.put hx hsame rfl) (.of_inThread hthread rfl)
    refine ⟨.of_alters halters (List.Subset.refl _) (fun r' hr' heq => hne r' hr' heq.symm) hother, ?_⟩
    exact fun r' hr' y hy => hthread.others _ (hother r' hr' y hy)
  · exact .refl ..

theorem spares_synced (hv : v.store.Identified)
    (h : ∀ r ∈ v.store.search q, r ∉ b.finds v.store repo.project i.id) :
    v.store.Spares q (b.synced name repo i v).store := by
  unfold synced
  split
  · rename_i r hr
    exact spares_broughtUp hv fun hmem => h r hmem (hr ▸ List.mem_singleton_self r)
  · exact .refl ..

end Updating

section Reach

def Meets (b : Bridge) (s : Store) (repo : Repo) (issues : List GitHub.Issue) (r : TicketRef) : Prop :=
  ∃ i ∈ issues, b.finds s repo.project i.id = [r]

def Discusses (b : Bridge) (s : Store) (repo : Repo) (issues : List GitHub.Issue) (thread : ThreadId) : Prop :=
  ∃ r x, b.Meets s repo issues r ∧ s.ticket? r = some x ∧ x.id.get? = thread

theorem alters_synced (b : Bridge) (name : String) (repo : Repo) (i : GitHub.Issue) (v : Scene) :
    Store.Alters mirrored (b.Meets v.store repo [i]) (b.Discusses v.store repo [i]) v.store
      (b.synced name repo i v).store := by
  unfold synced
  split
  · rename_i r hf
    have hmeets : b.Meets v.store repo [i] r := ⟨i, List.mem_singleton_self i, hf⟩
    unfold broughtUp
    split
    · rename_i x d hx _
      have hput := Store.Alters.put (D := b.Discusses v.store repo [i]) hx
        (follows_refreshed b v.store.workflow repo i d x).same hmeets
      have hthread := inThread_commented b x.id.get? i name repo
        (v.put r (b.refreshed v.store.workflow repo i d x))
      exact hput.trans (.of_inThread hthread ⟨r, x, hmeets, hx, rfl⟩)
    · exact .refl _
  · exact .refl _

/-- The tasks alter nothing but the tickets that they find, and the threads of these. -/
theorem alters_syncEach (b : Bridge) (name : String) (repo : Repo) (issues : List GitHub.Issue) (v : Scene) :
    Store.Alters mirrored (b.Meets v.store repo issues) (b.Discusses v.store repo issues) v.store
      (issues.foldl (fun v i => b.synced name repo i v) v).store := by
  refine List.foldlRecOn issues _ (motive := fun u : Scene => Store.Alters mirrored
    (b.Meets v.store repo issues) (b.Discusses v.store repo issues) v.store u.store) (.refl _) ?_
  intro u hu i hi
  have hmeets : ∀ r, b.Meets u.store repo [i] r → b.Meets v.store repo issues r := by
    rintro r ⟨j, hj, hf⟩
    obtain rfl := List.mem_singleton.mp hj
    exact ⟨j, hi, (finds_congr hu.search _ _).symm.trans hf⟩
  refine hu.trans ((alters_synced b name repo i u).mono (List.Subset.refl _) hmeets ?_)
  rintro thread ⟨r, y, hr, hy, rfl⟩
  obtain ⟨x, hx, hxy⟩ := hu.ticket?_of_some hy
  exact ⟨r, x, hmeets r hr, hx, by rw [hxy.id]⟩

end Reach

section Around

/-- One step of a run that goes through a list, and what comes before and after it. -/
theorem foldl_around {σ α : Type} {f : σ → α → σ} {P : σ → Prop} {R : σ → σ → Prop} {ids : α → List Int}
    {l : List α} {a : α} {n : Int} {u : σ} (hrefl : ∀ u, R u u)
    (htrans : ∀ {u v w}, R u v → R v w → R u w) (hP : ∀ c ∈ l, ∀ v, P v → P (f v c))
    (hR : ∀ c ∈ l, n ∉ ids c → ∀ v, P v → R v (f v c)) (ha : a ∈ l) (hn : n ∈ ids a)
    (hd : (l.flatMap ids).count n ≤ 1) (hu : P u) :
    ∃ v, P v ∧ R u v ∧ R (f v a) (l.foldl f u) := by
  have hrun : ∀ l' ⊆ l, (∀ c ∈ l', n ∉ ids c) → ∀ v, P v → P (l'.foldl f v) ∧ R v (l'.foldl f v) := by
    intro l' hl hn' v hv
    refine List.foldlRecOn l' f (motive := fun w => P w ∧ R v w) ⟨hv, hrefl v⟩ ?_
    rintro w ⟨hw, hvw⟩ c hc
    exact ⟨hP c (hl hc) w hw, htrans hvw (hR c (hl hc) (hn' c hc) w hw)⟩
  obtain ⟨before, rest, rfl⟩ := List.append_of_mem ha
  rw [List.flatMap_append, List.flatMap_cons, List.count_append, List.count_append] at hd
  have hown := List.count_pos_iff.mpr hn
  have hb : ∀ c ∈ before, n ∉ ids c := by
    intro c hc hmem
    have hpos := List.count_pos_iff.mpr (List.mem_flatMap.mpr ⟨c, hc, hmem⟩)
    omega
  have hr : ∀ c ∈ rest, n ∉ ids c := by
    intro c hc hmem
    have hpos := List.count_pos_iff.mpr (List.mem_flatMap.mpr ⟨c, hc, hmem⟩)
    omega
  obtain ⟨hv, huv⟩ := hrun before (List.subset_append_left _ _) hb u hu
  have hva : P (f (before.foldl f u) a) := hP a (List.mem_append_right _ List.mem_cons_self) _ hv
  have hlast := hrun rest (fun c hc => List.mem_append_right _ (List.mem_cons_of_mem _ hc)) hr _ hva
  refine ⟨before.foldl f u, hv, huv, ?_⟩
  rw [List.foldl_append, List.foldl_cons]
  exact hlast.2

def listedIds (b : Bridge) (src : Source) : List Int :=
  b.settings.repos.flatMap fun p => (src.listing p.2.owner p.1).map (·.id)

theorem count_listing {src : Source} (hr : (name, repo) ∈ b.settings.repos)
    (hd : (b.listedIds src).count id ≤ 1) :
    ((src.listing repo.owner name).flatMap fun i => [i.id]).count id ≤ 1 := by
  have hids : (src.listing repo.owner name).flatMap (fun i => [i.id]) =
      (src.listing repo.owner name).map (·.id) := List.map_eq_flatMap.symm
  obtain ⟨before, rest, heq⟩ := List.append_of_mem hr
  unfold listedIds at hd
  rw [heq, List.flatMap_append, List.flatMap_cons, List.count_append, List.count_append] at hd
  dsimp only at hd
  rw [hids]
  omega

/-- What a query finds is found for no other id, whatever repository is searched for it. -/
def Exclusive (b : Bridge) (q : Query) (s : Store) : Prop :=
  ∀ r ∈ s.search q, ∀ p ∈ b.settings.repos, ∀ id, id ≠ q.id → r ∉ b.finds s p.2.project id

theorem Searchable.exclusive (hb : b.Searchable) (project : String) (id : Int) (s : Store) :
    b.Exclusive (query b.fieldIds project id) s := by
  intro r hr p hp id' hid hmem
  rw [hb.finds_eq hp] at hmem
  obtain ⟨x, hx, hanswers⟩ := Store.mem_search.mp hr
  obtain ⟨y, hy, hanswers'⟩ := Store.mem_search.mp hmem
  obtain rfl := Option.some.inj (hx.symm.trans hy)
  exact hid (Ticket.answers_unique hanswers' hanswers rfl)

namespace Exclusive

variable {s t : Store}

theorem of_nil (h : s.search q = []) : b.Exclusive q s := by
  intro r hr
  rw [h] at hr
  cases hr

theorem of_search (h : b.Exclusive q s) (hsearch : ∀ q, t.search q = s.search q) : b.Exclusive q t := by
  intro r hr p hp id hid
  rw [finds_congr hsearch]
  exact h r (hsearch q ▸ hr) p hp id hid

theorem create (h : b.Exclusive q s) {fs : Fields} (hfs : b.Drafts i repo fs) :
    b.Exclusive q (s.create fs).2 := by
  have hcases : ∀ {q : Query} {r : TicketRef}, r ∈ (s.create fs).2.search q →
      r ∈ s.search q ∧ r < s.tickets.length ∨ r = s.tickets.length ∧ i.id = q.id := by
    intro q r hr
    rw [Store.search_create, List.mem_append] at hr
    rcases hr with hr | hr
    · obtain ⟨x, hx, -⟩ := Store.mem_search.mp hr
      exact .inl ⟨hr, Store.ticket?_lt hx⟩
    · split at hr
      · rename_i hanswers
        exact .inr ⟨List.mem_singleton.mp hr, hfs.id_of_answers hanswers⟩
      · cases hr
  intro r hr p hp id hid hmem
  obtain ⟨q', hq', hmem⟩ := mem_finds hmem
  rcases hcases hr with ⟨hr, hlt⟩ | ⟨rfl, hown⟩ <;> rcases hcases hmem with ⟨hmem, hlt'⟩ | ⟨heq, hother⟩
  · exact h r hr p hp id hid (by rw [finds_of_read? hq']; exact hmem)
  · exact absurd heq (Nat.ne_of_lt hlt)
  · exact absurd hlt' (Nat.lt_irrefl _)
  · rw [Query.id_of_read?_text hq'] at hother
    exact hid (hother.symm.trans hown)

end Exclusive

/-- Tickets have ids of their own, and what the query finds is found for no other id. -/
structure Poised (b : Bridge) (q : Query) (s : Store) : Prop where
  numbered : s.Numbered
  exclusive : b.Exclusive q s

namespace Poised

variable {s t : Store} {r : TicketRef} {x y : Ticket}

theorem create (h : b.Poised q s) {fs : Fields} (hfs : b.Drafts i repo fs) : b.Poised q (s.create fs).2 :=
  ⟨h.numbered.create fs, h.exclusive.create hfs⟩

theorem put (h : b.Poised q s) (hx : s.ticket? r = some x) (hsame : x.SameBut mirrored y) :
    b.Poised q (s.put r y) :=
  ⟨h.numbered.put hx hsame.key hsame.id, h.exclusive.of_search (Store.search_put hx hsame)⟩

theorem of_alters {names : List String} {T : TicketRef → Prop} {D : ThreadId → Prop} (h : b.Poised q s)
    (ht : s.Alters names T D t) (hn : names ⊆ mirrored) : b.Poised q t :=
  ⟨h.numbered.of_alters ht, h.exclusive.of_search (ht.mono hn (fun _ hr => hr) fun _ hd => hd).search⟩

end Poised

/-- A property of scenes that a pass preserves in every step. -/
structure Steady (b : Bridge) (src : Source) (P : Scene → Prop) : Prop where
  numbered : ∀ {v}, P v → v.store.Numbered
  ensure : ∀ {name repo i v}, (name, repo) ∈ b.settings.repos → i ∈ src.listing repo.owner name →
    P v → P (b.ensured repo i v)
  sync : ∀ {name repo i v}, (name, repo) ∈ b.settings.repos → i ∈ src.listing repo.owner name →
    P v → P (b.synced name repo i v)

namespace Steady

variable {src : Source} {P : Scene → Prop}

theorem foldl_ensured (h : b.Steady src P) (hr : (name, repo) ∈ b.settings.repos) (hv : P v) :
    P ((src.listing repo.owner name).foldl (fun v i => b.ensured repo i v) v) :=
  List.foldlRecOn _ _ hv fun _ hu _ hi => h.ensure hr hi hu

theorem visited (h : b.Steady src P) (hr : (name, repo) ∈ b.settings.repos) (hv : P v) :
    P (b.visited src name repo v) :=
  List.foldlRecOn _ _ (h.foldl_ensured hr hv) fun _ hu _ hi => h.sync hr hi hu

theorem passed (h : b.Steady src P) (hv : P v) : P (b.passed src v) :=
  List.foldlRecOn _ _ hv fun _ hu _ hr => h.visited hr hu

/-- A repository that does not list an id spares what is found for it. -/
theorem spares_visited (h : b.Steady src P) (hex : ∀ {v}, P v → b.Exclusive q v.store)
    (hr : (name, repo) ∈ b.settings.repos) (hn : q.id ∉ (src.listing repo.owner name).map (·.id)) (hv : P v) :
    v.store.Spares q (b.visited src name repo v).store := by
  have hne : ∀ i ∈ src.listing repo.owner name, i.id ≠ q.id := fun i hi heq =>
    hn (List.mem_map.mpr ⟨i, hi, heq⟩)
  have hensure := List.foldlRecOn (src.listing repo.owner name) (fun v i => b.ensured repo i v)
    (motive := fun u => P u ∧ v.store.Spares q u.store) ⟨hv, .refl ..⟩
    fun u hu i hi => ⟨h.ensure hr hi hu.1, hu.2.trans (spares_ensured (hne i hi))⟩
  refine (List.foldlRecOn (src.listing repo.owner name) (fun v i => b.synced name repo i v)
    (motive := fun u => P u ∧ v.store.Spares q u.store) hensure
    fun u hu i hi => ⟨h.sync hr hi hu.1, hu.2.trans (spares_synced (h.numbered hu.1).identified ?_)⟩).2
  exact fun r hmem => hex hu.1 r hmem _ hr i.id (hne i hi)

/-- A pass as it is seen from one issue: its counterpart is looked for, later it is brought up to date,
and nothing else that the pass does is about it. -/
theorem around (h : b.Steady src P)
    (hex : ∀ {v}, P v → b.Exclusive (query b.fieldIds repo.project i.id) v.store)
    (hd : (b.listedIds src).count i.id ≤ 1) (hr : (name, repo) ∈ b.settings.repos)
    (hi : i ∈ src.listing repo.owner name) (hv : P v) :
    ∃ u w, P u ∧ P w ∧ v.store.Spares (query b.fieldIds repo.project i.id) u.store ∧
      (b.ensured repo i u).store.Spares (query b.fieldIds repo.project i.id) w.store ∧
      (b.synced name repo i w).store.Spares (query b.fieldIds repo.project i.id)
        (b.passed src v).store := by
  let q := query b.fieldIds repo.project i.id
  let R : Scene → Scene → Prop := fun u w => u.store.Spares q w.store
  have hrefl : ∀ u, R u u := fun u => .refl q u.store
  have htrans : ∀ {u v w}, R u v → R v w → R u w := fun h h' => Store.Spares.trans h h'
  have hother : ∀ j : GitHub.Issue, i.id ∉ [j.id] → j.id ≠ q.id := fun j hj heq =>
    hj (heq ▸ List.mem_singleton_self _)
  obtain ⟨u, hu, hvu, hlast⟩ := foldl_around (P := P) (R := R)
    (f := fun v (p : String × Repo) => b.visited src p.1 p.2 v) hrefl htrans
    (fun p hp v hv => h.visited hp hv) (fun p hp hn v hv => h.spares_visited hex hp hn hv) hr
    (List.mem_map_of_mem hi) hd hv
  obtain ⟨u', hu', huu', hensure⟩ := foldl_around (P := P) (R := R)
    (f := fun v i => b.ensured repo i v) hrefl htrans (fun j hj v hv => h.ensure hr hj hv)
    (fun j hj hn v hv => spares_ensured (hother j hn)) hi
    (List.mem_singleton_self i.id) (count_listing hr hd) hu
  obtain ⟨w, hw, hensured, hsync⟩ := foldl_around (P := P) (R := R)
    (f := fun v i => b.synced name repo i v) hrefl htrans (fun j hj v hv => h.sync hr hj hv)
    (fun j hj hn v hv => spares_synced (h.numbered hv).identified fun r hmem =>
      hex hv r hmem _ hr j.id (hother j hn)) hi
    (List.mem_singleton_self i.id) (count_listing hr hd) (h.foldl_ensured hr hu)
  exact ⟨u', w, hu', hw, htrans hvu huu', htrans hensure hensured, htrans hsync hlast⟩

end Steady

theorem steady_of_durable {P : Scene → Prop} (h : Durable P) (hn : ∀ {v}, P v → v.store.Numbered)
    (b : Bridge) (src : Source) : b.Steady src P where
  numbered hv := hn hv
  ensure _ _ hv := h.ensured hv
  sync _ _ hv := h.synced hv

theorem steady_numbered (b : Bridge) (src : Source) : b.Steady src fun v => v.store.Numbered :=
  steady_of_durable durable_numbered (fun hv => hv) b src

end Around

end Bridge

end IssueBridge
