import IssueBridge.Proofs.Bridge.Mirror
import IssueBridge.Proofs.Bridge.Upheld

/-! # A pass that is repeated

After a pass in which no call fails every listed issue rests: nothing is left to do for it. A step that
is about a resting issue changes nothing, and so does a whole pass when all of them rest.
-/

namespace IssueBridge

open Step Tracker Correlation

namespace Bridge

variable {b : Bridge} {v : Scene} {src : Source} {name : String} {repo : Repo} {i : GitHub.Issue}
  {s t : Store} {r : TicketRef} {x : Ticket} {d : String} {w w' : World}

/-- Nothing is left to do for an issue: it has a counterpart or no description for a new one, and if it
has just one then this mirrors it and has its comments. -/
structure Rests (b : Bridge) (src : Source) (name : String) (repo : Repo) (i : GitHub.Issue)
    (s : Store) : Prop where
  none : s.search (query b.fieldIds repo.project i.id) = [] →
    ∀ d, Logged.result (b.description i) ≠ .ok d
  sole : ∀ r x d, s.search (query b.fieldIds repo.project i.id) = [r] → s.ticket? r = some x →
    Logged.result (b.description i) = .ok d → b.Mirrors s.workflow repo i d x ∧
      ∃ cs, s.threads.lookup x.id.get? = some cs ∧ (cs.map (·.id)).Nodup ∧ b.Spoken src name repo i cs

theorem Rests.spared (h : b.Rests src name repo i s)
    (hst : s.Spares (query b.fieldIds repo.project i.id) t) : b.Rests src name repo i t where
  none hs := h.none (hst.search.symm.trans hs)
  sole r x d hs hx hd := by
    have hs' := hst.search.symm.trans hs
    have hmem : r ∈ s.search (query b.fieldIds repo.project i.id) := hs' ▸ List.mem_singleton_self r
    have hx' : s.ticket? r = some x := (hst.ticket r hmem).symm.trans hx
    rw [hst.workflow, hst.lookup r hmem x hx']
    exact h.sole r x d hs' hx' hd

section Fixed

theorem ensured_of_rests (hb : b.Searchable) (hr : (name, repo) ∈ b.settings.repos)
    (h : b.Rests src name repo i v.store) : b.ensured repo i v = v := by
  unfold ensured
  split
  · rename_i d hf hd
    rw [hb.finds_eq hr] at hf
    exact absurd hd (h.none hf d)
  · rfl

theorem synced_of_rests (hb : b.Searchable) (hr : (name, repo) ∈ b.settings.repos)
    (h : b.Rests v.source name repo i v.store) : b.synced name repo i v = v := by
  unfold synced
  split
  · rename_i r hf
    rw [hb.finds_eq hr] at hf
    unfold broughtUp
    split
    · rename_i x d hx hd
      obtain ⟨hmirrors, cs, hlookup, hdistinct, hspoken⟩ := h.sole r x d hf hx hd
      rw [refreshed_of_mirrors _ _ _ _ _ hmirrors, Scene.put_self hx]
      exact commented_of_spoken hlookup hdistinct hspoken
    · rfl
  · rfl

theorem foldl_fixed {σ α : Type} {f : σ → α → σ} {u : σ} {l : List α} (h : ∀ a ∈ l, f u a = u) :
    l.foldl f u = u :=
  List.foldlRecOn l f (motive := fun v => v = u) rfl fun _ hv a ha => hv ▸ h a ha

theorem passed_of_rests (hb : b.Searchable)
    (h : ∀ name repo i, (name, repo) ∈ b.settings.repos → i ∈ v.source.listing repo.owner name →
      b.Rests v.source name repo i v.store) : b.passed v.source v = v := by
  refine foldl_fixed ?_
  rintro ⟨name, repo⟩ hr
  have hensured : (v.source.listing repo.owner name).foldl (fun v i => b.ensured repo i v) v = v :=
    foldl_fixed fun i hi => ensured_of_rests hb hr (h name repo i hr hi)
  unfold visited
  dsimp only
  rw [hensured]
  exact foldl_fixed fun i hi => synced_of_rests hb hr (h name repo i hr hi)

end Fixed

section Reached

/-- The comments that an issue lists have ids of their own, and none of them is negative. -/
def Apart (src : Source) (name : String) (repo : Repo) (i : GitHub.Issue) : Prop :=
  ((src.remarks repo.owner name i.number).map (·.id)).Nodup ∧
    ∀ c ∈ src.remarks repo.owner name i.number, 0 ≤ c.id

theorem rests_synced (hb : b.Searchable) (hr : (name, repo) ∈ b.settings.repos)
    (hv : v.store.Threaded) (hapart : Apart v.source name repo i)
    (hnone : v.store.search (query b.fieldIds repo.project i.id) = [] →
      ∀ d, Logged.result (b.description i) ≠ .ok d) :
    b.Rests v.source name repo i (b.synced name repo i v).store := by
  have halters := alters_synced b name repo i v
  constructor
  case none =>
    rw [halters.search]
    exact hnone
  case sole =>
    intro r y d hs hy hd
    rw [halters.search] at hs
    obtain ⟨x, hx, -⟩ := Store.mem_search.mp (hs ▸ List.mem_singleton_self r)
    obtain ⟨-, hrefreshed⟩ := refreshed_synced name (hb.seeks hr) hd hs hx
    rw [hy, Option.some.injEq] at hrefreshed
    subst hrefreshed
    rw [halters.workflow]
    refine ⟨mirrors_refreshed .., ?_⟩
    rw [synced_eq ((hb.finds_eq hr v.store i.id).trans hs), broughtUp_eq hx hd,
      (follows_refreshed ..).same.id]
    exact spoken_commented (v := v.put r (b.refreshed v.store.workflow repo i d x)) hv hapart.2 hapart.1

/-- After an issue was looked for, only one without a description has no counterpart. -/
theorem description_of_unfound (hb : b.Searchable) (hr : (name, repo) ∈ b.settings.repos)
    (h : (b.ensured repo i v).store.search (query b.fieldIds repo.project i.id) = []) (d : String) :
    Logged.result (b.description i) ≠ .ok d := by
  intro hd
  have hfinds := hb.finds_eq hr v.store i.id
  by_cases hf : b.finds v.store repo.project i.id = []
  · rw [ensured_of_nil hf hd, carriers_created hb.url hd, if_pos ⟨rfl, rfl⟩] at h
    exact List.append_ne_nil_of_right_ne_nil _ (List.cons_ne_nil _ _) h
  · rw [ensured_of_ne_nil hf, ← hfinds] at h
    exact hf h

/-- After a pass every listed issue rests. -/
theorem rests_passed (hb : b.Searchable) (hd : (b.listedIds v.source).Nodup) (hn : v.store.Numbered)
    (ht : v.store.Threaded) (hr : (name, repo) ∈ b.settings.repos)
    (hi : i ∈ v.source.listing repo.owner name) (hapart : Apart v.source name repo i) :
    b.Rests v.source name repo i (b.passed v.source v).store := by
  have hdurable := durable_numbered.and (durable_threaded.and (durable_source v.source))
  have hsteady := steady_of_durable hdurable (fun hu => hu.1) b v.source
  obtain ⟨u, u', -, ⟨-, ht', hsource⟩, -, hensured, hlast⟩ :=
    hsteady.around (fun _ => hb.exclusive _ _ _) (List.nodup_iff_count.mp hd _) hr hi (v := v)
      ⟨hn, ht, rfl⟩
  have hrests := rests_synced (v := u') hb hr ht' (by rwa [hsource]) fun hs =>
    description_of_unfound hb hr (hensured.search.symm.trans hs)
  rw [hsource] at hrests
  exact hrests.spared hlast

/-- A pass that is repeated changes nothing: when no call failed in the first one, and none fails while
the source lists the same, the tracker stays as it is, and nothing is made or deleted. -/
theorem syncAll_rests (hb : b.Searchable) (hn : w.store.Numbered) (ht : w.store.Threaded)
    (hd : (b.listedIds w.source).Nodup)
    (hapart : ∀ name repo i, (name, repo) ∈ b.settings.repos → i ∈ w.source.listing repo.owner name →
      Apart w.source name repo i)
    (hw : w.Calm) (hran : b.Ran w) (hw' : w'.Calm) (hstore : w'.store = (after b.syncAll w).store)
    (hsource : w'.source = w.source) :
    (after b.syncAll w').store = w'.store ∧
      (after b.syncAll w').history.filter Call.isMaking = w'.history.filter Call.isMaking := by
  have hshows : (after b.syncAll w).Shows (b.passed w.source w.scene) :=
    shows_of_ran hw hn.keyed hran
  rw [hshows.store] at hstore
  have hnumbered : w'.store.Numbered := by
    rw [hstore]
    exact (steady_numbered b w.source).passed (v := w.scene) hn
  have hfixed : b.passed w'.source w'.scene = w'.scene := by
    refine passed_of_rests (v := w'.scene) hb fun name repo i hr hi => ?_
    have hi' : i ∈ w.source.listing repo.owner name := hsource ▸ hi
    have hrests := rests_passed (v := w.scene) hb hd hn ht hr hi' (hapart name repo i hr hi')
    rw [show w'.scene.source = w.scene.source from hsource, show w'.scene.store = _ from hstore]
    exact hrests
  have hlast : (after b.syncAll w').Shows w'.scene := by
    rcases shows_syncAll (b := b) hw' hnumbered.keyed with h | h
    · rwa [hfixed] at h
    · exact h.1
  exact ⟨hlast.store, congrArg Scene.made hlast.scene⟩

theorem syncAll_rests_half :
    (after small.syncAll (after small.syncAll halfWorld)).store = (after small.syncAll halfWorld).store ∧
      ((after small.syncAll (after small.syncAll halfWorld)).history.filter Call.isMaking).length =
        2 := by
  have ht : halfWorld.store.Threaded := fun _ _ h => by cases h
  have hw : halfWorld.Calm := fun _ _ _ => rfl
  have hlisted : ∀ p ∈ small.settings.repos, ∀ i ∈ halfWorld.source.listing p.2.owner p.1,
      ((halfWorld.source.remarks p.2.owner p.1 i.number).map (·.id)).Nodup ∧
        ∀ c ∈ halfWorld.source.remarks p.2.owner p.1 i.number, 0 ≤ c.id := by
    decide +kernel
  have hmade : ((after small.syncAll halfWorld).history.filter Call.isMaking).length = 2 := by
    decide +kernel
  have hshows := shows_of_ran hw numbered_half.keyed ran_half
  have hsteady := steady_of_durable (durable_numbered.and (durable_source halfWorld.source))
    (fun hv => hv.1) small halfWorld.source
  have hsource := (hsteady.passed (v := halfWorld.scene) ⟨numbered_half, rfl⟩).2
  obtain ⟨hstore, hhistory⟩ := syncAll_rests searchable_small numbered_half ht nodup_half
    (fun name repo i hr hi => hlisted (name, repo) hr i hi) hw ran_half hshows.calm rfl
    (hshows.source.trans hsource)
  refine ⟨hstore, ?_⟩
  rw [hhistory]
  exact hmade

end Reached

end Bridge

end IssueBridge
