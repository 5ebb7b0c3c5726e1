import MemoryDashboard.Backend.Scripted
import MemoryDashboard.Proofs.Feed.MergeLaws
import MemoryDashboard.Proofs.Feed.Store

/-! # The feed store's calls in the dashboard's monad

The store's operations run in the dashboard's monad `Sim` against any backend. Whatever the
backend's calls do to the world while they run, other operations on the store included, is what
an operation waits through. A run gives the answer, or none when a call never answers, and the
world after it (`Sim.run`); one step of an operation is told by its run equation, and an
operation by the run equations of its fetch (`firstPages`, `nextPages`).

Each operation touches the store only in its own steps around its fetch. So a fetch that fails
leaves the world as the fetch left it: a refresh answers the error with its context, a
first-page load leaves what its switch of project left, and a next-page load only releases its
claim and counts the failure, so that a retry asks for the same pages
(`failed_fetch_changes_nothing`). And a second refresh of the epoch that gets the same pages
again, with nothing else touching the store meanwhile, leaves the store as the first left it and
reports no new item (`merging_again_changes_nothing`).
-/

namespace MemoryDashboard

namespace Scripted

/-! ### Running steps -/

/-- A step that answers hands its world to the next; one that never answers ends the run. -/
theorem Sim.run_bind {α β : Type} (x : Sim α) (f : α → Sim β) (w : World) :
    Sim.run (x >>= f) w =
      match Sim.run x w with
      | (some a, w') => Sim.run (f a) w'
      | (none, w') => (none, w') := by
  simp only [Sim.run, ExceptT.run_bind, StateT.run_bind]
  rcases (ExceptT.run x).run w with ⟨_ | a, w'⟩
  · rfl
  · rfl

@[simp]
theorem Sim.run_pure {α : Type} (a : α) (w : World) : Sim.run (pure a : Sim α) w = (some a, w) :=
  rfl

@[simp]
theorem Sim.run_getFeed (w : World) : Sim.run (getThe Feed.FeedStore) w = (some w.feed, w) := rfl

@[simp]
theorem Sim.run_modifyGetFeed {α : Type} (f : Feed.FeedStore → α × Feed.FeedStore) (w : World) :
    Sim.run (modifyGetThe Feed.FeedStore f) w = (some (f w.feed).1, { w with feed := (f w.feed).2 }) :=
  rfl

@[simp]
theorem Sim.run_increment (s : Metrics.Series) (n : Nat) (w : World) :
    Sim.run (Metrics.increment s n : Sim Unit) w = (some (), { w with metrics := w.metrics.increment s n }) :=
  rfl

@[simp]
theorem Sim.run_setValue (s : Metrics.Series) (v : Nat) (w : World) :
    Sim.run (Metrics.setValue s v : Sim Unit) w = (some (), { w with metrics := w.metrics.put s v }) :=
  rfl

end Scripted

namespace Feed

open Scripted

/-- What a first-page refresh of a project fetches: the first page of both collections, awaited
as one. -/
def firstPages (api : Backend Sim) (project : String) : Sim (Except String (Page × Page)) :=
  Backend.join2 (api.memoriesPage project observationPageSize 0)
    (api.summariesPage project summaryPageSize 0)

/-- What a claimed next-page load fetches: the next page of each collection that has more. -/
def nextPages (api : Backend Sim) (f : NextFetch) : Sim (Except String (Page × Page)) :=
  Backend.join2 (nextPageOf (api.memoriesPage f.epoch.project observationPageSize) f.observations)
    (nextPageOf (api.summariesPage f.epoch.project summaryPageSize) f.summaries)

/-- The error a refresh of a project answers when its fetch fails. -/
def firstPageError (project message : String) : String :=
  "loading first feed page for project " ++ Json.debugQuote project ++ ": " ++ message

/-! ### Steps that touch the store -/

/-- Recording a page only records metrics. -/
theorem recordPage_run (observations : Page) (s : FeedStore) (w : World) :
    ∃ w', Sim.run (recordPage observations s) w = (some (), w') ∧ w'.feed = w.feed := by
  unfold recordPage
  by_cases dropped : lowSignalCount observations.items > 0
  · simp only [dropped, ↓reduceIte, Sim.run_bind, Sim.run_increment, Sim.run_setValue]
    exact ⟨_, rfl, rfl⟩
  · simp only [dropped, ↓reduceIte, Sim.run_setValue]
    exact ⟨_, rfl, rfl⟩

/-- Switching projects switches the store and records the feed's size when it changed. -/
theorem setProject_run (project : String) (w : World) :
    ∃ w', Sim.run (setProject project) w = (some (w.feed.withProject project).1, w') ∧
      w'.feed = (w.feed.withProject project).2 := by
  unfold setProject
  by_cases changed : (w.feed.withProject project).1 = true
  · simp only [Sim.run_bind, Sim.run_modifyGetFeed, changed, ↓reduceIte, Sim.run_setValue,
      Sim.run_pure]
    exact ⟨_, rfl, rfl⟩
  · simp only [Sim.run_bind, Sim.run_modifyGetFeed, changed, Bool.false_eq_true, ↓reduceIte,
      Sim.run_pure]
    exact ⟨_, rfl, rfl⟩

theorem withProject_project (s : FeedStore) (project : String) :
    (s.withProject project).2.project = project := by
  by_cases same : s.project = project
  · rw [FeedStore.withProject_of_eq same, same]
  · rw [FeedStore.withProject_of_ne same]

/-! ### Refreshing the first page -/

/-- A refresh whose fetch fails answers the error and leaves the world as the fetch left it. -/
theorem refreshFirstPage_failed_run {api : Backend Sim} {e : Epoch} {w after : World}
    {message : String} (current : w.feed.isCurrent e = true)
    (fails : Sim.run (firstPages api e.project) w = (some (.error message), after)) :
    Sim.run (refreshFirstPage api e) w = (some (.error (firstPageError e.project message)), after) := by
  simp only [refreshFirstPage, Sim.run_bind, Sim.run_getFeed, current, Bool.not_true,
    Bool.false_eq_true, ↓reduceIte]
  rw [show Sim.run (Backend.join2 _ _) w = _ from fails]
  rfl

/-- A refresh whose fetch gives pages completes them against the store as the fetch left it. -/
theorem refreshFirstPage_fetched_run {api : Backend Sim} {e : Epoch} {w after : World}
    {observations summaries : Page} (current : w.feed.isCurrent e = true)
    (fetched : Sim.run (firstPages api e.project) w = (some (.ok (observations, summaries)), after)) :
    (Sim.run (refreshFirstPage api e) w).1 =
        some (.ok (after.feed.completeFirst e observations summaries).1) ∧
      (Sim.run (refreshFirstPage api e) w).2.feed =
        (after.feed.completeFirst e observations summaries).2 := by
  simp only [refreshFirstPage, Sim.run_bind, Sim.run_getFeed, current, Bool.not_true,
    Bool.false_eq_true, ↓reduceIte]
  rw [show Sim.run (Backend.join2 _ _) w = _ from fetched]
  simp only [Sim.run_bind, Sim.run_modifyGetFeed]
  -- an applied page is recorded, which touches only the metrics
  cases outcome : (after.feed.completeFirst e observations summaries).1 with
  | applied n =>
      obtain ⟨w', recorded, kept⟩ := recordPage_run observations
        (after.feed.completeFirst e observations summaries).2
        { after with feed := (after.feed.completeFirst e observations summaries).2 }
      simp only [↓reduceIte, Sim.run_bind, Sim.run_getFeed, recorded, Sim.run_pure, true_and]
      exact kept
  | stale => simp only [Bool.false_eq_true, ↓reduceIte, Sim.run_pure, and_self]

/-- Loading a project's first page is switching to it, then refreshing its epoch. -/
theorem loadFirstPage_failed_run {api : Backend Sim} {project message : String} {w after : World}
    (fails : Sim.run (firstPages api project) (Sim.run (setProject project) w).2 =
      (some (.error message), after)) :
    Sim.run (loadFirstPage api project) w = (some (.error (firstPageError project message)), after) := by
  obtain ⟨switchedWorld, switchRun, switched⟩ := setProject_run project w
  have current : switchedWorld.feed.isCurrent switchedWorld.feed.epoch = true :=
    FeedStore.isCurrent_iff.mpr rfl
  have onProject : switchedWorld.feed.epoch.project = project := by
    rw [switched]
    exact withProject_project w.feed project
  rw [switchRun] at fails
  unfold loadFirstPage
  simp only [Sim.run_bind, switchRun, Sim.run_getFeed]
  rw [refreshFirstPage_failed_run current (onProject ▸ fails), onProject]

/-! ### Refreshing again with the same pages -/

/-- Taking in the same first pages a second time changes nothing and brings no new key. -/
theorem applyFirstPage_again (s : FeedStore) (observations summaries : Page) :
    (s.applyFirstPage observations summaries).2.applyFirstPage observations summaries =
      (0, (s.applyFirstPage observations summaries).2) := by
  rw [FeedStore.applyFirstPage_eq (s.applyFirstPage observations summaries).2,
    FeedStore.applyFirstPage_items, refreshMerge_again, FeedStore.applyFirstPage_eq s]
  simp [FeedStore.replaceItems, newKeys_self, unionKeys]

/-- Completing the same first pages twice in one epoch: the second applies no new item and
leaves the store as the first left it. -/
theorem completeFirst_again {s : FeedStore} {e : Epoch} (current : s.isCurrent e = true)
    (observations summaries : Page) :
    (s.completeFirst e observations summaries).2.completeFirst e observations summaries =
      (.applied 0, (s.completeFirst e observations summaries).2) := by
  have still : (s.applyFirstPage observations summaries).2.isCurrent e = true := by
    rw [(FeedStore.applyFirstPage_keeps s observations summaries).isCurrent]
    exact current
  rw [FeedStore.completeFirst_current current, FeedStore.completeFirst_current still,
    applyFirstPage_again]

/-- Merging a page again right after merging it changes nothing, for either merge, and reports no
new key. So a second refresh of an epoch still current that gets the same pages, with nothing
else touching the store while it waits, answers that it applied no new item and leaves the store
as the first refresh left it: polling a backend that did not change changes nothing. -/
theorem merging_again_changes_nothing (current batch : List FeedItem) (api : Backend Sim)
    (w : World) :
    appendMerge (appendMerge current batch) batch = appendMerge current batch ∧
    refreshMerge (refreshMerge current batch) batch = refreshMerge current batch ∧
    newKeys (appendMerge current batch) (appendMerge (appendMerge current batch) batch) = [] ∧
    newKeys (refreshMerge current batch) (refreshMerge (refreshMerge current batch) batch) = [] ∧
    ∀ (e : Epoch) (observations summaries : Page) (fetchedOnce fetchedTwice : World),
      w.feed.isCurrent e = true →
      Sim.run (firstPages api e.project) w = (some (.ok (observations, summaries)), fetchedOnce) →
      fetchedOnce.feed.isCurrent e = true →
      Sim.run (firstPages api e.project) (Sim.run (refreshFirstPage api e) w).2 =
        (some (.ok (observations, summaries)), fetchedTwice) →
      fetchedTwice.feed = (Sim.run (refreshFirstPage api e) w).2.feed →
      (Sim.run (refreshFirstPage api e) (Sim.run (refreshFirstPage api e) w).2).1 =
          some (.ok (.applied 0)) ∧
        (Sim.run (refreshFirstPage api e) (Sim.run (refreshFirstPage api e) w).2).2.feed =
          (Sim.run (refreshFirstPage api e) w).2.feed := by
  refine ⟨appendMerge_again current batch, refreshMerge_again current batch, ?_, ?_, ?_⟩
  · rw [appendMerge_again]
    exact newKeys_self _
  · rw [refreshMerge_again]
    exact newKeys_self _
  · intro e observations summaries fetchedOnce fetchedTwice atStart fetched stillCurrent
      fetchedAgain untouched
    obtain ⟨-, first⟩ := refreshFirstPage_fetched_run atStart fetched
    -- the first refresh kept the epoch, so the second one fetches and completes too
    have again : (Sim.run (refreshFirstPage api e) w).2.feed.isCurrent e = true := by
      rw [first, (FeedStore.completeFirst_keeps _ e observations summaries).isCurrent]
      exact stillCurrent
    obtain ⟨answer, second⟩ := refreshFirstPage_fetched_run again fetchedAgain
    rw [answer, second, untouched, first, completeFirst_again stillCurrent]
    exact ⟨rfl, rfl⟩

/-- A backend that always gives the same page: refreshing the first page twice, the second
refresh applies nothing new and leaves the store as it was. -/
theorem same_page_refreshed_twice :
    let core : ItemCore :=
      { ids := { id := some (.number (.natural 1)) }, kind := "discovery", title := "Keyed merge",
        bodyText := "Merged both paginated collections by key" }
    let page : Page := { items := [.observation { core }] }
    let api : Backend Sim :=
      { Scripted.backend 0 with
        memoriesPage := fun _ _ _ => pure (.ok page), summariesPage := fun _ _ _ => pure (.ok {}) }
    let w : World := { dashboard := default, feed := { generation := 1, project := "p" }, now := default }
    (Sim.run (refreshFirstPage api ⟨1, "p"⟩) (Sim.run (refreshFirstPage api ⟨1, "p"⟩) w).2).1 =
        some (.ok (.applied 0)) ∧
      (Sim.run (refreshFirstPage api ⟨1, "p"⟩) (Sim.run (refreshFirstPage api ⟨1, "p"⟩) w).2).2.feed =
        (Sim.run (refreshFirstPage api ⟨1, "p"⟩) w).2.feed := by
  intro core page api w
  exact (merging_again_changes_nothing [] [] api w).2.2.2.2 ⟨1, "p"⟩ page {} w _ rfl rfl rfl rfl rfl

/-! ### Loading the next page -/

/-- A next-page load that claims the load and whose fetch fails answers failed: the world is the
fetch's, with the claim released and the failure counted. -/
theorem loadNextPage_failed_run {api : Backend Sim} {w after : World} {message : String}
    (free : w.feed.loadingMore = false) (more : w.feed.hasMore = true)
    (fails : Sim.run (nextPages api ⟨w.feed.epoch, w.feed.observations, w.feed.summaries⟩)
        { w with feed := { w.feed with loadingMore := true } } = (some (.error message), after)) :
    Sim.run (loadNextPage api) w =
      (some .failed, { after with feed := after.feed.releaseLoad,
                                  metrics := after.metrics.increment .loadMoreErrorsTotal 1 }) := by
  have claimed : w.feed.claimNext =
      (some ⟨w.feed.epoch, w.feed.observations, w.feed.summaries⟩,
        { w.feed with loadingMore := true }) := by
    simp [FeedStore.claimNext, free, more]
  unfold loadNextPage
  simp only [Sim.run_bind, Sim.run_modifyGetFeed, claimed]
  rw [show Sim.run (Backend.join2 _ _) _ = _ from fails]
  simp only [Sim.run_bind, FeedStore.completeNext_error, Sim.run_increment, Sim.run_pure]

/-! ### Failed fetches -/

/-- A fetch that fails changes nothing by itself. A refresh of the current epoch answers the error
and leaves the world as the fetch left it; a first-page load leaves what switching to its project
left; and a next-page load that claimed the load answers failed, releases the claim and counts
the failure, so that, when nothing else touched the store, the store is as it was and a retry
claims the same cursors, asking for the same pages. -/
theorem failed_fetch_changes_nothing (api : Backend Sim) (w : World) :
    (∀ (e : Epoch) (message : String) (after : World), w.feed.isCurrent e = true →
      Sim.run (firstPages api e.project) w = (some (.error message), after) →
      Sim.run (refreshFirstPage api e) w = (some (.error (firstPageError e.project message)), after)) ∧
    (∀ (project message : String) (after : World),
      Sim.run (firstPages api project) (Sim.run (setProject project) w).2 =
          (some (.error message), after) →
        Sim.run (loadFirstPage api project) w =
          (some (.error (firstPageError project message)), after)) ∧
    (∀ (message : String) (after : World), w.feed.loadingMore = false → w.feed.hasMore = true →
      Sim.run (nextPages api ⟨w.feed.epoch, w.feed.observations, w.feed.summaries⟩)
          { w with feed := { w.feed with loadingMore := true } } = (some (.error message), after) →
        Sim.run (loadNextPage api) w =
          (some .failed, { after with feed := after.feed.releaseLoad,
                                      metrics := after.metrics.increment .loadMoreErrorsTotal 1 }) ∧
        (after.feed = { w.feed with loadingMore := true } →
          after.feed.releaseLoad = w.feed ∧
            after.feed.releaseLoad.claimNext.1 =
              some ⟨w.feed.epoch, w.feed.observations, w.feed.summaries⟩)) := by
  refine ⟨fun _ _ _ current fails => refreshFirstPage_failed_run current fails,
    fun _ _ _ fails => loadFirstPage_failed_run fails,
    fun _ after free more fails => ⟨loadNextPage_failed_run free more fails, fun untouched => ?_⟩⟩
  -- the claim only set the flag, and releasing it gives back the store before the claim
  have restored : after.feed.releaseLoad = w.feed := by
    rw [untouched]
    cases feed : w.feed
    simp only [feed] at free
    simp [FeedStore.releaseLoad, free]
  refine ⟨restored, ?_⟩
  rw [restored]
  simp [FeedStore.claimNext, free, more]

/-- A backend whose observations never load: a refresh, a first-page load and a next-page load
each fail without changing the store. -/
theorem unreachable_observations_change_nothing :
    let api : Backend Sim :=
      { Scripted.backend 0 with memoriesPage := fun _ _ _ => pure (.error "connection refused") }
    let w : World := { dashboard := default, feed := { generation := 1, project := "p" }, now := default }
    Sim.run (refreshFirstPage api ⟨1, "p"⟩) w =
        (some (.error (firstPageError "p" "connection refused")), w) ∧
      Sim.run (loadFirstPage api "q") w =
        (some (.error (firstPageError "q" "connection refused")), (Sim.run (setProject "q") w).2) ∧
      Sim.run (loadNextPage api) w =
        (some .failed, { w with metrics := w.metrics.increment .loadMoreErrorsTotal 1 }) := by
  intro api w
  have failures := failed_fetch_changes_nothing api w
  refine ⟨failures.1 ⟨1, "p"⟩ "connection refused" w rfl rfl,
    failures.2.1 "q" "connection refused" _ rfl, ?_⟩
  exact (failures.2.2 "connection refused" { w with feed := { w.feed with loadingMore := true } }
    rfl rfl rfl).1

end Feed

end MemoryDashboard

