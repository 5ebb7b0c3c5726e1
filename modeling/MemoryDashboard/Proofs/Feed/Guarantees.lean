import MemoryDashboard.Proofs.Feed.Safety

/-! # What the feed store guarantees under interleaved calls

Read at a reachable state of a `FeedSystem`, together with what one step does, the invariants
give what callers of the feed store rely on:

* the feed is coherent, keeps every key while the generation stays, is emptied only by a switch
  to another project, and every applied load reports the keys it brought in and marks them new;
* pages for an epoch no longer current change nothing, a refresh for such an epoch sends no
  request, and every held item was returned by a request sent under the current epoch;
* the next-page load is claimed exactly while one next-page load waits, a load that finds it
  claimed or nothing more to load is skipped, and ending or dropping the load releases it;
* only observations pages are filtered: a held low-signal item was returned by a request for
  summaries, and a summaries page carrying one brings it into the feed.
-/

namespace MemoryDashboard.Feed

namespace FeedSystem

/-! ### Applied loads -/

/-- Ending a call with an applied outcome reports the keys it brought in. -/
theorem finish_reports (c : FeedSystem) (p : Pending) (pages : Except String (Page × Page))
    {n : Nat} (applied : (c.finish p pages).1 = .firstPage (.applied n) ∨
      (c.finish p pages).1 = .nextPage (.applied n)) :
    c.store.Reports (c.finish p pages).2.store n := by
  obtain ⟨call, sentUnder⟩ := p
  cases call with
  | firstPage e =>
      rcases pages with message | ⟨observations, summaries⟩
      · simp [finish_firstPage_error] at applied
      · rw [finish_firstPage_ok] at applied ⊢
        cases current : c.store.isCurrent e
        · simp [FeedStore.completeFirst_stale current] at applied
        · simp only [FeedStore.completeFirst_current current, FeedReply.firstPage.injEq,
            FirstPageOutcome.applied.injEq, reduceCtorEq, or_false] at applied ⊢
          subst applied
          exact FeedStore.applyFirstPage_reports _ _ _
  | nextPage f =>
      rw [finish_nextPage] at applied ⊢
      cases fetched : (Call.nextPage f).fetched pages with
      | error message => simp [fetched, FeedStore.completeNext_error] at applied
      | ok pair =>
          obtain ⟨observations, summaries⟩ := pair
          cases current : c.store.isCurrent f.epoch
          · simp [fetched, FeedStore.completeNext_stale current] at applied
          · simp only [fetched, FeedStore.completeNext_current current, FeedReply.nextPage.injEq,
              NextPageOutcome.applied.injEq, reduceCtorEq, false_or] at applied ⊢
            subst applied
            exact FeedStore.applyNextPage_reports _ _ _ _ _

/-- A step that answers with an applied outcome reports the keys it brought in; only the
backend's answer to a waiting call can. -/
theorem step_reports {c : FeedSystem} {event : FeedEvent} {n : Nat}
    (applied : (c.step event).1 = .firstPage (.applied n) ∨
      (c.step event).1 = .nextPage (.applied n)) :
    c.store.Reports (c.step event).2.store n := by
  obtain ⟨p, pages, -, answered⟩ := step_applied applied
  rw [answered] at applied ⊢
  exact finish_reports _ p pages applied

/-- Only a switch to another project empties a feed that held something. -/
theorem emptied_only_by_switch {c : FeedSystem} {event : FeedEvent} (held : c.store.items ≠ [])
    (emptied : (c.step event).2.store.items = []) :
    ∃ project, event = .setProject project ∧ c.store.project ≠ project := by
  rcases step_keeps_or_switches c event with keeps | ⟨project, isSwitch, other, -⟩
  · exact absurd emptied (keeps.items_ne_nil held)
  · exact ⟨project, isSwitch, other⟩

/-- In every reachable state the held items have distinct keys, newest first, and every key
marked new is held; while the generation stays no held key is lost; only a switch to another
project empties the feed; and every applied load reports how many keys it brought in and marks
exactly those new. -/
theorem feed_coherent_and_growing {c : FeedSystem} (reachable : c.Reachable) :
    (c.store.items.map FeedItem.key).Nodup ∧ c.store.items.Pairwise NewestFirst ∧
      (∀ k ∈ c.store.newKeys, k ∈ c.store.items.map FeedItem.key) ∧
      (∀ events, (c.run events).store.generation = c.store.generation →
        c.store.heldKeys ⊆ (c.run events).store.heldKeys) ∧
      ∀ event,
        (c.store.items ≠ [] → (c.step event).2.store.items = [] →
          ∃ project, event = .setProject project ∧ c.store.project ≠ project) ∧
        ∀ n, (c.step event).1 = .firstPage (.applied n) ∨
            (c.step event).1 = .nextPage (.applied n) →
          c.store.Reports (c.step event).2.store n := by
  have coherent := reachable.coherent
  refine ⟨coherent.keys_nodup, coherent.newestFirst, fun k marked => ?_,
    fun _ same => (keeps_run same).heldKeys,
    fun _ => ⟨emptied_only_by_switch, fun _ applied => step_reports applied⟩⟩
  have held := coherent.marked_held (List.mem_toFinset.mpr marked)
  exact List.mem_toFinset.mp held

/-- A next-page load started on a project's first generation holds its feed newest first. -/
theorem loading_feed_newest_first :
    let c := (({} : FeedSystem).run [.setProject "a", .loadNextPage])
    c.Reachable ∧ c.store.items.Pairwise NewestFirst := by
  intro c
  have reachable : c.Reachable := Reachable.initial.run _
  exact ⟨reachable, (feed_coherent_and_growing reachable).2.1⟩

/-! ### Answers for an older epoch -/

/-- Ending a call whose epoch is no longer current leaves the feed as it was, and with pages
answers stale. -/
theorem finish_stale (c : FeedSystem) {p : Pending} (stale : c.store.isCurrent p.call.epoch = false)
    (pages : Except String (Page × Page)) :
    FeedStore.SameFeed c.store (c.finish p pages).2.store ∧
      ∀ observations summaries, pages = .ok (observations, summaries) →
        (c.finish p pages).1 = if p.call.isNextPage then .nextPage .stale else .firstPage .stale := by
  obtain ⟨call, sentUnder⟩ := p
  cases call with
  | firstPage e =>
      rcases pages with message | ⟨observations, summaries⟩
      · rw [finish_firstPage_error]
        exact ⟨.refl _, fun _ _ isOk => nomatch isOk⟩
      · have staleEpoch : c.store.isCurrent e = false := stale
        rw [finish_firstPage_ok, FeedStore.completeFirst_stale staleEpoch]
        exact ⟨.refl _, fun _ _ _ => rfl⟩
  | nextPage f =>
      rw [finish_nextPage]
      rcases pages with message | ⟨observations, summaries⟩
      · exact ⟨FeedStore.sameFeed_releaseLoad _, fun _ _ isOk => nomatch isOk⟩
      · have fetched : (Call.nextPage f).fetched (.ok (observations, summaries)) =
            .ok (Call.pageOf f.observations observations, Call.pageOf f.summaries summaries) := rfl
        have staleEpoch : c.store.isCurrent f.epoch = false := stale
        rw [fetched, FeedStore.completeNext_stale staleEpoch]
        exact ⟨FeedStore.sameFeed_releaseLoad _, fun _ _ _ => rfl⟩

theorem refreshFirstPage_stale {c : FeedSystem} {e : Epoch} (stale : c.store.isCurrent e = false) :
    c.step (.refreshFirstPage e) = (.firstPage .stale, c) := by
  simp [FeedSystem.step, stale]

/-- Every held item was returned by a logged request sent under the store's current epoch, so
for its current project. -/
theorem Logged.held_returned {c : FeedSystem} (logged : c.Logged) {item : FeedItem}
    (member : item ∈ c.store.items) :
    ∃ r ∈ c.sent, (r, item) ∈ c.returned ∧ r.sentUnder = c.store.epoch ∧
      r.project = c.store.project := by
  obtain ⟨r, returned, sentUnder⟩ := logged.sourced.current item member
  have sent := logged.returnedSent r item returned
  refine ⟨r, sent, returned, sentUnder, ?_⟩
  rw [logged.sentProject r sent, sentUnder]
  rfl

/-- In every reachable state, the backend's answer to a waiting call whose epoch is no longer
current leaves the items, both cursors, the count of filtered observations and the new keys as
they were, and with pages answers stale; a refresh for such an epoch sends no request and
changes nothing; and every held item was returned by a request sent under the current epoch,
for the current project. -/
theorem stale_answers_change_nothing {c : FeedSystem} (reachable : c.Reachable) :
    (∀ p ∈ c.calls, c.store.isCurrent p.call.epoch = false → ∀ pages,
        FeedStore.SameFeed c.store (c.step (.answer p pages)).2.store ∧
          ∀ observations summaries, pages = .ok (observations, summaries) →
            (c.step (.answer p pages)).1 =
              if p.call.isNextPage then .nextPage .stale else .firstPage .stale) ∧
      (∀ e, c.store.isCurrent e = false → c.step (.refreshFirstPage e) = (.firstPage .stale, c)) ∧
      ∀ item ∈ c.store.items, ∃ r ∈ c.sent, (r, item) ∈ c.returned ∧
        r.sentUnder = c.store.epoch ∧ r.project = c.store.project := by
  refine ⟨fun p member stale pages => ?_, fun _ stale => refreshFirstPage_stale stale,
    fun _ member => reachable.logged.held_returned member⟩
  simp only [FeedSystem.step, member, ↓reduceIte]
  exact finish_stale { c with calls := c.calls.erase p } stale pages

/-- Switching from a project to another and back while a refresh of the first is in flight: its
answer, whatever it holds, leaves the feed as it was. -/
theorem switch_back_answer_ignored :
    let c := (({} : FeedSystem).run
      [.setProject "a", .refreshFirstPage ⟨1, "a"⟩, .setProject "b", .setProject "a"])
    c.Reachable ∧ ∀ pages,
      FeedStore.SameFeed c.store (c.step (.answer ⟨.firstPage ⟨1, "a"⟩, ⟨1, "a"⟩⟩ pages)).2.store := by
  intro c
  have reachable : c.Reachable := Reachable.initial.run _
  refine ⟨reachable, fun pages => ?_⟩
  exact ((stale_answers_change_nothing reachable).1 _ (by decide) (by decide) pages).1

/-! ### The next-page claim -/

theorem Claimed.loadingMore_iff {c : FeedSystem} (claimed : c.Claimed) :
    c.store.loadingMore = true ↔ c.calls.countP (·.call.isNextPage) = 1 := by
  unfold Claimed at claimed
  rw [claimed]
  cases c.store.loadingMore <;> simp

theorem Claimed.count_le_one {c : FeedSystem} (claimed : c.Claimed) :
    c.calls.countP (·.call.isNextPage) ≤ 1 := by
  unfold Claimed at claimed
  rw [claimed]
  split <;> omega

/-- A load that finds the load claimed, or nothing more to load, is skipped and changes nothing. -/
theorem loadNextPage_skipped {c : FeedSystem}
    (busy : c.store.loadingMore = true ∨ c.store.hasMore = false) :
    c.step .loadNextPage = (.nextPage .skipped, c) := by
  rcases FeedStore.claimNext_cases c.store with ⟨claimed, -⟩ | ⟨free, more, -⟩
  · simp only [FeedSystem.step, claimed]
  · rcases busy with loading | exhausted
    · simp [free] at loading
    · simp [more] at exhausted

/-- The answer to a waiting next-page load releases the load, whatever it holds. -/
theorem answer_releases {c : FeedSystem} {p : Pending} (member : p ∈ c.calls)
    (next : p.call.isNextPage = true) (pages : Except String (Page × Page)) :
    (c.step (.answer p pages)).2.store.loadingMore = false := by
  simp only [FeedSystem.step, member, ↓reduceIte]
  simp [finish_loadingMore, next]

/-- Dropping a waiting next-page load releases the load. -/
theorem drop_releases {c : FeedSystem} {p : Pending} (member : p ∈ c.calls)
    (next : p.call.isNextPage = true) : (c.step (.drop p)).2.store.loadingMore = false := by
  simp only [FeedSystem.step, member, ↓reduceIte]
  obtain ⟨call, sentUnder⟩ := p
  cases call with
  | firstPage e => simp [Call.isNextPage] at next
  | nextPage f => rfl

/-- In every reachable state the next-page load is claimed exactly when one next-page load
waits, so at most one waits; a load that finds it claimed or nothing more to load is skipped,
sends no request and changes nothing; and the answer to a waiting next-page load, applied,
stale or failed, or its drop, releases the load. -/
theorem next_page_load_claimed_once {c : FeedSystem} (reachable : c.Reachable) :
    (c.store.loadingMore = true ↔ c.calls.countP (·.call.isNextPage) = 1) ∧
      c.calls.countP (·.call.isNextPage) ≤ 1 ∧
      (c.store.loadingMore = true ∨ c.store.hasMore = false →
        c.step .loadNextPage = (.nextPage .skipped, c)) ∧
      ∀ p ∈ c.calls, p.call.isNextPage = true →
        (∀ pages, (c.step (.answer p pages)).2.store.loadingMore = false) ∧
          (c.step (.drop p)).2.store.loadingMore = false := by
  have claimed := reachable.claimed
  exact ⟨claimed.loadingMore_iff, claimed.count_le_one, loadNextPage_skipped,
    fun _ member next => ⟨answer_releases member next, drop_releases member next⟩⟩

/-- Two next-page loads in a row on a new project: the second is skipped. -/
theorem second_load_skipped :
    let c := (({} : FeedSystem).run [.setProject "a", .loadNextPage])
    c.Reachable ∧ c.step .loadNextPage = (.nextPage .skipped, c) := by
  intro c
  have reachable : c.Reachable := Reachable.initial.run _
  exact ⟨reachable, (next_page_load_claimed_once reachable).2.2.1 (.inl (by decide))⟩

/-! ### Low-signal observations -/

/-- In every reachable state, a held low-signal item was returned by a request for summaries:
only observations pages are filtered. -/
theorem lowSignal_held_from_summaries {c : FeedSystem} (reachable : c.Reachable) :
    ∀ item ∈ c.store.items, item.isLowSignal = true →
      ∃ r ∈ c.sent, (r, item) ∈ c.returned ∧ r.collection = .summaries := by
  intro item member low
  have logged := reachable.logged
  obtain ⟨r, returned, collection⟩ := logged.sourced.lowSignal item member low
  exact ⟨r, logged.returnedSent r item returned, returned, collection⟩

/-- The first page of a project whose summaries page holds one observation row with no title
and no body: the low-signal item held came from the summaries page. -/
theorem blank_observation_summarised :
    let c := (({} : FeedSystem).run
      [.setProject "p", .refreshFirstPage ⟨1, "p"⟩,
        .answer ⟨.firstPage ⟨1, "p"⟩, ⟨1, "p"⟩⟩
          (.ok ({}, { items := [.observation { core := { kind := "discovery" } }] }))])
    c.Reachable ∧ ∀ item ∈ c.store.items, item.isLowSignal = true →
      ∃ r ∈ c.sent, (r, item) ∈ c.returned ∧ r.collection = .summaries := by
  intro c
  have reachable : c.Reachable := Reachable.initial.run _
  exact ⟨reachable, lowSignal_held_from_summaries reachable⟩

/-- A summaries page may carry an observation row, and nothing filters it: a reachable feed
holds a low-signal observation. -/
theorem lowSignal_observation_held :
    ∃ c : FeedSystem, c.Reachable ∧ ∃ item ∈ c.store.items, item.isLowSignal = true := by
  let blank : FeedItem := .observation { core := { kind := "discovery" } }
  let first : Pending := ⟨.firstPage ⟨1, "p"⟩, ⟨1, "p"⟩⟩
  refine ⟨({} : FeedSystem).run
      [.setProject "p", .refreshFirstPage ⟨1, "p"⟩, .answer first (.ok ({}, { items := [blank] }))],
    Reachable.initial.run _, blank, ?_, by decide⟩
  -- the answer completes the refresh of the current epoch, whose summaries page is taken whole
  show blank ∈ (FeedStore.applyFirstPage { generation := 1, project := "p" } {}
    { items := [blank] }).2.items
  have batch : batchOf {} { items := [blank] } = [blank] := rfl
  rw [FeedStore.applyFirstPage_items, batch]
  exact mem_refreshMerge_of_mem (List.mem_singleton_self _) (List.nodup_singleton _)

end FeedSystem

end MemoryDashboard.Feed
