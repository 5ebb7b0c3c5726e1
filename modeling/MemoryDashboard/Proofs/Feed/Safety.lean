import MemoryDashboard.Proofs.Feed.Interleaving

/-! # What every interleaving of the feed store's calls keeps

One invariant holds in every reachable state of the feed store and its waiting calls:

* the store is coherent (`FeedStore.Coherent`);
* the next-page load is claimed exactly while one next-page load waits, so at most one waits;
* every waiting call sent its requests under its own epoch, and they are logged;
* every held item was returned by a request sent under the store's current epoch, and every
  held low-signal item by a request for summaries.

Each part holds initially and every step keeps it (`coherent_step`, `Claimed.step`,
`Logged.step`), so it holds in every reachable state (`Reachable.coherent`, `Reachable.claimed`,
`Reachable.logged`).
-/

namespace MemoryDashboard.Feed

theorem mem_returnedFor {request : Option PageRequest} {page : Page} {r : PageRequest}
    {item : FeedItem} : (r, item) ∈ returnedFor request page ↔ request = some r ∧ item ∈ page.items := by
  cases request with
  | none => simp [returnedFor]
  | some asked =>
      simp only [returnedFor, List.mem_map, Prod.mk.injEq, Option.some.injEq]
      constructor
      · rintro ⟨i, member, rfl, rfl⟩
        exact ⟨rfl, member⟩
      · rintro ⟨rfl, member⟩
        exact ⟨item, member, rfl, rfl⟩

/-- An exhausted page holds no items. -/
theorem Call.mem_pageOf {c : Cursor} {page : Page} {item : FeedItem}
    (member : item ∈ (Call.pageOf c page).items) : c.hasMore = true ∧ item ∈ page.items := by
  unfold Call.pageOf at member
  split at member
  · rename_i more
    exact ⟨more, member⟩
  · simp [Page.exhausted] at member

namespace Pending

/-- A request a call sent asks its collection, for the project of the call's epoch, and
carries the epoch it was sent under. -/
theorem request_eq_some {p : Pending} {collection : Collection} {r : PageRequest}
    (asked : p.request collection = some r) :
    r.collection = collection ∧ r.project = p.call.epoch.project ∧ r.sentUnder = p.sentUnder := by
  obtain ⟨⟨limit, offset⟩, _, rfl⟩ := Option.map_eq_some_iff.mp asked
  exact ⟨rfl, rfl, rfl⟩

theorem mem_requests {p : Pending} {r : PageRequest} :
    r ∈ p.requests ↔ ∃ collection, p.request collection = some r := by
  simp only [requests, List.mem_append, Option.mem_toList]
  constructor
  · rintro (asked | asked)
    · exact ⟨.observations, asked⟩
    · exact ⟨.summaries, asked⟩
  · rintro ⟨collection, asked⟩
    cases collection with
    | observations => exact .inl asked
    | summaries => exact .inr asked

/-- Every returned item answers one of the call's requests. -/
theorem request_of_mem_returns {p : Pending} {fetched : Except String (Page × Page)}
    {r : PageRequest} {item : FeedItem} (member : (r, item) ∈ p.returns fetched) :
    r ∈ p.requests := by
  rcases fetched with message | ⟨observations, summaries⟩
  · simp [returns] at member
  · rcases List.mem_append.mp member with fromObservations | fromSummaries
    · exact mem_requests.mpr ⟨.observations, (mem_returnedFor.mp fromObservations).1⟩
    · exact mem_requests.mpr ⟨.summaries, (mem_returnedFor.mp fromSummaries).1⟩

/-- A collection whose fetched page holds an item was asked. -/
theorem asked_of_fetched {p : Pending} {pages : Except String (Page × Page)}
    {observations summaries : Page}
    (fetched : p.call.fetched pages = .ok (observations, summaries)) :
    (∀ item ∈ observations.items, ∃ r, p.request .observations = some r) ∧
      (∀ item ∈ summaries.items, ∃ r, p.request .summaries = some r) := by
  obtain ⟨call, sentUnder⟩ := p
  cases call with
  | firstPage e =>
      exact ⟨fun _ _ => ⟨_, rfl⟩, fun _ _ => ⟨_, rfl⟩⟩
  | nextPage f =>
      rcases pages with message | ⟨asked, askedSummaries⟩
      · cases fetched
      · simp only [Call.fetched, Except.map, Except.ok.injEq, Prod.mk.injEq] at fetched
        obtain ⟨rfl, rfl⟩ := fetched
        refine ⟨fun item member => ?_, fun item member => ?_⟩
        · have more := (Call.mem_pageOf member).1
          exact Option.isSome_iff_exists.mp (by simp [request, Call.asks, more])
        · have more := (Call.mem_pageOf member).1
          exact Option.isSome_iff_exists.mp (by simp [request, Call.asks, more])

/-- Every item of the batch a call's pages bring was returned by one of its requests, and a
low-signal one by its summaries request. -/
theorem batch_returned {p : Pending} {pages : Except String (Page × Page)}
    {observations summaries : Page}
    (fetched : p.call.fetched pages = .ok (observations, summaries)) {item : FeedItem}
    (member : item ∈ batchOf observations summaries) :
    (∃ r, (r, item) ∈ p.returns (.ok (observations, summaries)) ∧ r.sentUnder = p.sentUnder) ∧
      (item.isLowSignal = true →
        ∃ r, (r, item) ∈ p.returns (.ok (observations, summaries)) ∧ r.collection = .summaries) := by
  obtain ⟨askedObservations, askedSummaries⟩ := asked_of_fetched fetched
  have fromSummaries : item ∈ summaries.items →
      ∃ r, (r, item) ∈ p.returns (.ok (observations, summaries)) ∧ r.sentUnder = p.sentUnder ∧
        r.collection = .summaries := by
    intro inSummaries
    obtain ⟨r, asked⟩ := askedSummaries item inSummaries
    obtain ⟨collection, -, sentUnder⟩ := request_eq_some asked
    refine ⟨r, List.mem_append_right _ (mem_returnedFor.mpr ⟨asked, inSummaries⟩), sentUnder,
      collection⟩
  refine ⟨?_, fun low => ?_⟩
  · rcases List.mem_append.mp member with inSummaries | kept
    · obtain ⟨r, returned, sentUnder, -⟩ := fromSummaries inSummaries
      exact ⟨r, returned, sentUnder⟩
    · have inObservations : item ∈ observations.items := (List.mem_filter.mp kept).1
      obtain ⟨r, asked⟩ := askedObservations item inObservations
      refine ⟨r, List.mem_append_left _ (mem_returnedFor.mpr ⟨asked, inObservations⟩), ?_⟩
      exact (request_eq_some asked).2.2
  · obtain ⟨r, returned, -, collection⟩ := fromSummaries (lowSignal_mem_batchOf member low)
    exact ⟨r, returned, collection⟩

end Pending

/-- Where the held items came from: each was returned by a request sent under the store's
current epoch, and each low-signal one by a request for summaries. -/
structure Sourced (s : FeedStore) (returned : List (PageRequest × FeedItem)) : Prop where
  current : ∀ item ∈ s.items, ∃ r, (r, item) ∈ returned ∧ r.sentUnder = s.epoch
  lowSignal : ∀ item ∈ s.items, item.isLowSignal = true →
    ∃ r, (r, item) ∈ returned ∧ r.collection = .summaries

namespace Sourced

theorem of_nil {s : FeedStore} (empty : s.items = []) (returned : List (PageRequest × FeedItem)) :
    Sourced s returned where
  current := by simp [empty]
  lowSignal := by simp [empty]

/-- Items kept under the same epoch stay sourced, whatever else is returned meanwhile. -/
theorem keep {s s' : FeedStore} {returned : List (PageRequest × FeedItem)}
    (sourced : Sourced s returned) (items : ∀ item ∈ s'.items, item ∈ s.items)
    (epoch : s'.epoch = s.epoch) (more : List (PageRequest × FeedItem)) :
    Sourced s' (returned ++ more) where
  current item member := by
    obtain ⟨r, returnedItem, sentUnder⟩ := sourced.current item (items item member)
    exact ⟨r, List.mem_append_left _ returnedItem, sentUnder.trans epoch.symm⟩
  lowSignal item member low := by
    obtain ⟨r, returnedItem, collection⟩ := sourced.lowSignal item (items item member) low
    exact ⟨r, List.mem_append_left _ returnedItem, collection⟩

/-- Held items stay sourced, whatever else is returned meanwhile. -/
theorem append {s : FeedStore} {returned : List (PageRequest × FeedItem)}
    (sourced : Sourced s returned) (more : List (PageRequest × FeedItem)) :
    Sourced s (returned ++ more) :=
  sourced.keep (fun _ member => member) rfl more

/-- Releasing the next-page load keeps every item sourced. -/
theorem releaseLoad {s : FeedStore} {returned : List (PageRequest × FeedItem)}
    (sourced : Sourced s returned) (more : List (PageRequest × FeedItem)) :
    Sourced s.releaseLoad (returned ++ more) := by
  apply sourced.keep
  · exact fun _ member => member
  · rfl

/-- Taking in the batch of a call sent under the current epoch keeps every item sourced. -/
theorem take {s s' : FeedStore} {returned : List (PageRequest × FeedItem)} {p : Pending}
    {pages : Except String (Page × Page)} {observations summaries : Page}
    (sourced : Sourced s returned)
    (fetched : p.call.fetched pages = .ok (observations, summaries))
    (items : ∀ item ∈ s'.items, item ∈ s.items ∨ item ∈ batchOf observations summaries)
    (epoch : s'.epoch = s.epoch) (sentUnder : p.sentUnder = s.epoch) :
    Sourced s' (returned ++ p.returns (.ok (observations, summaries))) where
  current item member := by
    rcases items item member with held | brought
    · exact (sourced.append _).current item held |>.imp
        fun r ⟨returnedItem, sentUnder⟩ => ⟨returnedItem, sentUnder.trans epoch.symm⟩
    · obtain ⟨r, returnedItem, requestUnder⟩ := (Pending.batch_returned fetched brought).1
      exact ⟨r, List.mem_append_right _ returnedItem,
        requestUnder.trans (sentUnder.trans epoch.symm)⟩
  lowSignal item member low := by
    rcases items item member with held | brought
    · exact (sourced.append _).lowSignal item held low
    · obtain ⟨r, returnedItem, collection⟩ := (Pending.batch_returned fetched brought).2 low
      exact ⟨r, List.mem_append_right _ returnedItem, collection⟩

end Sourced

/-! ### The next-page claim -/

/-- Removing a member from a list removes its count once. -/
private theorem countP_eq_erase {l : List Pending} {p : Pending} (member : p ∈ l)
    (f : Pending → Bool) : l.countP f = (l.erase p).countP f + if f p then 1 else 0 := by
  rw [(List.perm_cons_erase member).countP_eq, List.countP_cons]

namespace FeedSystem

/-- The next-page load is claimed exactly while one next-page load waits. -/
def Claimed (c : FeedSystem) : Prop :=
  c.calls.countP (·.call.isNextPage) = if c.store.loadingMore then 1 else 0

theorem finish_loadingMore (c : FeedSystem) (p : Pending) (pages : Except String (Page × Page)) :
    (c.finish p pages).2.store.loadingMore =
      if p.call.isNextPage then false else c.store.loadingMore := by
  obtain ⟨call, sentUnder⟩ := p
  cases call with
  | firstPage e =>
      rcases pages with message | ⟨observations, summaries⟩
      · rw [finish_firstPage_error]
        rfl
      · rw [finish_firstPage_ok]
        exact FeedStore.completeFirst_loadingMore _ _ _ _
  | nextPage f =>
      rw [finish_nextPage]
      exact FeedStore.completeNext_loadingMore _ _ _

/-- Ending or dropping a waiting call: a next-page load was the one claim, and releases it. -/
private theorem claimed_erase {c : FeedSystem} (claimed : c.Claimed) {p : Pending}
    (member : p ∈ c.calls) {s : FeedStore}
    (loading : s.loadingMore = if p.call.isNextPage then false else c.store.loadingMore) :
    (c.calls.erase p).countP (·.call.isNextPage) = if s.loadingMore then 1 else 0 := by
  have counted := countP_eq_erase member (·.call.isNextPage)
  unfold Claimed at claimed
  rw [loading]
  cases next : p.call.isNextPage
  · simp only [next, Bool.false_eq_true, ↓reduceIte, Nat.add_zero] at counted ⊢
    rw [← counted, claimed]
  · simp only [next, ↓reduceIte, Bool.false_eq_true] at counted ⊢
    cases loadingMore : c.store.loadingMore
    · simp only [loadingMore, Bool.false_eq_true, ↓reduceIte] at claimed
      omega
    · simp only [loadingMore, ↓reduceIte] at claimed
      omega

theorem claimed_initial : ({} : FeedSystem).Claimed := rfl

/-- Every step keeps the claim matched to the waiting next-page load. -/
theorem Claimed.step {c : FeedSystem} (claimed : c.Claimed) (event : FeedEvent) :
    (c.step event).2.Claimed := by
  unfold Claimed at claimed ⊢
  cases event with
  | setProject project =>
      simp only [FeedSystem.step, FeedStore.withProject_loadingMore]
      exact claimed
  | refreshFirstPage e =>
      by_cases current : c.store.isCurrent e = true
      · simp only [FeedSystem.step, current, ↓reduceIte, start_calls, start_store, List.countP_append]
        simpa [Call.isNextPage] using claimed
      · simpa only [FeedSystem.step, current, Bool.false_eq_true, ↓reduceIte] using claimed
  | loadNextPage =>
      rcases FeedStore.claimNext_cases c.store with ⟨claimedNone, -⟩ | ⟨free, -, claimedSome⟩
      · simpa only [FeedSystem.step, claimedNone] using claimed
      · simp only [FeedSystem.step, claimedSome, start_calls, start_store, List.countP_append]
        simp only [free, Bool.false_eq_true, ↓reduceIte] at claimed
        rw [claimed]
        rfl
  | answer p pages =>
      by_cases member : p ∈ c.calls
      · simp only [FeedSystem.step, member, ↓reduceIte, finish_calls]
        exact claimed_erase claimed member (finish_loadingMore _ p pages)
      · simpa only [FeedSystem.step, member, ↓reduceIte] using claimed
  | drop p =>
      by_cases member : p ∈ c.calls
      · simp only [FeedSystem.step, member, ↓reduceIte]
        refine claimed_erase claimed member ?_
        obtain ⟨call, sentUnder⟩ := p
        cases call with
        | firstPage e => rfl
        | nextPage f => rfl
      · simpa only [FeedSystem.step, member, ↓reduceIte] using claimed
  | acknowledge keys =>
      simp only [FeedSystem.step, FeedStore.acknowledge_loadingMore]
      exact claimed
  | takeNewKeys => exact claimed

/-! ### Requests and returned items -/

/-- Every waiting call sent its requests under its own epoch, every request logged asks the
project of the epoch it was sent under, and the store's items are sourced. -/
structure Logged (c : FeedSystem) : Prop where
  waitingEpoch : ∀ p ∈ c.calls, p.sentUnder = p.call.epoch
  waitingSent : ∀ p ∈ c.calls, ∀ r ∈ p.requests, r ∈ c.sent
  returnedSent : ∀ r item, (r, item) ∈ c.returned → r ∈ c.sent
  sentProject : ∀ r ∈ c.sent, r.project = r.sentUnder.project
  sourced : Sourced c.store c.returned

theorem logged_initial : ({} : FeedSystem).Logged where
  waitingEpoch := by simp
  waitingSent := by simp
  returnedSent := by simp
  sentProject := by simp
  sourced := Sourced.of_nil rfl []

/-- Changing only the store, keeping its items and epoch, keeps the log sound. -/
theorem Logged.withStore {c : FeedSystem} (logged : c.Logged) {s : FeedStore}
    (items : s.items = c.store.items) (epoch : s.epoch = c.store.epoch) :
    { c with store := s }.Logged where
  waitingEpoch := logged.waitingEpoch
  waitingSent := logged.waitingSent
  returnedSent := logged.returnedSent
  sentProject := logged.sentProject
  sourced := by
    simpa using logged.sourced.keep (fun item member => items ▸ member) epoch []

/-- A call that starts under the current epoch sends requests that ask its project. -/
theorem Logged.start {c : FeedSystem} (logged : c.Logged) {call : Call}
    (epoch : call.epoch = c.store.epoch) : (c.start call).Logged where
  waitingEpoch p member := by
    rcases List.mem_append.mp member with waiting | started
    · exact logged.waitingEpoch p waiting
    · rw [List.mem_singleton.mp started]
      exact epoch.symm
  waitingSent p member r asked := by
    rcases List.mem_append.mp member with waiting | started
    · exact List.mem_append_left _ (logged.waitingSent p waiting r asked)
    · rw [List.mem_singleton.mp started] at asked
      exact List.mem_append_right _ asked
  returnedSent r item returned := List.mem_append_left _ (logged.returnedSent r item returned)
  sentProject r member := by
    rcases List.mem_append.mp member with logged' | sent
    · exact logged.sentProject r logged'
    · obtain ⟨collection, asked⟩ := Pending.mem_requests.mp sent
      obtain ⟨-, project, sentUnder⟩ := Pending.request_eq_some asked
      rw [project, sentUnder]
      exact congrArg Epoch.project epoch
  sourced := by
    simpa using logged.sourced

/-- Removing a waiting call keeps the log sound. -/
theorem Logged.erase {c : FeedSystem} (logged : c.Logged) (p : Pending) :
    { c with calls := c.calls.erase p }.Logged where
  waitingEpoch q member := logged.waitingEpoch q (List.mem_of_mem_erase member)
  waitingSent q member := logged.waitingSent q (List.mem_of_mem_erase member)
  returnedSent := logged.returnedSent
  sentProject := logged.sentProject
  sourced := logged.sourced

/-- Ending a waiting call keeps the log sound: its items answer its own requests, sent under
its epoch, and it takes them in only while that epoch is current. -/
theorem Logged.finish {c : FeedSystem} (logged : c.Logged) {p : Pending}
    (sentUnder : p.sentUnder = p.call.epoch) (sent : ∀ r ∈ p.requests, r ∈ c.sent)
    (pages : Except String (Page × Page)) : (c.finish p pages).2.Logged := by
  have returnedSent : ∀ r item, (r, item) ∈ c.returned ++ p.returns (p.call.fetched pages) →
      r ∈ c.sent := by
    intro r item member
    rcases List.mem_append.mp member with old | new
    · exact logged.returnedSent r item old
    · exact sent r (Pending.request_of_mem_returns new)
  refine
    { waitingEpoch := by rw [finish_calls]; exact logged.waitingEpoch
      waitingSent := by rw [finish_calls, finish_sent]; exact logged.waitingSent
      returnedSent := by rw [finish_sent, finish_returned]; exact returnedSent
      sentProject := by rw [finish_sent]; exact logged.sentProject
      sourced := ?_ }
  obtain ⟨call, under⟩ := p
  cases call with
  | firstPage e =>
      rcases pages with message | ⟨observations, summaries⟩
      · rw [finish_firstPage_error]
        exact logged.sourced
      · rw [finish_firstPage_ok]
        cases current : c.store.isCurrent e
        · rw [FeedStore.completeFirst_stale current]
          exact logged.sourced.append _
        · rw [FeedStore.completeFirst_current current]
          exact logged.sourced.take rfl (fun item => FeedStore.mem_applyFirstPage)
            (FeedStore.applyFirstPage_keeps _ _ _).epoch
            (sentUnder.trans (FeedStore.isCurrent_iff.mp current).symm)
  | nextPage f =>
      rw [finish_nextPage]
      rcases fetched : (Call.nextPage f).fetched pages with message | ⟨observations, summaries⟩
      · rw [FeedStore.completeNext_error]
        exact logged.sourced.releaseLoad _
      · cases current : c.store.isCurrent f.epoch
        · rw [FeedStore.completeNext_stale current]
          exact logged.sourced.releaseLoad _
        · rw [FeedStore.completeNext_current current]
          exact logged.sourced.take fetched (fun item => FeedStore.mem_applyNextPage)
            (FeedStore.applyNextPage_keeps _ _ _ _ _).epoch
            (sentUnder.trans (FeedStore.isCurrent_iff.mp current).symm)

/-- Every step keeps the log sound. -/
theorem Logged.step {c : FeedSystem} (logged : c.Logged) (event : FeedEvent) :
    (c.step event).2.Logged := by
  cases event with
  | setProject project =>
      by_cases same : c.store.project = project
      · simp only [FeedSystem.step, FeedStore.withProject_of_eq same]
        exact logged
      · simp only [FeedSystem.step, FeedStore.withProject_of_ne same]
        exact { logged with sourced := Sourced.of_nil rfl _ }
  | refreshFirstPage e =>
      by_cases current : c.store.isCurrent e = true
      · simp only [FeedSystem.step, current, ↓reduceIte]
        exact logged.start (FeedStore.isCurrent_iff.mp current).symm
      · simpa only [FeedSystem.step, current, Bool.false_eq_true, ↓reduceIte] using logged
  | loadNextPage =>
      rcases FeedStore.claimNext_cases c.store with ⟨claimedNone, -⟩ | ⟨-, -, claimedSome⟩
      · simpa only [FeedSystem.step, claimedNone] using logged
      · simp only [FeedSystem.step, claimedSome]
        apply Logged.start
        · exact logged.withStore rfl rfl
        · rfl
  | answer p pages =>
      by_cases member : p ∈ c.calls
      · simp only [FeedSystem.step, member, ↓reduceIte]
        exact (logged.erase p).finish (logged.waitingEpoch p member)
          (logged.waitingSent p member) pages
      · simpa only [FeedSystem.step, member, ↓reduceIte] using logged
  | drop p =>
      by_cases member : p ∈ c.calls
      · simp only [FeedSystem.step, member, ↓reduceIte]
        obtain ⟨call, sentUnder⟩ := p
        cases call with
        | firstPage e => exact (logged.erase _).withStore rfl rfl
        | nextPage f => exact (logged.erase _).withStore rfl rfl
      · simpa only [FeedSystem.step, member, ↓reduceIte] using logged
  | acknowledge keys =>
      obtain ⟨kept, eq, -⟩ := FeedStore.acknowledge_eq c.store keys
      simp only [FeedSystem.step, eq]
      exact logged.withStore rfl rfl
  | takeNewKeys => exact logged.withStore rfl rfl

/-! ### Reachable states -/

theorem Reachable.coherent {c : FeedSystem} (reachable : c.Reachable) : c.store.Coherent := by
  induction reachable with
  | initial => exact FeedStore.coherent_initial
  | step _ event ih => exact coherent_step ih event

theorem Reachable.claimed {c : FeedSystem} (reachable : c.Reachable) : c.Claimed := by
  induction reachable with
  | initial => exact claimed_initial
  | step _ event ih => exact ih.step event

theorem Reachable.logged {c : FeedSystem} (reachable : c.Reachable) : c.Logged := by
  induction reachable with
  | initial => exact logged_initial
  | step _ event ih => exact ih.step event

end FeedSystem

end MemoryDashboard.Feed
