import MemoryDashboard.Feed.Store
import MemoryDashboard.Proofs.Feed.Merge

/-! # The feed store's steps keep the feed coherent

A store is coherent when its items hold each key once, stand newest first, and its new keys
are ascending (a set, as the store keeps them) and held. Each step the store takes whole keeps
that, and each step other than a switch to another project keeps the epoch and loses no held
key. Taking in a merged list reports as new exactly the keys it added, and marks exactly those.
-/

namespace MemoryDashboard.Feed

theorem mem_unionKeys (held added : List String) (k : String) :
    k ∈ unionKeys held added ↔ k ∈ held ∨ k ∈ added := by
  induction added generalizing held with
  | nil => simp [unionKeys]
  | cons first rest ih =>
      rw [unionKeys, List.foldl_cons, ← unionKeys, ih, mem_insertSorted, List.mem_cons]
      tauto

theorem unionKeys_pairwise {held : List String} (sorted : held.Pairwise (· < ·))
    (added : List String) : (unionKeys held added).Pairwise (· < ·) := by
  induction added generalizing held with
  | nil => exact sorted
  | cons first rest ih => exact ih (insertSorted_pairwise sorted first)

/-- The items a pair of pages brings: the summaries, then the observations that are not
low-signal. -/
def batchOf (observations summaries : Page) : List FeedItem :=
  summaries.items ++ (splitLowSignal observations.items).1

/-- No low-signal item of a batch comes from the observations page. -/
theorem lowSignal_mem_batchOf {observations summaries : Page} {item : FeedItem}
    (member : item ∈ batchOf observations summaries) (low : item.isLowSignal = true) :
    item ∈ summaries.items := by
  rcases List.mem_append.mp member with fromSummaries | kept
  · exact fromSummaries
  · simp [splitLowSignal, low] at kept

namespace FeedStore

/-- The keys of the held items. -/
def heldKeys (s : FeedStore) : Finset String := (s.items.map FeedItem.key).toFinset

/-- The keys marked new. -/
def marked (s : FeedStore) : Finset String := s.newKeys.toFinset

theorem isCurrent_iff {s : FeedStore} {e : Epoch} : s.isCurrent e = true ↔ s.epoch = e := by
  obtain ⟨generation, project⟩ := e
  simp [isCurrent, epoch, Epoch.mk.injEq]

/-- **Coherence.** The items hold each key once and stand newest first; the new keys are
ascending and held. -/
structure Coherent (s : FeedStore) : Prop where
  keys_nodup : (s.items.map FeedItem.key).Nodup
  newestFirst : s.items.Pairwise NewestFirst
  newKeys_ascending : s.newKeys.Pairwise (· < ·)
  marked_held : s.marked ⊆ s.heldKeys

/-- Coherence reads only the items and the new keys. -/
theorem Coherent.congr {s s' : FeedStore} (coherent : s.Coherent) (items : s'.items = s.items)
    (newKeys : s'.newKeys = s.newKeys) : s'.Coherent where
  keys_nodup := items ▸ coherent.keys_nodup
  newestFirst := items ▸ coherent.newestFirst
  newKeys_ascending := newKeys ▸ coherent.newKeys_ascending
  marked_held := by
    simpa only [marked, heldKeys, items, newKeys] using coherent.marked_held

theorem coherent_initial : ({} : FeedStore).Coherent where
  keys_nodup := List.nodup_nil
  newestFirst := List.Pairwise.nil
  newKeys_ascending := List.Pairwise.nil
  marked_held := by simp [marked]

/-- A step that keeps the epoch and loses no held key. -/
structure Keeps (s s' : FeedStore) : Prop where
  generation : s'.generation = s.generation
  project : s'.project = s.project
  heldKeys : s.heldKeys ⊆ s'.heldKeys

theorem Keeps.refl (s : FeedStore) : Keeps s s := ⟨rfl, rfl, subset_rfl⟩

theorem Keeps.trans {s s' s'' : FeedStore} (first : Keeps s s') (second : Keeps s' s'') :
    Keeps s s'' :=
  ⟨second.generation.trans first.generation, second.project.trans first.project,
    first.heldKeys.trans second.heldKeys⟩

/-- A step that leaves the generation, the project and the items as they were keeps the epoch. -/
theorem Keeps.of_eq {s s' : FeedStore} (generation : s'.generation = s.generation)
    (project : s'.project = s.project) (items : s'.items = s.items) : Keeps s s' :=
  ⟨generation, project, by rw [FeedStore.heldKeys, FeedStore.heldKeys, items]⟩

theorem Keeps.epoch {s s' : FeedStore} (keeps : Keeps s s') : s'.epoch = s.epoch := by
  simp [FeedStore.epoch, keeps.generation, keeps.project]

theorem Keeps.isCurrent {s s' : FeedStore} (keeps : Keeps s s') (e : Epoch) :
    s'.isCurrent e = s.isCurrent e := by
  rw [Bool.eq_iff_iff, isCurrent_iff, isCurrent_iff, keeps.epoch]

/-- A store that kept its epoch still holds something if it held something. -/
theorem Keeps.items_ne_nil {s s' : FeedStore} (keeps : Keeps s s') (held : s.items ≠ []) :
    s'.items ≠ [] := by
  obtain ⟨item, member⟩ := List.exists_mem_of_ne_nil _ held
  have inHeld : item.key ∈ s'.heldKeys :=
    keeps.heldKeys (List.mem_toFinset.mpr (List.mem_map_of_mem member))
  intro empty
  rw [FeedStore.heldKeys, empty] at inHeld
  simp at inHeld

/-- Taking in a merged list reports `n` new keys: `n` is the number of held keys it added,
and it marks exactly those. -/
def Reports (s s' : FeedStore) (n : Nat) : Prop :=
  n = (s'.heldKeys \ s.heldKeys).card ∧ s'.marked = s.marked ∪ (s'.heldKeys \ s.heldKeys)

/-! ### Switching projects -/

theorem withProject_of_eq {s : FeedStore} {project : String} (same : s.project = project) :
    s.withProject project = (false, s) := by
  simp [withProject, same]

/-- A switch to another project starts a new generation with an empty feed and fresh
cursors; the next-page load stays as it was. -/
theorem withProject_of_ne {s : FeedStore} {project : String} (other : s.project ≠ project) :
    s.withProject project =
      (true,
        { s with
            project, generation := s.generation + 1, observations := {}, summaries := {},
            items := [], filteredCount := 0, newKeys := [] }) := by
  simp [withProject, other]

theorem Coherent.withProject {s : FeedStore} (coherent : s.Coherent) (project : String) :
    (s.withProject project).2.Coherent := by
  by_cases same : s.project = project
  · rw [withProject_of_eq same]
    exact coherent
  · rw [withProject_of_ne same]
    exact { keys_nodup := List.nodup_nil, newestFirst := List.Pairwise.nil,
            newKeys_ascending := List.Pairwise.nil, marked_held := by simp [marked] }

/-! ### Taking in a merged list -/

@[simp]
theorem replaceItems_items (s : FeedStore) (merged : List FeedItem) :
    (s.replaceItems merged).2.items = merged := rfl

theorem heldKeys_replaceItems (s : FeedStore) (merged : List FeedItem) :
    (s.replaceItems merged).2.heldKeys = (merged.map FeedItem.key).toFinset := rfl

/-- The marked keys after a merge: those marked before and the keys the merge added. -/
theorem marked_replaceItems (s : FeedStore) (merged : List FeedItem) :
    (s.replaceItems merged).2.marked =
      s.marked ∪ ((s.replaceItems merged).2.heldKeys \ s.heldKeys) := by
  ext k
  simp only [marked, replaceItems, heldKeys, List.mem_toFinset, Finset.mem_union,
    Finset.mem_sdiff, mem_unionKeys, mem_newKeys]

theorem replaceItems_reports (s : FeedStore) (merged : List FeedItem) :
    Reports s (s.replaceItems merged).2 (s.replaceItems merged).1 :=
  ⟨length_newKeys s.items merged, marked_replaceItems s merged⟩

theorem Coherent.replaceItems {s : FeedStore} (coherent : s.Coherent) {merged : List FeedItem}
    (distinct : (merged.map FeedItem.key).Nodup) (sorted : merged.Pairwise NewestFirst)
    (grows : s.heldKeys ⊆ (merged.map FeedItem.key).toFinset) :
    (s.replaceItems merged).2.Coherent where
  keys_nodup := distinct
  newestFirst := sorted
  newKeys_ascending := unionKeys_pairwise coherent.newKeys_ascending _
  marked_held := by
    rw [marked_replaceItems, heldKeys_replaceItems]
    exact Finset.union_subset (coherent.marked_held.trans grows) Finset.sdiff_subset

/-! ### Taking in pages -/

theorem applyFirstPage_items (s : FeedStore) (observations summaries : Page) :
    (s.applyFirstPage observations summaries).2.items =
      refreshMerge s.items (batchOf observations summaries) := rfl

theorem applyNextPage_items (s : FeedStore) (observationsFrom summariesFrom : Cursor)
    (observations summaries : Page) :
    (s.applyNextPage observationsFrom summariesFrom observations summaries).2.items =
      appendMerge s.items (batchOf observations summaries) := rfl

/-- Taking in first pages replaces the items, the new keys, the cursors and the count of
left-out observations, and nothing else. -/
theorem applyFirstPage_eq (s : FeedStore) (observations summaries : Page) :
    s.applyFirstPage observations summaries =
      ({ s with
          filteredCount := (splitLowSignal observations.items).2
          observations := Cursor.advance observations.pagination 0 observations.items.length
            observationPageSize
          summaries := Cursor.advance summaries.pagination 0 summaries.items.length
            summaryPageSize }).replaceItems
        (refreshMerge s.items (batchOf observations summaries)) := rfl

theorem applyNextPage_eq (s : FeedStore) (observationsFrom summariesFrom : Cursor)
    (observations summaries : Page) :
    s.applyNextPage observationsFrom summariesFrom observations summaries =
      ({ s with
          filteredCount := s.filteredCount + (splitLowSignal observations.items).2
          observations := Cursor.advance observations.pagination observationsFrom.offset
            observations.items.length observationPageSize
          summaries := Cursor.advance summaries.pagination summariesFrom.offset
            summaries.items.length summaryPageSize }).replaceItems
        (appendMerge s.items (batchOf observations summaries)) := rfl

theorem applyFirstPage_keeps (s : FeedStore) (observations summaries : Page) :
    Keeps s (s.applyFirstPage observations summaries).2 where
  generation := rfl
  project := rfl
  heldKeys := by
    intro k member
    rw [heldKeys, applyFirstPage_items, List.mem_toFinset, mem_keys_refreshMerge]
    exact .inl (List.mem_toFinset.mp member)

theorem applyNextPage_keeps (s : FeedStore) (observationsFrom summariesFrom : Cursor)
    (observations summaries : Page) :
    Keeps s (s.applyNextPage observationsFrom summariesFrom observations summaries).2 where
  generation := rfl
  project := rfl
  heldKeys := by
    intro k member
    rw [heldKeys, applyNextPage_items, List.mem_toFinset, mem_keys_appendMerge]
    exact .inl (List.mem_toFinset.mp member)

theorem Coherent.applyFirstPage {s : FeedStore} (coherent : s.Coherent)
    (observations summaries : Page) : (s.applyFirstPage observations summaries).2.Coherent := by
  rw [applyFirstPage_eq]
  refine Coherent.replaceItems ?_ (refreshMerge_keys_nodup _ _) (refreshMerge_pairwise _ _) ?_
  · exact coherent.congr rfl rfl
  · exact (applyFirstPage_keeps s observations summaries).heldKeys

theorem Coherent.applyNextPage {s : FeedStore} (coherent : s.Coherent)
    (observationsFrom summariesFrom : Cursor) (observations summaries : Page) :
    (s.applyNextPage observationsFrom summariesFrom observations summaries).2.Coherent := by
  rw [applyNextPage_eq]
  refine Coherent.replaceItems ?_ (appendMerge_keys_nodup _ _) (appendMerge_pairwise _ _) ?_
  · exact coherent.congr rfl rfl
  · exact (applyNextPage_keeps s observationsFrom summariesFrom observations summaries).heldKeys

theorem applyFirstPage_reports (s : FeedStore) (observations summaries : Page) :
    Reports s (s.applyFirstPage observations summaries).2
      (s.applyFirstPage observations summaries).1 := by
  rw [applyFirstPage_eq]
  exact replaceItems_reports _ _

theorem applyNextPage_reports (s : FeedStore) (observationsFrom summariesFrom : Cursor)
    (observations summaries : Page) :
    Reports s (s.applyNextPage observationsFrom summariesFrom observations summaries).2
      (s.applyNextPage observationsFrom summariesFrom observations summaries).1 := by
  rw [applyNextPage_eq]
  exact replaceItems_reports _ _

/-- Every item held after taking in first pages was held before or came in the batch. -/
theorem mem_applyFirstPage {s : FeedStore} {observations summaries : Page} {item : FeedItem}
    (member : item ∈ (s.applyFirstPage observations summaries).2.items) :
    item ∈ s.items ∨ item ∈ batchOf observations summaries :=
  mem_refreshMerge member

theorem mem_applyNextPage {s : FeedStore} {observationsFrom summariesFrom : Cursor}
    {observations summaries : Page} {item : FeedItem}
    (member : item ∈ (s.applyNextPage observationsFrom summariesFrom observations summaries).2.items) :
    item ∈ s.items ∨ item ∈ batchOf observations summaries :=
  mem_appendMerge member

/-! ### The next-page load and the end of a load -/

/-- The claim either leaves the store as it is, because a load runs or no collection has more,
or marks the load running and captures the epoch and both cursors. -/
theorem claimNext_cases (s : FeedStore) :
    (s.claimNext = (none, s) ∧ (s.loadingMore = true ∨ s.hasMore = false)) ∨
      (s.loadingMore = false ∧ s.hasMore = true ∧
        s.claimNext =
          (some ⟨s.epoch, s.observations, s.summaries⟩, { s with loadingMore := true })) := by
  unfold claimNext
  cases loading : s.loadingMore <;> cases more : s.hasMore <;> simp

theorem releaseLoad_keeps (s : FeedStore) : Keeps s s.releaseLoad := .of_eq rfl rfl rfl

theorem Coherent.releaseLoad {s : FeedStore} (coherent : s.Coherent) : s.releaseLoad.Coherent :=
  coherent.congr rfl rfl

@[simp]
theorem releaseLoad_isCurrent (s : FeedStore) (e : Epoch) :
    s.releaseLoad.isCurrent e = s.isCurrent e := rfl

theorem completeNext_error (s : FeedStore) (f : NextFetch) (message : String) :
    s.completeNext f (.error message) = (.failed, s.releaseLoad) := rfl

/-- Pages that arrive for an epoch no longer current are dropped: only the load is released. -/
theorem completeNext_stale {s : FeedStore} {f : NextFetch} (stale : s.isCurrent f.epoch = false)
    (observations summaries : Page) :
    s.completeNext f (.ok (observations, summaries)) = (.stale, s.releaseLoad) := by
  simp [completeNext, stale]

theorem completeNext_current {s : FeedStore} {f : NextFetch} (current : s.isCurrent f.epoch = true)
    (observations summaries : Page) :
    s.completeNext f (.ok (observations, summaries)) =
      (.applied (s.releaseLoad.applyNextPage f.observations f.summaries observations summaries).1,
        (s.releaseLoad.applyNextPage f.observations f.summaries observations summaries).2) := by
  simp [completeNext, current]

/-- Ending a next-page load always releases it. -/
theorem completeNext_loadingMore (s : FeedStore) (f : NextFetch)
    (fetched : Except String (Page × Page)) : (s.completeNext f fetched).2.loadingMore = false := by
  rcases fetched with message | ⟨observations, summaries⟩
  · rfl
  · cases current : s.isCurrent f.epoch
    · rw [completeNext_stale current]
      rfl
    · rw [completeNext_current current]
      rfl

theorem completeNext_keeps (s : FeedStore) (f : NextFetch) (fetched : Except String (Page × Page)) :
    Keeps s (s.completeNext f fetched).2 := by
  rcases fetched with message | ⟨observations, summaries⟩
  · exact releaseLoad_keeps s
  · cases current : s.isCurrent f.epoch
    · rw [completeNext_stale current]
      exact releaseLoad_keeps s
    · rw [completeNext_current current]
      exact (releaseLoad_keeps s).trans (applyNextPage_keeps _ _ _ _ _)

theorem Coherent.completeNext {s : FeedStore} (coherent : s.Coherent) (f : NextFetch)
    (fetched : Except String (Page × Page)) : (s.completeNext f fetched).2.Coherent := by
  rcases fetched with message | ⟨observations, summaries⟩
  · exact coherent.releaseLoad
  · cases current : s.isCurrent f.epoch
    · rw [completeNext_stale current]
      exact coherent.releaseLoad
    · rw [completeNext_current current]
      exact coherent.releaseLoad.applyNextPage _ _ _ _

theorem completeFirst_stale {s : FeedStore} {e : Epoch} (stale : s.isCurrent e = false)
    (observations summaries : Page) : s.completeFirst e observations summaries = (.stale, s) := by
  simp [completeFirst, stale]

theorem completeFirst_current {s : FeedStore} {e : Epoch} (current : s.isCurrent e = true)
    (observations summaries : Page) :
    s.completeFirst e observations summaries =
      (.applied (s.applyFirstPage observations summaries).1,
        (s.applyFirstPage observations summaries).2) := by
  simp [completeFirst, current]

theorem completeFirst_keeps (s : FeedStore) (e : Epoch) (observations summaries : Page) :
    Keeps s (s.completeFirst e observations summaries).2 := by
  cases current : s.isCurrent e
  · rw [completeFirst_stale current]
    exact Keeps.refl s
  · rw [completeFirst_current current]
    exact applyFirstPage_keeps _ _ _

theorem Coherent.completeFirst {s : FeedStore} (coherent : s.Coherent) (e : Epoch)
    (observations summaries : Page) : (s.completeFirst e observations summaries).2.Coherent := by
  cases current : s.isCurrent e
  · rw [completeFirst_stale current]
    exact coherent
  · rw [completeFirst_current current]
    exact coherent.applyFirstPage _ _

/-! ### Acknowledging and taking keys -/

/-- Acknowledging keys only drops some of the new keys. -/
theorem acknowledge_eq (s : FeedStore) (keys : List String) :
    ∃ kept : List String,
      (s.acknowledge keys).2 = { s with newKeys := kept } ∧ kept.Sublist s.newKeys := by
  unfold acknowledge
  apply List.foldlRecOn (motive := fun acc : Nat × FeedStore =>
    ∃ kept : List String, acc.2 = { s with newKeys := kept } ∧ kept.Sublist s.newKeys)
  · exact ⟨s.newKeys, rfl, List.Sublist.refl _⟩
  · rintro ⟨count, t⟩ ⟨kept, rfl, sublist⟩ k _
    by_cases marked : k ∈ kept
    · exact ⟨kept.erase k, by simp [marked], (List.erase_sublist).trans sublist⟩
    · exact ⟨kept, by simp [marked], sublist⟩

theorem acknowledge_keeps (s : FeedStore) (keys : List String) :
    Keeps s (s.acknowledge keys).2 := by
  obtain ⟨kept, eq, -⟩ := acknowledge_eq s keys
  rw [eq]
  exact .of_eq rfl rfl rfl

theorem Coherent.acknowledge {s : FeedStore} (coherent : s.Coherent) (keys : List String) :
    (s.acknowledge keys).2.Coherent := by
  obtain ⟨kept, eq, sublist⟩ := acknowledge_eq s keys
  rw [eq]
  exact {
    keys_nodup := coherent.keys_nodup
    newestFirst := coherent.newestFirst
    newKeys_ascending := coherent.newKeys_ascending.sublist sublist
    marked_held := fun k member =>
      coherent.marked_held (List.mem_toFinset.mpr (sublist.subset (List.mem_toFinset.mp member))) }

theorem takeNewKeys_keeps (s : FeedStore) : Keeps s s.takeNewKeys.2 := .of_eq rfl rfl rfl

theorem Coherent.takeNewKeys {s : FeedStore} (coherent : s.Coherent) : s.takeNewKeys.2.Coherent :=
  { keys_nodup := coherent.keys_nodup, newestFirst := coherent.newestFirst,
    newKeys_ascending := List.Pairwise.nil, marked_held := by simp [marked, FeedStore.takeNewKeys] }

/-! ### Every step of the store but a switch -/

/-- The steps the store takes whole, other than switching projects. -/
inductive KeepingStep : FeedStore → FeedStore → Prop
  | same (s : FeedStore) : KeepingStep s s
  | claimNext (s : FeedStore) : KeepingStep s s.claimNext.2
  | releaseLoad (s : FeedStore) : KeepingStep s s.releaseLoad
  | completeNext (s : FeedStore) (f : NextFetch) (fetched : Except String (Page × Page)) :
      KeepingStep s (s.completeNext f fetched).2
  | completeFirst (s : FeedStore) (e : Epoch) (observations summaries : Page) :
      KeepingStep s (s.completeFirst e observations summaries).2
  | acknowledge (s : FeedStore) (keys : List String) : KeepingStep s (s.acknowledge keys).2
  | takeNewKeys (s : FeedStore) : KeepingStep s s.takeNewKeys.2

theorem claimNext_keeps (s : FeedStore) : Keeps s s.claimNext.2 := by
  rcases claimNext_cases s with ⟨claimed, -⟩ | ⟨-, -, claimed⟩
  · rw [claimed]
    exact Keeps.refl s
  · rw [claimed]
    exact .of_eq rfl rfl rfl

theorem Coherent.claimNext {s : FeedStore} (coherent : s.Coherent) : s.claimNext.2.Coherent := by
  rcases claimNext_cases s with ⟨claimed, -⟩ | ⟨-, -, claimed⟩
  · rw [claimed]
    exact coherent
  · rw [claimed]
    exact coherent.congr rfl rfl

theorem KeepingStep.coherent {s s' : FeedStore} (step : KeepingStep s s') (coherent : s.Coherent) :
    s'.Coherent := by
  cases step with
  | same => exact coherent
  | claimNext => exact coherent.claimNext
  | releaseLoad => exact coherent.releaseLoad
  | completeNext f fetched => exact coherent.completeNext f fetched
  | completeFirst e observations summaries => exact coherent.completeFirst e observations summaries
  | acknowledge keys => exact coherent.acknowledge keys
  | takeNewKeys => exact coherent.takeNewKeys

/-- Every step but a switch keeps the epoch and every held key. -/
theorem KeepingStep.keeps {s s' : FeedStore} (step : KeepingStep s s') : Keeps s s' := by
  cases step with
  | same => exact Keeps.refl s
  | claimNext => exact claimNext_keeps s
  | releaseLoad => exact releaseLoad_keeps s
  | completeNext f fetched => exact completeNext_keeps s f fetched
  | completeFirst e observations summaries => exact completeFirst_keeps s e observations summaries
  | acknowledge keys => exact acknowledge_keeps s keys
  | takeNewKeys => exact takeNewKeys_keeps s

/-! ### The next-page claim through the other steps -/

theorem withProject_loadingMore (s : FeedStore) (project : String) :
    (s.withProject project).2.loadingMore = s.loadingMore := by
  by_cases same : s.project = project
  · rw [withProject_of_eq same]
  · rw [withProject_of_ne same]

theorem completeFirst_loadingMore (s : FeedStore) (e : Epoch) (observations summaries : Page) :
    (s.completeFirst e observations summaries).2.loadingMore = s.loadingMore := by
  cases current : s.isCurrent e
  · rw [completeFirst_stale current]
  · rw [completeFirst_current current]
    rfl

theorem acknowledge_loadingMore (s : FeedStore) (keys : List String) :
    (s.acknowledge keys).2.loadingMore = s.loadingMore := by
  obtain ⟨kept, eq, -⟩ := acknowledge_eq s keys
  rw [eq]

/-- Two stores show the same feed: the same items, cursors, count of left-out observations
and new keys. -/
structure SameFeed (s s' : FeedStore) : Prop where
  items : s'.items = s.items
  observations : s'.observations = s.observations
  summaries : s'.summaries = s.summaries
  filteredCount : s'.filteredCount = s.filteredCount
  newKeys : s'.newKeys = s.newKeys

theorem SameFeed.refl (s : FeedStore) : SameFeed s s := ⟨rfl, rfl, rfl, rfl, rfl⟩

theorem sameFeed_releaseLoad (s : FeedStore) : SameFeed s s.releaseLoad := ⟨rfl, rfl, rfl, rfl, rfl⟩

end FeedStore

end MemoryDashboard.Feed
