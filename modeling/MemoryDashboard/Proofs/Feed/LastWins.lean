import MemoryDashboard.Proofs.Feed.Merge

/-! # The merges sort the last version of every key

Both merges of the feed can be told without the index they build while they run. Take every
key of the combined list once, where it first occurs, carrying the item it last occurs with
(`lastVersions`); then sort newest first, keeping items of equal time in the order they stand
(`IsNewestFirstOf`). Appending a page combines the held items with the page; refreshing first
drops the held items whose key the page brings.

A newest-first order that keeps ties in place is unique (`IsNewestFirstOf.unique`), and the
sort the feed uses is one (`sortNewestFirst_isNewestFirstOf`), so each merge equals every stable
newest-first sort of its last versions (`merges_sort_last_versions`). In particular an item is
merged exactly when it is the last version of its key on the page, or the last held version of
a key the page lacks.
-/

namespace MemoryDashboard.Feed

/-- The last item of a list under a key. -/
def lastUnder (items : List FeedItem) (k : String) : Option FeedItem :=
  (items.filter (·.key == k)).getLast?

/-- The keys of a list in the order they first occur, each once. -/
def firstKeys (items : List FeedItem) : List String := (items.map FeedItem.key).eraseDups

/-- Every key of a list once, where it first occurs, carrying the item it last occurs with. -/
def lastVersions (items : List FeedItem) : List FeedItem :=
  (firstKeys items).filterMap (lastUnder items)

/-- `sorted` lists the items of `items` newest first, and items of equal time in the order they
have in `items`: what a stable sort newest first gives. -/
structure IsNewestFirstOf (sorted items : List FeedItem) : Prop where
  newest_first : sorted.Pairwise NewestFirst
  ties_in_order : ∀ t : Int,
    sorted.filter (·.createdAtMillis == t) = items.filter (·.createdAtMillis == t)

/-! ### Last versions -/

/-- A later part of a list decides the last item of a key when it has one. -/
theorem lastUnder_append (front back : List FeedItem) (k : String) :
    lastUnder (front ++ back) k = (lastUnder back k).or (lastUnder front k) := by
  simp only [lastUnder, List.filter_append, List.getLast?_append]

theorem lastUnder_append_singleton (items : List FeedItem) (x : FeedItem) (k : String) :
    lastUnder (items ++ [x]) k = if x.key = k then some x else lastUnder items k := by
  rw [lastUnder_append]
  by_cases same : x.key = k
  · simp [lastUnder, same]
  · simp [lastUnder, same]

/-- The last item under a key carries that key and is an item of the list. -/
theorem key_of_lastUnder {items : List FeedItem} {k : String} {x : FeedItem}
    (last : lastUnder items k = some x) : x.key = k ∧ x ∈ items := by
  have member : x ∈ items.filter (·.key == k) := List.mem_of_getLast? last
  simpa [and_comm] using List.mem_filter.mp member

theorem lastUnder_eq_none_iff {items : List FeedItem} {k : String} :
    lastUnder items k = none ↔ k ∉ items.map FeedItem.key := by
  simp [lastUnder]

theorem mem_firstKeys {items : List FeedItem} {k : String} :
    k ∈ firstKeys items ↔ k ∈ items.map FeedItem.key :=
  List.mem_eraseDups

/-- A key met again keeps its first place; a new key goes last. -/
theorem firstKeys_append_singleton (items : List FeedItem) (x : FeedItem) :
    firstKeys (items ++ [x]) =
      if x.key ∈ items.map FeedItem.key then firstKeys items else firstKeys items ++ [x.key] := by
  rw [firstKeys, List.map_append, List.map_singleton, List.eraseDups_append, List.removeAll,
    List.filter_singleton, List.elem_eq_mem]
  by_cases known : x.key ∈ items.map FeedItem.key
  · rw [decide_eq_true known]
    simp [known, firstKeys]
  · rw [decide_eq_false known]
    simp [known, List.eraseDups_cons, firstKeys]

/-- An item is a last version exactly when it is the last item under its own key. -/
theorem mem_lastVersions {items : List FeedItem} {x : FeedItem} :
    x ∈ lastVersions items ↔ lastUnder items x.key = some x := by
  rw [lastVersions, List.mem_filterMap]
  constructor
  · rintro ⟨k, -, last⟩
    rwa [(key_of_lastUnder last).1]
  · intro last
    exact ⟨x.key, mem_firstKeys.mpr (List.mem_map_of_mem (key_of_lastUnder last).2), last⟩

/-- With the page after the held items, a key's last version is the page's when it has the key,
and the held one otherwise. -/
theorem lastUnder_append_eq_some {held page : List FeedItem} {k : String} {x : FeedItem} :
    lastUnder (held ++ page) k = some x ↔
      lastUnder page k = some x ∨ (k ∉ page.map FeedItem.key ∧ lastUnder held k = some x) := by
  rw [lastUnder_append, Option.or_eq_some_iff, lastUnder_eq_none_iff]

/-- Dropping the held items whose key the page brings changes no key's last version. -/
theorem lastUnder_refreshBatch (held page : List FeedItem) (k : String) :
    lastUnder (held.filter (fun x => x.key ∉ page.map FeedItem.key) ++ page) k =
      lastUnder (held ++ page) k := by
  rw [lastUnder_append, lastUnder_append]
  by_cases onPage : k ∈ page.map FeedItem.key
  · obtain ⟨x, last⟩ := Option.ne_none_iff_exists'.mp (mt lastUnder_eq_none_iff.mp (not_not.mpr onPage))
    simp [last]
  · have kept : (held.filter fun x => x.key ∉ page.map FeedItem.key).filter (·.key == k) =
        held.filter (·.key == k) := by
      rw [List.filter_filter]
      apply List.filter_congr
      intro x _
      by_cases same : x.key = k
      · simp [same, onPage]
      · simp [same]
    have keptLast : lastUnder (held.filter fun x => x.key ∉ page.map FeedItem.key) k =
        lastUnder held k := by
      simp only [lastUnder, kept]
    rw [keptLast]

/-! ### The index the merge builds holds the last versions -/

/-- Each key once in order of first occurrence, paired with its last item. -/
private def lastPairs (items : List FeedItem) : List (String × FeedItem) :=
  (firstKeys items).filterMap fun k => (lastUnder items k).map (k, ·)

private theorem lastPairs_append_singleton (items : List FeedItem) (x : FeedItem) :
    lastPairs (items ++ [x]) =
      if x.key ∈ items.map FeedItem.key then
        (lastPairs items).map fun p => if p.1 == x.key then (x.key, x) else p
      else lastPairs items ++ [(x.key, x)] := by
  rw [lastPairs, firstKeys_append_singleton]
  split
  · rename_i known
    rw [lastPairs, List.map_filterMap]
    apply List.filterMap_congr
    intro k member
    obtain ⟨y, last⟩ := Option.ne_none_iff_exists'.mp
      (mt lastUnder_eq_none_iff.mp (not_not.mpr (mem_firstKeys.mp member)))
    by_cases same : x.key = k
    · subst same
      simp [lastUnder_append_singleton, last]
    · simp [lastUnder_append_singleton, last, same, Ne.symm same]
  · rename_i fresh
    rw [List.filterMap_append, lastPairs]
    congr 1
    · apply List.filterMap_congr
      intro k member
      have other : x.key ≠ k := fun same => fresh (same ▸ mem_firstKeys.mp member)
      simp [lastUnder_append_singleton, other]
    · simp [lastUnder_append_singleton]

/-- Adding keyed items one by one, replacing a present key in place, pairs every key with its
last item in the order keys first occur. -/
private theorem unionKeyed_keyed_eq (items : List FeedItem) :
    unionKeyed [] (keyed items) = lastPairs items := by
  induction items using List.reverseRecOn with
  | nil => rfl
  | append_singleton items x ih =>
      have present : (unionKeyed [] (keyed items)).any (fun p => p.1 == x.key) =
          decide (x.key ∈ items.map FeedItem.key) := by
        have keys := mem_keys_unionKeyed [] (keyed items) x.key
        simp only [keyed_keys, List.map_nil, List.not_mem_nil, false_or] at keys
        rw [Bool.eq_iff_iff, List.any_eq_true, decide_eq_true_iff, ← keys, List.mem_map]
        simp
      have split : keyed (items ++ [x]) = keyed items ++ [(x.key, x)] := by simp [keyed]
      rw [split, unionKeyed_append, unionKeyed, unionKeyed, present, ih,
        lastPairs_append_singleton]
      by_cases known : x.key ∈ items.map FeedItem.key
      · simp [known]
      · simp [known]

theorem unionKeyed_keyed (items : List FeedItem) :
    (unionKeyed [] (keyed items)).map Prod.snd = lastVersions items := by
  rw [unionKeyed_keyed_eq, lastPairs, List.map_filterMap, lastVersions]
  apply List.filterMap_congr
  intro k _
  cases lastUnder items k <;> rfl

/-- The union by key sorts the last versions of the held items followed by the page. -/
theorem unionByKey_eq (held incoming : List FeedItem) :
    unionByKey held incoming = sortNewestFirst (lastVersions (held ++ incoming)) := by
  have split : keyed held ++ keyed incoming = keyed (held ++ incoming) := by simp [keyed]
  rw [unionByKey, split, unionKeyed_keyed]

theorem refreshMerge_eq_unionByKey (held firstPage : List FeedItem) :
    refreshMerge held firstPage =
      unionByKey (held.filter fun x => x.key ∉ firstPage.map FeedItem.key) firstPage := by
  simp only [refreshMerge, List.contains_eq_mem, decide_not]

/-! ### Stable newest-first order -/

private theorem newestFirst_trans (a b c : FeedItem)
    (ab : decide (b.createdAtMillis ≤ a.createdAtMillis) = true)
    (bc : decide (c.createdAtMillis ≤ b.createdAtMillis) = true) :
    decide (c.createdAtMillis ≤ a.createdAtMillis) = true := by
  simp only [decide_eq_true_eq] at ab bc ⊢
  omega

private theorem newestFirst_total (a b : FeedItem) :
    (decide (b.createdAtMillis ≤ a.createdAtMillis) || decide (a.createdAtMillis ≤ b.createdAtMillis)) =
      true := by
  simp only [Bool.or_eq_true, decide_eq_true_eq]
  omega

/-- The feed's sort is stable: items of one time keep their order. -/
theorem sortNewestFirst_isNewestFirstOf (items : List FeedItem) :
    IsNewestFirstOf (sortNewestFirst items) items where
  newest_first := sortNewestFirst_pairwise items
  ties_in_order t := by
    let sameTime : FeedItem → Bool := (·.createdAtMillis == t)
    -- the items of one time are ordered for the sort, so merge sort keeps them as a sublist
    have tied : (items.filter sameTime).Pairwise
        fun a b => decide (b.createdAtMillis ≤ a.createdAtMillis) := by
      refine List.pairwise_of_forall_mem_list fun a inA b inB => ?_
      have aTime := (List.mem_filter.mp inA).2
      have bTime := (List.mem_filter.mp inB).2
      simp only [sameTime, beq_iff_eq] at aTime bTime
      simp [aTime, bTime]
    have kept : List.Sublist (items.filter sameTime) (sortNewestFirst items) :=
      List.sublist_mergeSort newestFirst_trans newestFirst_total tied List.filter_sublist
    have keptTied : List.Sublist (items.filter sameTime) ((sortNewestFirst items).filter sameTime) := by
      simpa [List.filter_filter] using kept.filter sameTime
    have sameLength : (items.filter sameTime).length = ((sortNewestFirst items).filter sameTime).length :=
      (((sortNewestFirst_perm items).filter sameTime).length_eq).symm
    exact (keptTied.eq_of_length sameLength).symm

/-- Two newest-first lists with the same items of every time, in the same order, are equal. -/
theorem eq_of_ties_in_order {first second : List FeedItem}
    (firstSorted : first.Pairwise NewestFirst) (secondSorted : second.Pairwise NewestFirst)
    (ties : ∀ t : Int,
      first.filter (·.createdAtMillis == t) = second.filter (·.createdAtMillis == t)) :
    first = second := by
  induction first generalizing second with
  | nil =>
      cases second with
      | nil => rfl
      | cons b rest =>
          have := ties b.createdAtMillis
          simp at this
  | cons a rest ih =>
      -- each head is the newest item, and it is the first of its time in the other list
      have aInSecond : a ∈ second := by
        have member : a ∈ second.filter (·.createdAtMillis == a.createdAtMillis) := by
          rw [← ties]; simp
        exact (List.mem_filter.mp member).1
      obtain ⟨b, restSecond, rfl⟩ := List.exists_cons_of_ne_nil (List.ne_nil_of_mem aInSecond)
      have bInFirst : b ∈ a :: rest := by
        have member : b ∈ (a :: rest).filter (·.createdAtMillis == b.createdAtMillis) := by
          rw [ties]; simp
        exact (List.mem_filter.mp member).1
      have newerB : a.createdAtMillis ≤ b.createdAtMillis := by
        rcases List.mem_cons.mp aInSecond with same | later
        · rw [same]
        · exact (List.pairwise_cons.mp secondSorted).1 a later
      have newerA : b.createdAtMillis ≤ a.createdAtMillis := by
        rcases List.mem_cons.mp bInFirst with same | later
        · rw [same]
        · exact (List.pairwise_cons.mp firstSorted).1 b later
      have sameTime : a.createdAtMillis = b.createdAtMillis := le_antisymm newerB newerA
      have heads := ties a.createdAtMillis
      simp only [List.filter_cons, beq_self_eq_true, ↓reduceIte, sameTime] at heads
      obtain ⟨rfl, restTies⟩ := List.cons.inj heads
      congr 1
      apply ih (List.pairwise_cons.mp firstSorted).2 (List.pairwise_cons.mp secondSorted).2
      intro t
      by_cases atHead : a.createdAtMillis = t
      · simpa [atHead, sameTime] using restTies
      · have := ties t
        simpa [List.filter_cons, atHead] using this

/-- A stable newest-first order of a list is unique. -/
theorem IsNewestFirstOf.unique {first second items : List FeedItem}
    (isFirst : IsNewestFirstOf first items) (isSecond : IsNewestFirstOf second items) :
    first = second :=
  eq_of_ties_in_order isFirst.newest_first isSecond.newest_first fun t => by
    rw [isFirst.ties_in_order, isSecond.ties_in_order]

/-! ### The merges -/

/-- What a merge of a page into held items gives: each key once, newest first, the keys of
both, and exactly the last version of each key, from the page when the page has the key. -/
structure MergeOutcome (current incoming result : List FeedItem) : Prop where
  keys_nodup : (result.map FeedItem.key).Nodup
  newest_first : result.Pairwise NewestFirst
  mem_keys : ∀ k, k ∈ result.map FeedItem.key ↔
    k ∈ current.map FeedItem.key ∨ k ∈ incoming.map FeedItem.key
  mem_iff : ∀ x, x ∈ result ↔ lastUnder incoming x.key = some x ∨
    (x.key ∉ incoming.map FeedItem.key ∧ lastUnder current x.key = some x)

theorem appendMerge_outcome (current incoming : List FeedItem) :
    MergeOutcome current incoming (appendMerge current incoming) where
  keys_nodup := appendMerge_keys_nodup current incoming
  newest_first := appendMerge_pairwise current incoming
  mem_keys := mem_keys_appendMerge current incoming
  mem_iff x := by
    rw [appendMerge, unionByKey_eq, (sortNewestFirst_perm _).mem_iff, mem_lastVersions,
      lastUnder_append_eq_some]

theorem refreshMerge_outcome (current incoming : List FeedItem) :
    MergeOutcome current incoming (refreshMerge current incoming) where
  keys_nodup := refreshMerge_keys_nodup current incoming
  newest_first := refreshMerge_pairwise current incoming
  mem_keys := mem_keys_refreshMerge current incoming
  mem_iff x := by
    rw [refreshMerge_eq_unionByKey, unionByKey_eq, (sortNewestFirst_perm _).mem_iff,
      mem_lastVersions, lastUnder_refreshBatch, lastUnder_append_eq_some]

/-- Both merges equal any stable newest-first sort of the last versions of their batch: the held
items followed by the page for an append, the held items the page does not bring followed by
the page for a refresh. Each therefore holds each key once, newest first, with the keys of both
lists, the page's last version of every key it brings and the last held version of every other
key. -/
theorem merges_sort_last_versions (current incoming : List FeedItem)
    (ssort : List FeedItem → List FeedItem) (stable : ∀ items, IsNewestFirstOf (ssort items) items) :
    appendMerge current incoming = ssort (lastVersions (current ++ incoming)) ∧
    refreshMerge current incoming = ssort (lastVersions
      (current.filter (fun x => x.key ∉ incoming.map FeedItem.key) ++ incoming)) ∧
    MergeOutcome current incoming (appendMerge current incoming) ∧
    MergeOutcome current incoming (refreshMerge current incoming) := by
  refine ⟨?_, ?_, appendMerge_outcome current incoming, refreshMerge_outcome current incoming⟩
  · rw [appendMerge, unionByKey_eq]
    exact (sortNewestFirst_isNewestFirstOf _).unique (stable _)
  · rw [refreshMerge_eq_unionByKey, unionByKey_eq]
    exact (sortNewestFirst_isNewestFirstOf _).unique (stable _)

/-- The feed's own sort, merging a page whose note replaces the held one. -/
theorem page_note_replaces_held :
    (∀ items, IsNewestFirstOf (sortNewestFirst items) items) ∧
    appendMerge [.observation { core := { kind := "note", title := "held" } }]
        [.observation { core := { kind := "note", title := "page" } }] =
      sortNewestFirst (lastVersions ([.observation { core := { kind := "note", title := "held" } }] ++
        [.observation { core := { kind := "note", title := "page" } }])) ∧
    refreshMerge [.observation { core := { kind := "note", title := "held" } }]
        [.observation { core := { kind := "note", title := "page" } }] =
      sortNewestFirst (lastVersions
        ([FeedItem.observation { core := { kind := "note", title := "held" } }].filter
            (fun x => x.key ∉ [FeedItem.observation { core := { kind := "note", title := "page" } }].map
              FeedItem.key) ++
          [.observation { core := { kind := "note", title := "page" } }])) ∧
    MergeOutcome [.observation { core := { kind := "note", title := "held" } }]
      [.observation { core := { kind := "note", title := "page" } }]
      (appendMerge [.observation { core := { kind := "note", title := "held" } }]
        [.observation { core := { kind := "note", title := "page" } }]) ∧
    MergeOutcome [.observation { core := { kind := "note", title := "held" } }]
      [.observation { core := { kind := "note", title := "page" } }]
      (refreshMerge [.observation { core := { kind := "note", title := "held" } }]
        [.observation { core := { kind := "note", title := "page" } }]) :=
  ⟨sortNewestFirst_isNewestFirstOf,
    merges_sort_last_versions _ _ sortNewestFirst sortNewestFirst_isNewestFirstOf⟩

end MemoryDashboard.Feed
