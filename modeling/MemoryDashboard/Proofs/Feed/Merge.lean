import MemoryDashboard.Feed.Merge
import Mathlib.Data.String.Basic
import Mathlib.Data.Finset.Card

/-! # Keyed merges keep one item per key, newest first

Both merges of the feed end with a list that holds each key once, sorted newest first, whose
keys are those of the held items together with those of the page, and whose items all come
from one of the two. The keys a merge reports as new are exactly the merged keys not held
before, each once, so their count is the size of that set difference.

The union is built on keyed pairs: `unionKeyed` keeps every pair's key equal to its item's key
and its list of keys free of repeats, and adds the keys it meets in order.
-/

namespace MemoryDashboard.Feed

/-- Newer items stand before older ones: the order of the feed. -/
def NewestFirst (a b : FeedItem) : Prop := b.createdAtMillis ≤ a.createdAtMillis

/-- Every pair holds an item under the item's own key. -/
def KeyedBy (pairs : List (String × FeedItem)) : Prop := ∀ p ∈ pairs, p.1 = p.2.key

theorem keyedBy_keyed (items : List FeedItem) : KeyedBy (keyed items) := by
  intro p member
  obtain ⟨item, _, rfl⟩ := List.mem_map.mp member
  rfl

@[simp]
theorem keyed_keys (items : List FeedItem) : (keyed items).map Prod.fst = items.map FeedItem.key := by
  simp [keyed]

/-- On keyed pairs, the keys of the items are the keys of the pairs. -/
theorem KeyedBy.item_keys {pairs : List (String × FeedItem)} (keyedBy : KeyedBy pairs) :
    (pairs.map Prod.snd).map FeedItem.key = pairs.map Prod.fst := by
  rw [List.map_map]
  exact List.map_congr_left fun p member => (keyedBy p member).symm

/-- Replacing the item of a present key leaves the keys where they stand. -/
private theorem keys_replace (held : List (String × FeedItem)) (k : String) (item : FeedItem) :
    (held.map fun p => if p.1 == k then (k, item) else p).map Prod.fst = held.map Prod.fst := by
  rw [List.map_map]
  apply List.map_congr_left
  intro p _
  by_cases same : p.1 = k
  · simp [same]
  · simp [same]

private theorem any_key_iff (held : List (String × FeedItem)) (k : String) :
    held.any (fun p => p.1 == k) = true ↔ k ∈ held.map Prod.fst := by
  rw [List.any_eq_true, List.mem_map]
  constructor
  · rintro ⟨p, member, same⟩
    exact ⟨p, member, by simpa using same⟩
  · rintro ⟨p, member, same⟩
    exact ⟨p, member, by simpa using same⟩

/-- The keys of a union are the keys of the held pairs followed by the keys they lacked. -/
theorem mem_keys_unionKeyed (held pairs : List (String × FeedItem)) (k : String) :
    k ∈ (unionKeyed held pairs).map Prod.fst ↔
      k ∈ held.map Prod.fst ∨ k ∈ pairs.map Prod.fst := by
  induction pairs generalizing held with
  | nil => simp [unionKeyed]
  | cons pair rest ih =>
      obtain ⟨key, item⟩ := pair
      rw [unionKeyed, ih]
      by_cases present : held.any (fun p => p.1 == key) = true
      · have known := (any_key_iff held key).mp present
        simp only [present, ↓reduceIte, keys_replace, List.map_cons, List.mem_cons]
        constructor
        · rintro (inHeld | inRest)
          · exact .inl inHeld
          · exact .inr (.inr inRest)
        · rintro (inHeld | rfl | inRest)
          · exact .inl inHeld
          · exact .inl known
          · exact .inr inRest
      · simp only [present, Bool.false_eq_true, ↓reduceIte, List.map_append, List.map_cons,
          List.map_nil, List.mem_append, List.mem_cons]
        tauto

/-- A union never repeats a key when the held pairs do not. -/
theorem unionKeyed_keys_nodup {held : List (String × FeedItem)}
    (distinct : (held.map Prod.fst).Nodup) (pairs : List (String × FeedItem)) :
    ((unionKeyed held pairs).map Prod.fst).Nodup := by
  induction pairs generalizing held with
  | nil => simpa [unionKeyed] using distinct
  | cons pair rest ih =>
      obtain ⟨key, item⟩ := pair
      rw [unionKeyed]
      apply ih
      by_cases present : held.any (fun p => p.1 == key) = true
      · simpa only [present, ↓reduceIte, keys_replace] using distinct
      · have fresh : key ∉ held.map Prod.fst := fun known =>
          present ((any_key_iff held key).mpr known)
        simp only [present, Bool.false_eq_true, ↓reduceIte, List.map_append, List.map_cons,
          List.map_nil]
        exact List.nodup_append.mpr ⟨distinct, List.nodup_singleton key,
          fun a inHeld b isKey => by
            rw [List.mem_singleton] at isKey
            exact fun same => fresh (isKey ▸ same ▸ inHeld)⟩

/-- A union of keyed pairs is keyed. -/
theorem KeyedBy.unionKeyed {held pairs : List (String × FeedItem)} (heldKeyed : KeyedBy held)
    (pairsKeyed : KeyedBy pairs) : KeyedBy (unionKeyed held pairs) := by
  induction pairs generalizing held with
  | nil => simpa [Feed.unionKeyed] using heldKeyed
  | cons pair rest ih =>
      obtain ⟨key, item⟩ := pair
      have itemKey : key = item.key := pairsKeyed (key, item) List.mem_cons_self
      rw [Feed.unionKeyed]
      refine ih ?_ fun p member => pairsKeyed p (List.mem_cons_of_mem _ member)
      intro p member
      split at member
      · obtain ⟨q, inHeld, rfl⟩ := List.mem_map.mp member
        by_cases same : q.1 = key
        · simpa [same] using itemKey
        · simpa [same] using heldKeyed q inHeld
      · rcases List.mem_append.mp member with inHeld | isNew
        · exact heldKeyed p inHeld
        · rw [List.mem_singleton.mp isNew]
          exact itemKey

/-- Every pair of a union is a held pair or one of the added pairs. -/
theorem mem_unionKeyed {held pairs : List (String × FeedItem)} {p : String × FeedItem}
    (member : p ∈ unionKeyed held pairs) : p ∈ held ∨ p ∈ pairs := by
  induction pairs generalizing held with
  | nil => exact .inl (by simpa [unionKeyed] using member)
  | cons pair rest ih =>
      obtain ⟨key, item⟩ := pair
      rw [unionKeyed] at member
      rcases ih member with placed | inRest
      · split at placed
        · obtain ⟨q, inHeld, rfl⟩ := List.mem_map.mp placed
          by_cases same : q.1 == key
          · simp [same]
          · simp only [same, Bool.false_eq_true, ↓reduceIte]
            exact .inl inHeld
        · rcases List.mem_append.mp placed with inHeld | isNew
          · exact .inl inHeld
          · exact .inr (List.mem_singleton.mp isNew ▸ List.mem_cons_self)
      · exact .inr (List.mem_cons_of_mem _ inRest)

theorem unionKeyed_append (held front back : List (String × FeedItem)) :
    unionKeyed held (front ++ back) = unionKeyed (unionKeyed held front) back := by
  induction front generalizing held with
  | nil => rfl
  | cons pair rest ih =>
      obtain ⟨key, item⟩ := pair
      exact ih _

/-- A pair stays in a union while no later pair brings its key. -/
theorem mem_unionKeyed_of_held {held pairs : List (String × FeedItem)} {p : String × FeedItem}
    (member : p ∈ held) (unshadowed : p.1 ∉ pairs.map Prod.fst) : p ∈ unionKeyed held pairs := by
  induction pairs generalizing held with
  | nil => exact member
  | cons pair rest ih =>
      obtain ⟨key, item⟩ := pair
      have other : (p.1 == key) = false := by
        simpa using fun same => unshadowed (List.mem_cons.mpr (.inl same))
      rw [unionKeyed]
      refine ih ?_ fun inRest => unshadowed (List.mem_cons_of_mem _ inRest)
      split
      · exact List.mem_map.mpr ⟨p, member, by simp [other]⟩
      · exact List.mem_append_left _ member

/-- An added pair that no later pair shadows is in the union. -/
theorem mem_unionKeyed_of_last {held front back : List (String × FeedItem)} {key : String}
    {item : FeedItem} (unshadowed : key ∉ back.map Prod.fst) :
    (key, item) ∈ unionKeyed held (front ++ (key, item) :: back) := by
  rw [unionKeyed_append, unionKeyed]
  refine mem_unionKeyed_of_held ?_ unshadowed
  split
  · rename_i present
    obtain ⟨q, inHeld, same⟩ := List.any_eq_true.mp present
    exact List.mem_map.mpr ⟨q, inHeld, by simp [same]⟩
  · exact List.mem_append_right _ List.mem_cons_self

/-- Sorting newest first is a sorted permutation. -/
theorem sortNewestFirst_perm (items : List FeedItem) : (sortNewestFirst items).Perm items :=
  List.mergeSort_perm items _

theorem sortNewestFirst_pairwise (items : List FeedItem) :
    (sortNewestFirst items).Pairwise NewestFirst := by
  have sorted : (sortNewestFirst items).Pairwise
      fun a b => decide (b.createdAtMillis ≤ a.createdAtMillis) = true :=
    List.pairwise_mergeSort
      (fun a b c ab bc => by simp only [decide_eq_true_eq] at ab bc ⊢; omega)
      (fun a b => by simp only [Bool.or_eq_true, decide_eq_true_eq]; omega) items
  exact sorted.imp fun ordered => of_decide_eq_true ordered

/-- The pairs a union by key builds from the held items and a page. -/
private theorem unionByKey_perm (held incoming : List FeedItem) :
    (unionByKey held incoming).Perm ((unionKeyed [] (keyed held ++ keyed incoming)).map Prod.snd) :=
  sortNewestFirst_perm _

private theorem unionByKey_keyedBy (held incoming : List FeedItem) :
    KeyedBy (unionKeyed [] (keyed held ++ keyed incoming)) := by
  refine KeyedBy.unionKeyed (by simp [KeyedBy]) ?_
  intro p member
  rcases List.mem_append.mp member with inHeld | inPage
  · exact keyedBy_keyed held p inHeld
  · exact keyedBy_keyed incoming p inPage

private theorem unionByKey_keys_perm (held incoming : List FeedItem) :
    ((unionByKey held incoming).map FeedItem.key).Perm
      ((unionKeyed [] (keyed held ++ keyed incoming)).map Prod.fst) := by
  rw [← (unionByKey_keyedBy held incoming).item_keys]
  exact (unionByKey_perm held incoming).map _

/-- A union by key holds each key once. -/
theorem unionByKey_keys_nodup (held incoming : List FeedItem) :
    ((unionByKey held incoming).map FeedItem.key).Nodup :=
  (unionByKey_keys_perm held incoming).nodup_iff.mpr
    (unionKeyed_keys_nodup (by simp) _)

/-- The keys of a union by key are the held keys and the page's keys. -/
theorem mem_keys_unionByKey (held incoming : List FeedItem) (k : String) :
    k ∈ (unionByKey held incoming).map FeedItem.key ↔
      k ∈ held.map FeedItem.key ∨ k ∈ incoming.map FeedItem.key := by
  rw [(unionByKey_keys_perm held incoming).mem_iff, mem_keys_unionKeyed]
  simp

/-- Every item of a union by key is a held item or an item of the page. -/
theorem mem_unionByKey {held incoming : List FeedItem} {item : FeedItem}
    (member : item ∈ unionByKey held incoming) : item ∈ held ∨ item ∈ incoming := by
  obtain ⟨p, inUnion, rfl⟩ := List.mem_map.mp ((unionByKey_perm held incoming).mem_iff.mp member)
  rcases mem_unionKeyed inUnion with inEmpty | inPairs
  · cases inEmpty
  · rcases List.mem_append.mp inPairs with inHeld | inPage
    · obtain ⟨i, mem, rfl⟩ := List.mem_map.mp inHeld
      exact .inl mem
    · obtain ⟨i, mem, rfl⟩ := List.mem_map.mp inPage
      exact .inr mem

/-- A page whose keys are distinct is wholly in the union: its items replace held ones. -/
theorem mem_unionByKey_of_mem {held incoming : List FeedItem} {item : FeedItem}
    (member : item ∈ incoming) (distinct : (incoming.map FeedItem.key).Nodup) :
    item ∈ unionByKey held incoming := by
  obtain ⟨front, back, rfl⟩ := List.append_of_mem member
  have unshadowed : item.key ∉ (keyed back).map Prod.fst := by
    rw [keyed_keys]
    rw [List.map_append, List.map_cons] at distinct
    exact (List.nodup_cons.mp (List.nodup_append.mp distinct).2.1).1
  have inUnion : (item.key, item) ∈ unionKeyed [] (keyed held ++ keyed (front ++ item :: back)) := by
    have pairs : keyed (front ++ item :: back) = keyed front ++ (item.key, item) :: keyed back := by
      simp [keyed]
    rw [pairs, ← List.append_assoc]
    exact mem_unionKeyed_of_last unshadowed
  exact (unionByKey_perm held _).mem_iff.mpr (List.mem_map.mpr ⟨_, inUnion, rfl⟩)

theorem unionByKey_pairwise (held incoming : List FeedItem) :
    (unionByKey held incoming).Pairwise NewestFirst :=
  sortNewestFirst_pairwise _

/-! ### The two merges -/

theorem appendMerge_keys_nodup (held incoming : List FeedItem) :
    ((appendMerge held incoming).map FeedItem.key).Nodup :=
  unionByKey_keys_nodup held incoming

theorem mem_keys_appendMerge (held incoming : List FeedItem) (k : String) :
    k ∈ (appendMerge held incoming).map FeedItem.key ↔
      k ∈ held.map FeedItem.key ∨ k ∈ incoming.map FeedItem.key :=
  mem_keys_unionByKey held incoming k

theorem mem_appendMerge {held incoming : List FeedItem} {item : FeedItem}
    (member : item ∈ appendMerge held incoming) : item ∈ held ∨ item ∈ incoming :=
  mem_unionByKey member

theorem appendMerge_pairwise (held incoming : List FeedItem) :
    (appendMerge held incoming).Pairwise NewestFirst :=
  unionByKey_pairwise held incoming

theorem refreshMerge_keys_nodup (held firstPage : List FeedItem) :
    ((refreshMerge held firstPage).map FeedItem.key).Nodup :=
  unionByKey_keys_nodup _ firstPage

/-- A refresh drops only held items whose key the page brings back, so no key is lost. -/
theorem mem_keys_refreshMerge (held firstPage : List FeedItem) (k : String) :
    k ∈ (refreshMerge held firstPage).map FeedItem.key ↔
      k ∈ held.map FeedItem.key ∨ k ∈ firstPage.map FeedItem.key := by
  rw [refreshMerge, mem_keys_unionByKey]
  constructor
  · rintro (kept | inPage)
    · obtain ⟨item, member, rfl⟩ := List.mem_map.mp kept
      exact .inl (List.mem_map_of_mem (List.mem_filter.mp member).1)
    · exact .inr inPage
  · rintro (inHeld | inPage)
    · by_cases refreshed : k ∈ firstPage.map FeedItem.key
      · exact .inr refreshed
      · obtain ⟨item, member, rfl⟩ := List.mem_map.mp inHeld
        refine .inl (List.mem_map_of_mem (List.mem_filter.mpr ⟨member, ?_⟩))
        simpa using refreshed
    · exact .inr inPage

theorem mem_refreshMerge {held firstPage : List FeedItem} {item : FeedItem}
    (member : item ∈ refreshMerge held firstPage) : item ∈ held ∨ item ∈ firstPage := by
  rcases mem_unionByKey member with kept | inPage
  · exact .inl (List.mem_filter.mp kept).1
  · exact .inr inPage

/-- A first page whose keys are distinct is wholly in the refreshed feed. -/
theorem mem_refreshMerge_of_mem {held firstPage : List FeedItem} {item : FeedItem}
    (member : item ∈ firstPage) (distinct : (firstPage.map FeedItem.key).Nodup) :
    item ∈ refreshMerge held firstPage :=
  mem_unionByKey_of_mem member distinct

theorem refreshMerge_pairwise (held firstPage : List FeedItem) :
    (refreshMerge held firstPage).Pairwise NewestFirst :=
  unionByKey_pairwise _ firstPage

/-! ### Keys reported as new -/

theorem mem_insertSorted {k x : String} {keys : List String} :
    x ∈ insertSorted k keys ↔ x = k ∨ x ∈ keys := by
  induction keys with
  | nil => simp [insertSorted]
  | cons t rest ih =>
      rw [insertSorted]
      split
      · simp
      · split
        · rename_i same
          subst same
          simp
        · rw [List.mem_cons, ih, List.mem_cons]
          tauto

/-- Inserting into a strictly ascending list keeps it strictly ascending. -/
theorem insertSorted_pairwise {keys : List String} (sorted : keys.Pairwise (· < ·)) (k : String) :
    (insertSorted k keys).Pairwise (· < ·) := by
  induction keys with
  | nil => simp [insertSorted]
  | cons t rest ih =>
      obtain ⟨tFirst, restSorted⟩ := List.pairwise_cons.mp sorted
      rw [insertSorted]
      split
      · rename_i before
        refine List.pairwise_cons.mpr ⟨?_, sorted⟩
        intro y member
        rcases List.mem_cons.mp member with rfl | later
        · exact before
        · exact before.trans (tFirst y later)
      · split
        · exact sorted
        · rename_i notBefore differs
          have after : t < k := lt_of_le_of_ne (not_lt.mp notBefore) (Ne.symm differs)
          refine List.pairwise_cons.mpr ⟨?_, ih restSorted⟩
          intro y member
          rcases mem_insertSorted.mp member with rfl | inRest
          · exact after
          · exact tFirst y inRest

private theorem mem_foldl_insertUnseen (seen : List String) (x : String) :
    ∀ keys acc : List String,
      x ∈ keys.foldl (fun acc k => if seen.contains k then acc else insertSorted k acc) acc ↔
        x ∈ acc ∨ (x ∈ keys ∧ x ∉ seen)
  | [], acc => by simp
  | k :: rest, acc => by
      rw [List.foldl_cons, mem_foldl_insertUnseen seen x rest]
      by_cases known : k ∈ seen
      · have : seen.contains k = true := List.contains_iff_mem.mpr known
        simp only [this, ↓reduceIte, List.mem_cons]
        constructor
        · rintro (inAcc | ⟨inRest, unseen⟩)
          · exact .inl inAcc
          · exact .inr ⟨.inr inRest, unseen⟩
        · rintro (inAcc | ⟨rfl | inRest, unseen⟩)
          · exact .inl inAcc
          · exact absurd known unseen
          · exact .inr ⟨inRest, unseen⟩
      · have : seen.contains k = false := by simpa using known
        simp only [this, Bool.false_eq_true, ↓reduceIte, mem_insertSorted, List.mem_cons]
        constructor
        · rintro ((rfl | inAcc) | ⟨inRest, unseen⟩)
          · exact .inr ⟨.inl rfl, known⟩
          · exact .inl inAcc
          · exact .inr ⟨.inr inRest, unseen⟩
        · rintro (inAcc | ⟨rfl | inRest, unseen⟩)
          · exact .inl (.inr inAcc)
          · exact .inl (.inl rfl)
          · exact .inr ⟨inRest, unseen⟩

private theorem foldl_insertUnseen_pairwise (seen : List String) :
    ∀ keys acc : List String, acc.Pairwise (· < ·) →
      (keys.foldl (fun acc k => if seen.contains k then acc else insertSorted k acc) acc).Pairwise
        (· < ·)
  | [], _, sorted => sorted
  | k :: rest, acc, sorted => by
      rw [List.foldl_cons]
      apply foldl_insertUnseen_pairwise seen rest
      split
      · exact sorted
      · exact insertSorted_pairwise sorted k

/-- A key is new exactly when the merged list holds it and the list before did not. -/
theorem mem_newKeys (before merged : List FeedItem) (k : String) :
    k ∈ newKeys before merged ↔ k ∈ merged.map FeedItem.key ∧ k ∉ before.map FeedItem.key := by
  rw [newKeys, mem_foldl_insertUnseen]
  simp

theorem newKeys_pairwise (before merged : List FeedItem) :
    (newKeys before merged).Pairwise (· < ·) :=
  foldl_insertUnseen_pairwise _ _ [] List.Pairwise.nil

theorem newKeys_nodup (before merged : List FeedItem) : (newKeys before merged).Nodup :=
  (newKeys_pairwise before merged).imp ne_of_lt

/-- The new keys, as a set: the merged keys less the keys held before. -/
theorem newKeys_toFinset (before merged : List FeedItem) :
    (newKeys before merged).toFinset =
      (merged.map FeedItem.key).toFinset \ (before.map FeedItem.key).toFinset := by
  ext k
  simp only [List.mem_toFinset, Finset.mem_sdiff, mem_newKeys]

/-- The count of new keys is the size of the set of merged keys not held before. -/
theorem length_newKeys (before merged : List FeedItem) :
    (newKeys before merged).length =
      ((merged.map FeedItem.key).toFinset \ (before.map FeedItem.key).toFinset).card := by
  rw [← newKeys_toFinset, List.toFinset_card_of_nodup (newKeys_nodup before merged)]

end MemoryDashboard.Feed
