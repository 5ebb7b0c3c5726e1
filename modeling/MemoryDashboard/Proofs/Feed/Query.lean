import MemoryDashboard.Feed.Filter
import MemoryDashboard.Proofs.Text.Normalize
import Mathlib

/-! # Searching the feed

The feed shows the items of the chosen kind whose haystack holds the query, both in normal form
(`Text.normalize`); a query that normalizes to nothing keeps them all. Main statement
(`visible_items_follow_normalized_query`): the visible items are, in feed order, the items the
filter keeps whose haystack holds the normalized query; a query and its normal form show the same
items, because normalizing twice is normalizing once; and a query whose normal form holds that of
another shows a part of what the other shows, in the same order.
-/

namespace MemoryDashboard.Feed

open Text

/-- A text holds another when the other's characters stand in it one after another. -/
theorem containsText_eq (hay needle : String) :
    containsText hay needle = decide (needle.toList <:+: hay.toList) := by
  rw [Bool.eq_iff_iff, decide_eq_true_iff]
  exact String.contains_string_iff

/-- The items a query keeps: those the filter keeps whose haystack holds the normalized query. -/
theorem visibleItems_eq_filter (items : List FeedItem) (filter : FeedFilter) (query : String) :
    visibleItems items filter query = items.filter fun i =>
      filter.keeps i && decide ((normalize query).toList <:+: (haystack i).toList) := by
  unfold visibleItems
  dsimp only
  split
  · rename_i empty
    have none : (normalize query).toList = [] := by simpa [String.isEmpty_iff] using empty
    simp [none, List.nil_infix]
  · rw [List.filter_filter]
    apply List.filter_congr
    intro i _
    rw [containsText_eq, Bool.and_comm]

/-- The visible items are, in feed order, the items of the filter's kind whose haystack holds the
normalized query, all of them when the query normalizes to nothing; a query shows what its normal
form shows; and a query whose normal form holds that of another shows a part of what the other
shows. -/
theorem visible_items_follow_normalized_query (items : List FeedItem) (filter : FeedFilter) :
    (∀ q, visibleItems items filter q = items.filter fun i =>
        filter.keeps i && decide ((normalize q).toList <:+: (haystack i).toList)) ∧
      (∀ q, normalize q = "" → visibleItems items filter q = items.filter filter.keeps) ∧
      (∀ q, visibleItems items filter (normalize q) = visibleItems items filter q) ∧
      ∀ q₁ q₂, (normalize q₁).toList <:+: (normalize q₂).toList →
        (visibleItems items filter q₂).Sublist (visibleItems items filter q₁) := by
  refine ⟨visibleItems_eq_filter items filter, ?_, ?_, ?_⟩
  · intro q empty
    rw [visibleItems_eq_filter, empty]
    simp [List.nil_infix]
  · intro q
    rw [visibleItems_eq_filter, visibleItems_eq_filter, normalize_normalize]
  · intro q₁ q₂ within
    rw [visibleItems_eq_filter, visibleItems_eq_filter]
    apply List.monotone_filter_right
    intro i kept
    simp only [Bool.and_eq_true, decide_eq_true_eq] at kept ⊢
    exact ⟨kept.1, within.trans kept.2⟩

end MemoryDashboard.Feed
