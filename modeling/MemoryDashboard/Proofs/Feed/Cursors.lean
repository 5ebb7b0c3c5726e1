import MemoryDashboard.Proofs.Feed.Interleaving

/-! # How loads move the cursors

A cursor remembers where the next page of its collection starts and whether there is one. After
a page the cursor follows the page (`Cursor.Follows`): its offset is the page's next offset when
the page gives one that is not negative, else the offset the page was fetched at plus the number
of items the page returned, counted before low-signal observations are left out; and it has more
when the page says so or, when the page does not say, when the page was full. This is what
advancing does (`Cursor.advance_follows`).

A next-page load does not ask a collection without more pages: the exhausted page stands in for
it, and that page names the cursor's offset only while it fits a signed 64-bit number. Either
way the cursor reads its exhausted page back as itself (`Cursor.advance_exhausted`). So an
applied next-page load leaves a cursor without more pages exactly as it found it, at any offset,
and moves a cursor with more by its page from the offset it had when the load claimed it; an
applied first page moves both cursors by their pages from offset 0
(`applied_loads_move_cursors`).
-/

namespace MemoryDashboard.Feed

namespace Cursor

/-- The cursor a page leaves behind when fetched at `base` in pages of `pageSize`. -/
structure Follows (page : Page) (base pageSize : Nat) (c : Cursor) : Prop where
  hasMore_given : ∀ more, page.pagination.bind Pagination.hasMore = some more → c.hasMore = more
  hasMore_counted : page.pagination.bind Pagination.hasMore = none →
    (c.hasMore = true ↔ pageSize ≤ page.items.length)
  offset_given : ∀ next : Int, page.pagination.bind Pagination.nextOffset = some next →
    0 ≤ next → c.offset = next.toNat
  offset_counted : (∀ next : Int, page.pagination.bind Pagination.nextOffset = some next → next < 0) →
    c.offset = base + page.items.length

/-- How a next-page load moves a cursor it loaded from: a cursor without more pages stays as it
was, one with more follows its page from its own offset. -/
def MovedBy (before : Cursor) (page : Page) (pageSize : Nat) (after : Cursor) : Prop :=
  (before.hasMore = false → after = before) ∧
    (before.hasMore = true → after.Follows page before.offset pageSize)

theorem advance_follows (page : Page) (base pageSize : Nat) :
    (advance page.pagination base page.items.length pageSize).Follows page base pageSize where
  hasMore_given more given := by simp [advance, given]
  hasMore_counted absent := by simp [advance, absent]
  offset_given next given nonnegative := by simp [advance, given, nonnegative]
  offset_counted negative := by
    unfold advance
    cases given : page.pagination.bind Pagination.nextOffset with
    | none => rfl
    | some next =>
        have below := negative next given
        simp only [if_neg (Int.not_le.mpr below)]

/-- A cursor without more pages reads its exhausted page back as itself. Below 2^63 the page
names the offset; above, it names none and the count of its items, none, adds nothing. -/
theorem advance_exhausted {c : Cursor} (done : c.hasMore = false) (pageSize : Nat) :
    advance (Page.exhausted c.offset).pagination c.offset (Page.exhausted c.offset).items.length
      pageSize = c := by
  obtain ⟨offset, hasMore⟩ := c
  simp only at done
  subst done
  by_cases fits : offset < Nat.pow 2 63
  · simp [Page.exhausted, advance, fits]
  · simp [Page.exhausted, advance, fits]

example : advance (Page.exhausted (Nat.pow 2 63 + 5)).pagination (Nat.pow 2 63 + 5) 0 20 =
    ⟨Nat.pow 2 63 + 5, false⟩ := by
  decide

/-- Advancing a cursor by the page a load sees for it moves the cursor as a load does. -/
theorem movedBy_advance_pageOf (c : Cursor) (page : Page) (pageSize : Nat) :
    c.MovedBy page pageSize
      (advance (Call.pageOf c page).pagination c.offset (Call.pageOf c page).items.length
        pageSize) := by
  constructor
  · intro done
    have exhausted : Call.pageOf c page = Page.exhausted c.offset := by
      simp [Call.pageOf, done]
    rw [exhausted]
    exact advance_exhausted done pageSize
  · intro more
    have asked : Call.pageOf c page = page := by simp [Call.pageOf, more]
    rw [asked]
    exact advance_follows page c.offset pageSize

end Cursor

namespace FeedStore

/-- An applied next-page load moves each cursor it captured by the page it saw for it. -/
theorem completeNext_cursors {s s' : FeedStore} {f : NextFetch} {observations summaries : Page}
    {n : Nat}
    (applied : s.completeNext f ((Call.nextPage f).fetched (.ok (observations, summaries))) =
      (.applied n, s')) :
    f.observations.MovedBy observations observationPageSize s'.observations ∧
      f.summaries.MovedBy summaries summaryPageSize s'.summaries := by
  have fetched : (Call.nextPage f).fetched (.ok (observations, summaries)) =
      .ok (Call.pageOf f.observations observations, Call.pageOf f.summaries summaries) := rfl
  rw [fetched] at applied
  cases current : s.isCurrent f.epoch
  · rw [completeNext_stale current] at applied
    cases applied
  · rw [completeNext_current current] at applied
    -- the cursors are advanced from the captured ones; taking the merged items leaves them
    have taken := (Prod.mk.inj applied).2
    subst taken
    rw [applyNextPage_eq]
    exact ⟨Cursor.movedBy_advance_pageOf _ _ _, Cursor.movedBy_advance_pageOf _ _ _⟩

/-- An applied first page moves both cursors by their pages from offset 0. -/
theorem completeFirst_cursors {s s' : FeedStore} {e : Epoch} {observations summaries : Page}
    {n : Nat} (applied : s.completeFirst e observations summaries = (.applied n, s')) :
    s'.observations.Follows observations 0 observationPageSize ∧
      s'.summaries.Follows summaries 0 summaryPageSize := by
  cases current : s.isCurrent e
  · rw [completeFirst_stale current] at applied
    cases applied
  · rw [completeFirst_current current] at applied
    have taken := (Prod.mk.inj applied).2
    subst taken
    rw [applyFirstPage_eq]
    exact ⟨Cursor.advance_follows _ _ _, Cursor.advance_follows _ _ _⟩

end FeedStore

namespace FeedSystem

/-- An answer that does not come back unknown completes the waiting call it answers. -/
theorem step_answer_eq_finish {c : FeedSystem} {p : Pending} {pages : Except String (Page × Page)}
    {reply : FeedReply} (applied : (c.step (.answer p pages)).1 = reply)
    (answered : reply ≠ .unknownCall) :
    (c.step (.answer p pages)) = { c with calls := c.calls.erase p }.finish p pages := by
  by_cases member : p ∈ c.calls
  · simp only [step, member, ↓reduceIte]
  · simp only [step, member, ↓reduceIte] at applied
    exact absurd applied.symm answered

/-- For every state of the feed and every answer of the backend: an applied next-page load leaves
each cursor it found without more pages exactly as it was, offset and flag, at any offset, and
moves each cursor with more by its page from the offset it had when the load claimed it, counting
the page's items before any is left out; an applied first page moves both cursors by their pages
from offset 0. -/
theorem applied_loads_move_cursors (c : FeedSystem) (p : Pending) (observations summaries : Page)
    (n : Nat) :
    let after := c.step (.answer p (.ok (observations, summaries)))
    (∀ f, p.call = .nextPage f → after.1 = .nextPage (.applied n) →
        f.observations.MovedBy observations observationPageSize after.2.store.observations ∧
          f.summaries.MovedBy summaries summaryPageSize after.2.store.summaries) ∧
      (∀ e, p.call = .firstPage e → after.1 = .firstPage (.applied n) →
        after.2.store.observations.Follows observations 0 observationPageSize ∧
          after.2.store.summaries.Follows summaries 0 summaryPageSize) := by
  intro after
  obtain ⟨call, sentUnder⟩ := p
  refine ⟨?_, ?_⟩
  · rintro f rfl applied
    have finished := step_answer_eq_finish applied (by simp)
    rw [show after = _ from finished, finish_nextPage] at applied ⊢
    simp only [FeedReply.nextPage.injEq] at applied
    exact FeedStore.completeNext_cursors (Prod.ext applied rfl)
  · rintro e rfl applied
    have finished := step_answer_eq_finish applied (by simp)
    rw [show after = _ from finished, finish_firstPage_ok] at applied ⊢
    simp only [FeedReply.firstPage.injEq] at applied
    exact FeedStore.completeFirst_cursors (Prod.ext applied rfl)

end FeedSystem

end MemoryDashboard.Feed
