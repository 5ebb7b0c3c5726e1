import MemoryDashboard.Proofs.Feed.Store

/-! # The feed store under interleaved calls

The store is shared by calls that wait on the backend. A call touches the store only in steps
taken whole (under the store's lock), and between them it waits; meanwhile any other call may
take its steps. A `FeedSystem` is the store together with the calls that wait on the backend,
and two logs kept only to state what happened: the page requests sent, and every item the
backend returned with the request it answered.

An event is what may happen next:

* a call runs to its first wait or to its end: switching projects, a first-page refresh for
  some epoch (the epoch a caller captured, current or not), a next-page load, acknowledging
  or taking keys; loading a first page is a switch followed by a refresh for the epoch then
  current;
* the backend answers a waiting call, with pages or a failure, and the call ends;
* a waiting call is dropped, which releases a next-page load's claim.

Every sequence of events is a run, and a state is reachable when some run reaches it. The
backend's pages are arbitrary; a next-page load asks only the collections that have more, and
a collection it does not ask gives the exhausted page, as `nextPageOf` does.
-/

namespace MemoryDashboard.Feed

/-- The two collections the feed is read from. -/
inductive Collection where
  | observations
  | summaries
  deriving DecidableEq, Repr

/-- A page request sent to the backend: what it asks, and the store's epoch when it was sent. -/
structure PageRequest where
  collection : Collection
  project : String
  limit : Nat
  offset : Nat
  sentUnder : Epoch
  deriving DecidableEq, Repr

/-- What a waiting call goes on with once the backend answers. -/
inductive Call where
  /-- A first-page refresh for an epoch. -/
  | firstPage (epoch : Epoch)
  /-- A next-page load that claimed the load. -/
  | nextPage (fetch : NextFetch)
  deriving DecidableEq, Repr

namespace Call

/-- The epoch a call checks its pages against. -/
def epoch : Call → Epoch
  | .firstPage e => e
  | .nextPage f => f.epoch

/-- Whether the call is a next-page load. -/
def isNextPage : Call → Bool
  | .firstPage _ => false
  | .nextPage _ => true

/-- The page size and offset a call asks of a collection, if it asks it: a first-page refresh
asks both collections from the start, a next-page load each collection that has more, from
its cursor. -/
def asks : Call → Collection → Option (Nat × Nat)
  | .firstPage _, .observations => some (observationPageSize, 0)
  | .firstPage _, .summaries => some (summaryPageSize, 0)
  | .nextPage f, .observations =>
    if f.observations.hasMore then some (observationPageSize, f.observations.offset) else none
  | .nextPage f, .summaries =>
    if f.summaries.hasMore then some (summaryPageSize, f.summaries.offset) else none

/-- The page of a collection a load sees: the backend's page when it asked, else the exhausted
page of the cursor. -/
def pageOf (c : Cursor) (page : Page) : Page := if c.hasMore then page else Page.exhausted c.offset

/-- What a call's fetch gives when the backend answers its requests with `pages`. -/
def fetched : Call → Except String (Page × Page) → Except String (Page × Page)
  | .firstPage _, pages => pages
  | .nextPage f, pages =>
    pages.map fun (observations, summaries) =>
      (pageOf f.observations observations, pageOf f.summaries summaries)

/-- What dropping a waiting call does to the store: a next-page load's claim is released. -/
def dropFrom : Call → FeedStore → FeedStore
  | .firstPage _, s => s
  | .nextPage _, s => s.releaseLoad

end Call

/-- A call waiting on the backend, with the store's epoch when it sent its requests. -/
structure Pending where
  call : Call
  sentUnder : Epoch
  deriving DecidableEq, Repr

/-- The items a page returns for a request, each with the request. -/
def returnedFor : Option PageRequest → Page → List (PageRequest × FeedItem)
  | some r, page => page.items.map (r, ·)
  | none, _ => []

namespace Pending

/-- The request a waiting call sent for a collection, if it asked it. -/
def request (p : Pending) (collection : Collection) : Option PageRequest :=
  (p.call.asks collection).map fun (limit, offset) =>
    ⟨collection, p.call.epoch.project, limit, offset, p.sentUnder⟩

/-- The requests a call sends. -/
def requests (p : Pending) : List PageRequest :=
  (p.request .observations).toList ++ (p.request .summaries).toList

/-- The items a fetch returned, each with the request it answered. -/
def returns (p : Pending) : Except String (Page × Page) → List (PageRequest × FeedItem)
  | .ok (observations, summaries) =>
    returnedFor (p.request .observations) observations ++
      returnedFor (p.request .summaries) summaries
  | .error _ => []

end Pending

/-- The feed store, the calls waiting on the backend (oldest first), the page requests sent and
the items returned, each with its request. -/
structure FeedSystem where
  store : FeedStore := {}
  calls : List Pending := []
  sent : List PageRequest := []
  returned : List (PageRequest × FeedItem) := []

/-- What may happen next. -/
inductive FeedEvent where
  | setProject (project : String)
  /-- A first-page refresh for an epoch starts. -/
  | refreshFirstPage (epoch : Epoch)
  /-- A next-page load starts. -/
  | loadNextPage
  /-- The backend answers a waiting call. -/
  | answer (waiting : Pending) (pages : Except String (Page × Page))
  /-- A waiting call is dropped. -/
  | drop (waiting : Pending)
  | acknowledge (keys : List String)
  | takeNewKeys

/-- What a step answers. -/
inductive FeedReply where
  /-- Whether a switch changed the project. -/
  | switched (changed : Bool)
  /-- The call now waits on the backend. -/
  | waiting
  | firstPage (outcome : FirstPageOutcome)
  | nextPage (outcome : NextPageOutcome)
  /-- A first-page refresh whose fetch failed. -/
  | failed
  | dropped
  | acknowledged (count : Nat)
  | taken (keys : List String)
  /-- No such call waits. -/
  | unknownCall
  deriving DecidableEq

namespace FeedSystem

/-- A call sends its requests under the store's epoch and starts waiting. -/
def start (c : FeedSystem) (call : Call) : FeedSystem :=
  let p : Pending := ⟨call, c.store.epoch⟩
  { c with calls := c.calls ++ [p], sent := c.sent ++ p.requests }

/-- A waiting call ends with the backend's answer, which is logged. -/
def finish (c : FeedSystem) (p : Pending) (pages : Except String (Page × Page)) :
    FeedReply × FeedSystem :=
  let fetched := p.call.fetched pages
  let c := { c with returned := c.returned ++ p.returns fetched }
  match p.call, fetched with
  | .firstPage e, .ok (observations, summaries) =>
    let (outcome, store) := c.store.completeFirst e observations summaries
    (.firstPage outcome, { c with store })
  | .firstPage _, .error _ => (.failed, c)
  | .nextPage f, fetched =>
    let (outcome, store) := c.store.completeNext f fetched
    (.nextPage outcome, { c with store })

/-- One step. -/
def step (c : FeedSystem) : FeedEvent → FeedReply × FeedSystem
  | .setProject project =>
    let (changed, store) := c.store.withProject project
    (.switched changed, { c with store })
  | .refreshFirstPage e =>
    if c.store.isCurrent e then (.waiting, c.start (.firstPage e)) else (.firstPage .stale, c)
  | .loadNextPage =>
    match c.store.claimNext with
    | (some f, store) => (.waiting, { c with store }.start (.nextPage f))
    | (none, _) => (.nextPage .skipped, c)
  | .answer p pages =>
    if p ∈ c.calls then { c with calls := c.calls.erase p }.finish p pages
    else (.unknownCall, c)
  | .drop p =>
    if p ∈ c.calls then
      (.dropped, { c with calls := c.calls.erase p, store := p.call.dropFrom c.store })
    else (.unknownCall, c)
  | .acknowledge keys =>
    let (count, store) := c.store.acknowledge keys
    (.acknowledged count, { c with store })
  | .takeNewKeys =>
    let (keys, store) := c.store.takeNewKeys
    (.taken keys, { c with store })

/-- The state after a sequence of events. -/
def run (c : FeedSystem) (events : List FeedEvent) : FeedSystem :=
  events.foldl (fun c event => (c.step event).2) c

/-- The states some run reaches from a new store with no call waiting. -/
inductive Reachable : FeedSystem → Prop
  | initial : Reachable {}
  | step {c : FeedSystem} (reachable : Reachable c) (event : FeedEvent) :
      Reachable (c.step event).2

theorem Reachable.run {c : FeedSystem} (reachable : c.Reachable) (events : List FeedEvent) :
    (c.run events).Reachable := by
  induction events generalizing c with
  | nil => exact reachable
  | cons event rest ih => exact ih (reachable.step event)

/-! ### What one step changes -/

@[simp]
theorem start_store (c : FeedSystem) (call : Call) : (c.start call).store = c.store := rfl

@[simp]
theorem start_calls (c : FeedSystem) (call : Call) :
    (c.start call).calls = c.calls ++ [⟨call, c.store.epoch⟩] := rfl

@[simp]
theorem start_sent (c : FeedSystem) (call : Call) :
    (c.start call).sent = c.sent ++ (Pending.mk call c.store.epoch).requests := rfl

@[simp]
theorem start_returned (c : FeedSystem) (call : Call) : (c.start call).returned = c.returned := rfl

/-- Ending a first-page refresh with pages completes it against the store. -/
theorem finish_firstPage_ok (c : FeedSystem) (e sentUnder : Epoch) (observations summaries : Page) :
    c.finish ⟨.firstPage e, sentUnder⟩ (.ok (observations, summaries)) =
      (.firstPage (c.store.completeFirst e observations summaries).1,
        { c with
            store := (c.store.completeFirst e observations summaries).2
            returned :=
              c.returned ++ Pending.returns ⟨.firstPage e, sentUnder⟩ (.ok (observations, summaries)) }) :=
  rfl

theorem finish_firstPage_error (c : FeedSystem) (e sentUnder : Epoch) (message : String) :
    c.finish ⟨.firstPage e, sentUnder⟩ (.error message) = (.failed, c) := by
  simp [finish, Call.fetched, Pending.returns]

/-- Ending a next-page load completes it against the store with what its fetch gave. -/
theorem finish_nextPage (c : FeedSystem) (f : NextFetch) (sentUnder : Epoch)
    (pages : Except String (Page × Page)) :
    c.finish ⟨.nextPage f, sentUnder⟩ pages =
      (.nextPage (c.store.completeNext f ((Call.nextPage f).fetched pages)).1,
        { c with
            store := (c.store.completeNext f ((Call.nextPage f).fetched pages)).2
            returned :=
              c.returned ++ Pending.returns ⟨.nextPage f, sentUnder⟩ ((Call.nextPage f).fetched pages) }) :=
  rfl

/-- Ending a waiting call changes the store and logs what the backend returned; the waiting
calls and the requests sent stay as they were. -/
theorem finish_frame (c : FeedSystem) (p : Pending) (pages : Except String (Page × Page)) :
    (c.finish p pages).2 =
      { c with store := (c.finish p pages).2.store
               returned := c.returned ++ p.returns (p.call.fetched pages) } := by
  obtain ⟨call, sentUnder⟩ := p
  cases call with
  | firstPage e =>
      rcases pages with message | ⟨observations, summaries⟩
      · rw [finish_firstPage_error]
        simp [Pending.returns, Call.fetched]
      · rw [finish_firstPage_ok]
        rfl
  | nextPage f => rw [finish_nextPage]

theorem finish_calls (c : FeedSystem) (p : Pending) (pages : Except String (Page × Page)) :
    (c.finish p pages).2.calls = c.calls := by
  rw [finish_frame]

theorem finish_sent (c : FeedSystem) (p : Pending) (pages : Except String (Page × Page)) :
    (c.finish p pages).2.sent = c.sent := by
  rw [finish_frame]

theorem finish_returned (c : FeedSystem) (p : Pending) (pages : Except String (Page × Page)) :
    (c.finish p pages).2.returned = c.returned ++ p.returns (p.call.fetched pages) := by
  rw [finish_frame]

theorem finish_store (c : FeedSystem) (p : Pending) (pages : Except String (Page × Page)) :
    FeedStore.KeepingStep c.store (c.finish p pages).2.store := by
  obtain ⟨call, sentUnder⟩ := p
  cases call with
  | firstPage e =>
      rcases pages with message | ⟨observations, summaries⟩
      · rw [finish_firstPage_error]
        exact .same _
      · rw [finish_firstPage_ok]
        exact .completeFirst _ _ _ _
  | nextPage f =>
      rw [finish_nextPage]
      exact .completeNext _ _ _

/-- Every step changes the store by a switch of project or by one of the store's other steps. -/
theorem step_store (c : FeedSystem) (event : FeedEvent) :
    (∃ project, event = .setProject project ∧
        (c.step event).2.store = (c.store.withProject project).2) ∨
      FeedStore.KeepingStep c.store (c.step event).2.store := by
  cases event with
  | setProject project => exact .inl ⟨project, rfl, rfl⟩
  | refreshFirstPage e =>
      refine .inr ?_
      by_cases current : c.store.isCurrent e = true
      · simp only [step, current, ↓reduceIte, start_store]
        exact .same _
      · simp only [step, current, Bool.false_eq_true, ↓reduceIte]
        exact .same _
  | loadNextPage =>
      refine .inr ?_
      rcases FeedStore.claimNext_cases c.store with ⟨claimed, -⟩ | ⟨-, -, claimed⟩
      · simp only [step, claimed]
        exact .same _
      · have next := FeedStore.KeepingStep.claimNext c.store
        rw [claimed] at next
        simpa only [step, claimed, start_store] using next
  | answer p pages =>
      refine .inr ?_
      by_cases waiting : p ∈ c.calls
      · simp only [step, waiting, ↓reduceIte]
        exact finish_store { c with calls := c.calls.erase p } p pages
      · simp only [step, waiting, ↓reduceIte]
        exact .same _
  | drop p =>
      refine .inr ?_
      by_cases waiting : p ∈ c.calls
      · simp only [step, waiting, ↓reduceIte]
        obtain ⟨call, sentUnder⟩ := p
        cases call with
        | firstPage e => exact .same _
        | nextPage f => exact .releaseLoad _
      · simp only [step, waiting, ↓reduceIte]
        exact .same _
  | acknowledge keys => exact .inr (.acknowledge _ keys)
  | takeNewKeys => exact .inr (.takeNewKeys _)

/-- Only the backend's answer to a waiting call takes pages in: a step that answers with an
applied outcome ends that call. -/
theorem step_applied {c : FeedSystem} {event : FeedEvent} {n : Nat}
    (applied : (c.step event).1 = .firstPage (.applied n) ∨
      (c.step event).1 = .nextPage (.applied n)) :
    ∃ p pages, p ∈ c.calls ∧ c.step event = { c with calls := c.calls.erase p }.finish p pages := by
  cases event with
  | answer p pages =>
      by_cases waiting : p ∈ c.calls
      · exact ⟨p, pages, waiting, by simp only [step, waiting, ↓reduceIte]⟩
      · simp [step, waiting] at applied
  | refreshFirstPage e =>
      simp only [step] at applied
      split at applied <;> simp at applied
  | loadNextPage =>
      rcases FeedStore.claimNext_cases c.store with ⟨claimed, -⟩ | ⟨-, -, claimed⟩
      · simp [step, claimed] at applied
      · simp [step, claimed] at applied
  | drop p =>
      simp only [step] at applied
      split at applied <;> simp at applied
  | setProject project => simp [step] at applied
  | acknowledge keys => simp [step] at applied
  | takeNewKeys => simp [step] at applied

/-- A step keeps the epoch and every held key, unless it switches to another project. -/
theorem step_keeps_or_switches (c : FeedSystem) (event : FeedEvent) :
    FeedStore.Keeps c.store (c.step event).2.store ∨
      ∃ project, event = .setProject project ∧ c.store.project ≠ project ∧
        (c.step event).2.store = (c.store.withProject project).2 := by
  rcases step_store c event with ⟨project, rfl, switched⟩ | keeping
  · by_cases same : c.store.project = project
    · left
      rw [switched, FeedStore.withProject_of_eq same]
      exact FeedStore.Keeps.refl _
    · exact .inr ⟨project, rfl, same, switched⟩
  · exact .inl keeping.keeps

/-- The generation never goes back. -/
theorem generation_le_step (c : FeedSystem) (event : FeedEvent) :
    c.store.generation ≤ (c.step event).2.store.generation := by
  rcases step_keeps_or_switches c event with keeps | ⟨project, -, other, switched⟩
  · exact keeps.generation.ge
  · rw [switched, FeedStore.withProject_of_ne other]
    exact Nat.le_succ _

theorem generation_le_run (c : FeedSystem) (events : List FeedEvent) :
    c.store.generation ≤ (c.run events).store.generation := by
  induction events generalizing c with
  | nil => exact le_rfl
  | cons event rest ih => exact (generation_le_step c event).trans (ih _)

/-- A step that keeps the generation keeps the epoch and every held key. -/
theorem keeps_of_generation {c : FeedSystem} {event : FeedEvent}
    (same : (c.step event).2.store.generation = c.store.generation) :
    FeedStore.Keeps c.store (c.step event).2.store := by
  rcases step_keeps_or_switches c event with keeps | ⟨project, -, other, switched⟩
  · exact keeps
  · simp [switched, FeedStore.withProject_of_ne other] at same

/-- A run that ends in the generation it started in keeps every held key: the generation never
goes back, so every step of the run keeps it. -/
theorem keeps_run {c : FeedSystem} {events : List FeedEvent}
    (same : (c.run events).store.generation = c.store.generation) :
    FeedStore.Keeps c.store (c.run events).store := by
  induction events generalizing c with
  | nil => exact FeedStore.Keeps.refl _
  | cons event rest ih =>
      have later := generation_le_run (c.step event).2 rest
      have first : (c.step event).2.store.generation = c.store.generation :=
        le_antisymm (later.trans_eq same) (generation_le_step c event)
      exact (keeps_of_generation first).trans (ih (same.trans first.symm))

theorem coherent_step {c : FeedSystem} (coherent : c.store.Coherent) (event : FeedEvent) :
    (c.step event).2.store.Coherent := by
  rcases step_store c event with ⟨project, -, switched⟩ | keeping
  · rw [switched]
    exact coherent.withProject project
  · exact keeping.coherent coherent

end FeedSystem

end MemoryDashboard.Feed
