import MemoryDashboard.Feed.Card
import MemoryDashboard.Proofs.Text.Lower

/-! # What a view's signature sees of its cards

The render cache compares a view by its signature: the filter, the project and, per visible
item, its key, kind and display timestamp, joined with `:` and `|` (`viewSignature`). A card
shows the item's key, a label of its kind and a timestamp (`FeedCard.build`).

The signature does not see every change of the cards. The card's timestamp reads
`created_at` before `created_at_utc`, the signature the other way round, so two items that
differ only in `created_at` sign alike and show different times; and the separators are not
escaped, so an identifier and a timestamp holding them can trade text and sign alike
(`signature_misses_card_changes`). Where an item's kind and signature hold no separator, its
display timestamp no `|`, and its two timestamps do not disagree, equal signatures give equal
cards position by position, and a change of the cards is reported (`signature_tracks_cards`).
Lowering the kind writes no separator (`separator_not_mem_lower`), so entries are read back
by splitting at the first colons.
-/

namespace MemoryDashboard.Feed

open Text

/-- What the signature records of one item. -/
def entry (item : FeedItem) : String := item.key ++ ":" ++ item.kind ++ ":" ++ item.displayTimestamp

/-- What a card shows of the signed fields: key, kind label and timestamp. -/
def FeedCard.shown (card : FeedCard) : String × String × String :=
  (card.key, card.kindLabel, card.timestamp)

/-- An item whose entry reads back: its kind and signature hold no separator, its display
timestamp no `|` (it may hold colons, as times of day do). -/
structure FeedItem.PlainEntry (item : FeedItem) : Prop where
  kind : ∀ c ∈ separators, c ∉ item.kind.toList
  signature : ∀ c ∈ separators, c ∉ item.signature.toList
  timestamp : '|' ∉ item.displayTimestamp.toList

/-- An item whose `created_at` and `created_at_utc` are equal where both are present. -/
def FeedItem.TimestampsAgree (item : FeedItem) : Prop :=
  ∀ a b, item.core.createdAt = some a → item.core.createdAtUtc = some b → a = b

theorem viewSignature_eq (filter : FeedFilter) (project : String) (visible : List FeedItem) :
    viewSignature filter project visible =
      filter.name ++ "|" ++ project ++ "|" ++ "|".intercalate (visible.map entry) := rfl

theorem map_eq_map_of_determined {α β γ : Type} {f : α → β} {g₁ g₂ : α → γ} :
    ∀ {l₁ l₂ : List α}, l₁.map f = l₂.map f →
      (∀ x ∈ l₁, ∀ y ∈ l₂, f x = f y → g₁ x = g₂ y) → l₁.map g₁ = l₂.map g₂
  | [], [], _, _ => rfl
  | [], _ :: _, same, _ => nomatch same
  | _ :: _, [], same, _ => nomatch same
  | x :: l₁, y :: l₂, same, determined => by
      obtain ⟨head, tail⟩ := List.cons.inj same
      rw [List.map_cons, List.map_cons,
        determined x List.mem_cons_self y List.mem_cons_self head,
        map_eq_map_of_determined tail fun x' mx y' my => determined x' (List.mem_cons_of_mem _ mx)
          y' (List.mem_cons_of_mem _ my)]

/-! ### Reading entries back -/

/-- A list split at the first occurrence of a character splits the same way. -/
theorem append_cons_cancel {c : Char} :
    ∀ {a a' b b' : List Char}, c ∉ a → c ∉ a' → a ++ c :: b = a' ++ c :: b' → a = a' ∧ b = b'
  | [], [], _, _, _, _, same => ⟨rfl, (List.cons.inj same).2⟩
  | [], d :: _, _, _, _, absent', same => by
      obtain ⟨rfl, -⟩ := List.cons.inj same
      exact absurd List.mem_cons_self absent'
  | d :: _, [], _, _, absent, _, same => by
      obtain ⟨rfl, -⟩ := List.cons.inj same
      exact absurd List.mem_cons_self absent
  | d :: a, d' :: a', _, _, absent, absent', same => by
      obtain ⟨rfl, rest⟩ := List.cons.inj same
      obtain ⟨rfl, rfl⟩ := append_cons_cancel (fun m => absent (List.mem_cons_of_mem _ m))
        (fun m => absent' (List.mem_cons_of_mem _ m)) rest
      exact ⟨rfl, rfl⟩

theorem colon_mem_separators : ':' ∈ separators := List.mem_cons_self

theorem bar_mem_separators : '|' ∈ separators := List.mem_cons_of_mem _ List.mem_cons_self

theorem entry_toList (item : FeedItem) :
    (entry item).toList = (lower item.kind).toList ++ ':' :: (item.signature.toList ++
      ':' :: (item.kind.toList ++ ':' :: item.displayTimestamp.toList)) := by
  simp [entry, FeedItem.key, String.toList_append]

/-- An entry without separators in kind and signature gives back the key, kind and display
timestamp it was made of. -/
theorem shown_eq_of_entry_eq {x y : FeedItem} (plainX : x.PlainEntry) (plainY : y.PlainEntry)
    (same : entry x = entry y) :
    (x.key, x.kind, x.displayTimestamp) = (y.key, y.kind, y.displayTimestamp) := by
  have lists := congrArg String.toList same
  rw [entry_toList, entry_toList] at lists
  -- split at the first colon three times: after the lowered kind, the signature and the kind
  obtain ⟨lowered, rest⟩ := append_cons_cancel
    (separator_not_mem_lower colon_mem_separators (plainX.kind ':' colon_mem_separators))
    (separator_not_mem_lower colon_mem_separators (plainY.kind ':' colon_mem_separators)) lists
  obtain ⟨signed, rest⟩ := append_cons_cancel (plainX.signature ':' colon_mem_separators)
    (plainY.signature ':' colon_mem_separators) rest
  obtain ⟨kinds, stamps⟩ := append_cons_cancel (plainX.kind ':' colon_mem_separators)
    (plainY.kind ':' colon_mem_separators) rest
  have keys : x.key = y.key := by
    rw [FeedItem.key, FeedItem.key, String.toList_inj.mp lowered, String.toList_inj.mp signed]
  rw [keys, String.toList_inj.mp kinds, String.toList_inj.mp stamps]

theorem bar_not_mem_entry {x : FeedItem} (plain : x.PlainEntry) : '|' ∉ (entry x).toList := by
  rw [entry_toList]
  simp only [List.mem_append, List.mem_cons, not_or]
  exact ⟨separator_not_mem_lower bar_mem_separators (plain.kind '|' bar_mem_separators),
    by decide, plain.signature '|' bar_mem_separators, by decide,
    plain.kind '|' bar_mem_separators, by decide, plain.timestamp⟩

theorem entry_toList_ne_nil (x : FeedItem) : (entry x).toList ≠ [] := by
  rw [entry_toList]
  exact List.append_ne_nil_of_right_ne_nil _ (List.cons_ne_nil _ _)

/-- The entries of plain items are read back from their joined text. -/
theorem entries_eq_of_joined_eq {l₁ l₂ : List FeedItem} (plain₁ : ∀ x ∈ l₁, x.PlainEntry)
    (plain₂ : ∀ x ∈ l₂, x.PlainEntry)
    (same : "|".intercalate (l₁.map entry) = "|".intercalate (l₂.map entry)) :
    l₁.map entry = l₂.map entry := by
  have texts : ∀ l : List FeedItem, (∀ x ∈ l, x.PlainEntry) →
      ∀ text ∈ (l.map entry).map String.toList, '|' ∉ text := by
    intro l plain text member
    simp only [List.map_map, List.mem_map, Function.comp_apply] at member
    obtain ⟨x, mx, rfl⟩ := member
    exact bar_not_mem_entry (plain x mx)
  have bar : "|".toList = ['|'] := rfl
  have lists := congrArg String.toList same
  rw [String.toList_intercalate, String.toList_intercalate, bar] at lists
  have joined := congrArg (List.splitOn '|') lists
  -- splitting gives the entries back, and an empty view splits into one empty text, which is
  -- no entry
  cases l₁ with
  | nil =>
      cases l₂ with
      | nil => rfl
      | cons y l₂ =>
          rw [List.splitOn_intercalate '|' (texts _ plain₂) (by simp)] at joined
          exact absurd (List.cons.inj joined).1.symm (entry_toList_ne_nil y)
  | cons x l₁ =>
      rw [List.splitOn_intercalate '|' (texts _ plain₁) (by simp)] at joined
      cases l₂ with
      | nil => exact absurd (List.cons.inj joined).1 (entry_toList_ne_nil x)
      | cons y l₂ =>
          rw [List.splitOn_intercalate '|' (texts _ plain₂) (by simp)] at joined
          exact (List.map_inj_right fun _ _ texts => String.toList_inj.mp texts).mp joined

/-! ### Cards of items whose timestamps agree -/

theorem timestampText_getD (value : Option String) :
    Time.timestampText value = Time.timestampText (some (value.getD "")) := by
  cases value <;> rfl

/-- The card shows the display timestamp when the item's two timestamps agree. -/
theorem build_timestamp {x : FeedItem} (agree : x.TimestampsAgree) (isNew : Bool)
    (now : Time.Instant) :
    (FeedCard.build x isNew now).timestamp = Time.timestampText (some x.displayTimestamp) := by
  show Time.timestampText _ = _
  rw [timestampText_getD, FeedItem.displayTimestamp]
  cases present : x.core.createdAt with
  | none => simp
  | some a =>
      cases utc : x.core.createdAtUtc with
      | none => simp
      | some b => simp [agree a b present utc]

theorem build_key (x : FeedItem) (isNew : Bool) (now : Time.Instant) :
    (FeedCard.build x isNew now).key = x.key := rfl

theorem shown_build_eq {x y : FeedItem} (agreeX : x.TimestampsAgree) (agreeY : y.TimestampsAgree)
    (same : (x.key, x.kind, x.displayTimestamp) = (y.key, y.kind, y.displayTimestamp))
    (isNewX isNewY : Bool) (now : Time.Instant) :
    (FeedCard.build x isNewX now).shown = (FeedCard.build y isNewY now).shown := by
  obtain ⟨keys, kinds, stamps⟩ :
      x.key = y.key ∧ x.kind = y.kind ∧ x.displayTimestamp = y.displayTimestamp := by
    simpa using same
  have labels : (FeedCard.build x isNewX now).kindLabel = (FeedCard.build y isNewY now).kindLabel := by
    simp only [FeedCard.build, FeedItem.kind] at kinds ⊢
    rw [kinds]
  simp only [FeedCard.shown, build_key, build_timestamp agreeX, build_timestamp agreeY, labels,
    keys, stamps]

/-! ### What the signature misses -/

/-- A discovery with a fixed identifier and `created_at_utc`, created at `createdAt`. -/
def discoveryAt (createdAt : String) : FeedItem :=
  .observation
    { core :=
        { ids := { id := some (.string "1") }, kind := "discovery", createdAt := some createdAt
          createdAtUtc := some "2020-01-01T00:00:00Z" } }

/-- An item without kind, with identifier `id` and both timestamps `stamp`. -/
def stampedAt (id stamp : String) : FeedItem :=
  .observation { core := { ids := { id := some (.string id) }, createdAt := some stamp,
                           createdAtUtc := some stamp } }

/-- The signature misses changes of the cards two ways. Two versions of one discovery that
differ only in `created_at` sign alike, yet their cards show different times. And an identifier
and a timestamp holding the separators can shift text between them: the items `1::2` at `3`
and `1` at `2::3` sign alike, yet their cards have different keys. -/
theorem signature_misses_card_changes :
    (viewSignature .all "" [discoveryAt "2020-01-01T00:00:00Z"] =
        viewSignature .all "" [discoveryAt "2021-06-15T12:30:00Z"] ∧
      (FeedCard.build (discoveryAt "2020-01-01T00:00:00Z") false ⟨0, 0, 0⟩).timestamp ≠
        (FeedCard.build (discoveryAt "2021-06-15T12:30:00Z") false ⟨0, 0, 0⟩).timestamp) ∧
    (viewSignature .all "" [stampedAt "1::2" "3"] = viewSignature .all "" [stampedAt "1" "2::3"] ∧
      (FeedCard.build (stampedAt "1::2" "3") false ⟨0, 0, 0⟩).key ≠
        (FeedCard.build (stampedAt "1" "2::3") false ⟨0, 0, 0⟩).key) := by
  have signed : ∀ id stamp, (stampedAt id stamp).signature = id := fun _ _ => rfl
  have shown : ∀ id stamp, (stampedAt id stamp).displayTimestamp = stamp := fun _ _ => rfl
  have kindless : ∀ id stamp, (stampedAt id stamp).kind = "" := fun _ _ => rfl
  have lowered : lower "" = "" := rfl
  refine ⟨⟨rfl, by decide⟩, ?_, ?_⟩
  · -- both views sign as `all||:1::2::3`
    apply String.toList_inj.mp
    simp only [viewSignature_eq, List.map_cons, List.map_nil, String.toList_append,
      String.toList_intercalate, List.intercalate_singleton, entry_toList, signed, shown, kindless,
      lowered]
    simp
  · intro same
    have keys := congrArg String.toList same
    simp only [build_key, FeedItem.key, String.toList_append, signed, kindless, lowered] at keys
    simp at keys

/-! ### What the signature tracks -/

/-- For items whose kind and signature hold no separator and whose two timestamps agree, equal
signatures give equal cards, position by position, in key, kind label and timestamp; so when
the cards change, the render cache reports the view as changed. -/
theorem signature_tracks_cards {filter : FeedFilter} {project : String} {l₁ l₂ : List FeedItem}
    (plain₁ : ∀ x ∈ l₁, x.PlainEntry ∧ x.TimestampsAgree)
    (plain₂ : ∀ x ∈ l₂, x.PlainEntry ∧ x.TimestampsAgree) (isNew₁ isNew₂ : FeedItem → Bool)
    (now : Time.Instant) :
    (viewSignature filter project l₁ = viewSignature filter project l₂ →
      l₁.map (fun x => (FeedCard.build x (isNew₁ x) now).shown) =
        l₂.map (fun x => (FeedCard.build x (isNew₂ x) now).shown)) ∧
    (l₁.map (fun x => (FeedCard.build x (isNew₁ x) now).shown) ≠
        l₂.map (fun x => (FeedCard.build x (isNew₂ x) now).shown) →
      ((RenderCache.mk (some (viewSignature filter project l₁))).changed
        (viewSignature filter project l₂)).1 = true) := by
  have cards : viewSignature filter project l₁ = viewSignature filter project l₂ →
      l₁.map (fun x => (FeedCard.build x (isNew₁ x) now).shown) =
        l₂.map (fun x => (FeedCard.build x (isNew₂ x) now).shown) := by
    intro same
    have joined : "|".intercalate (l₁.map entry) = "|".intercalate (l₂.map entry) := by
      have lists := congrArg String.toList same
      simp only [viewSignature_eq, String.toList_append] at lists
      exact String.toList_inj.mp (List.append_cancel_left lists)
    have entries := entries_eq_of_joined_eq (fun x mx => (plain₁ x mx).1)
      (fun x mx => (plain₂ x mx).1) joined
    have shown : l₁.map (fun x => (x.key, x.kind, x.displayTimestamp)) =
        l₂.map (fun x => (x.key, x.kind, x.displayTimestamp)) :=
      map_eq_map_of_determined entries fun x mx y my =>
        shown_eq_of_entry_eq (plain₁ x mx).1 (plain₂ y my).1
    exact map_eq_map_of_determined shown fun x mx y my same =>
      shown_build_eq (plain₁ x mx).2 (plain₂ y my).2 same _ _ now
  refine ⟨cards, fun differ => ?_⟩
  have signatures : viewSignature filter project l₁ ≠ viewSignature filter project l₂ :=
    fun same => differ (cards same)
  simp [RenderCache.changed, signatures]

/-- A discovery whose two timestamps agree is plain, and a view of it signs apart from the empty
view, as its card differs from none. -/
theorem settled_discovery_tracked :
    (∀ x ∈ [discoveryAt "2020-01-01T00:00:00Z"], x.PlainEntry ∧ x.TimestampsAgree) ∧
    ((viewSignature .all "" [discoveryAt "2020-01-01T00:00:00Z"] = viewSignature .all "" [] →
        [discoveryAt "2020-01-01T00:00:00Z"].map (fun x => (FeedCard.build x false ⟨0, 0, 0⟩).shown) =
          ([] : List FeedItem).map fun x => (FeedCard.build x false ⟨0, 0, 0⟩).shown) ∧
      ([discoveryAt "2020-01-01T00:00:00Z"].map (fun x => (FeedCard.build x false ⟨0, 0, 0⟩).shown) ≠
          ([] : List FeedItem).map (fun x => (FeedCard.build x false ⟨0, 0, 0⟩).shown) →
        ((RenderCache.mk (some (viewSignature .all "" [discoveryAt "2020-01-01T00:00:00Z"]))).changed
          (viewSignature .all "" [])).1 = true)) := by
  have plain : ∀ x ∈ [discoveryAt "2020-01-01T00:00:00Z"], x.PlainEntry ∧ x.TimestampsAgree := by
    intro x member
    obtain rfl := List.mem_singleton.mp member
    have signed : (discoveryAt "2020-01-01T00:00:00Z").signature = "1" := rfl
    have stamped : (discoveryAt "2020-01-01T00:00:00Z").displayTimestamp = "2020-01-01T00:00:00Z" :=
      rfl
    refine ⟨⟨?_, ?_, ?_⟩, fun a b present utc => ?_⟩
    · simp [separators, discoveryAt, FeedItem.kind, FeedItem.core]
    · simp [separators, signed]
    · simp [stamped]
    · simp only [discoveryAt, FeedItem.core, Option.some.injEq] at present utc
      rw [← present, ← utc]
  exact ⟨plain, signature_tracks_cards plain (fun _ member => absurd member List.not_mem_nil)
    (fun _ => false) (fun _ => false) ⟨0, 0, 0⟩⟩

end MemoryDashboard.Feed
