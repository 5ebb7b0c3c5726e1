import MemoryDashboard.Feed.Item
import MemoryDashboard.Proofs.Json.Canonical

/-! # Feed items survive being written and read again

An item is written as one object of its shared fields and its variant's own, leaving out
absent identifiers and timestamps and null free-form values (`FeedItem.toJson`). It is read
through a record that accepts more than the writer produces: tags and files as text, metadata
under a second name, a kind in any case (`ItemRecord.decoder`).

Every item the decoder gives is `Decodable`: its identifiers are not null, its free-form values
are canonical, and its variant is the one its kind names (`decodable_of_decoder`). Writing a
decodable item and reading it again gives it back (`decode_toJson`), so decoding undoes
encoding on everything decoding produces (`decode_reencoded`).
-/

namespace MemoryDashboard.Feed

open Json Json.Decode

/-- An identifier as decoding leaves it: absent, or a canonical value that is not null. -/
def IdDecoded (id : Option Json) : Prop := ∀ v, id = some v → v ≠ .null ∧ Canonical v

/-- Identifiers as decoding leaves them. -/
structure ItemIds.Decoded (ids : ItemIds) : Prop where
  id : IdDecoded ids.id
  memoryId : IdDecoded ids.memoryId
  observationId : IdDecoded ids.observationId
  sessionId : IdDecoded ids.sessionId

/-- What decoding gives: identifiers that are not null, canonical free-form values, and the
variant its kind names. -/
structure FeedItem.Decodable (x : FeedItem) : Prop where
  ids : x.core.ids.Decoded
  metadata : Canonical x.core.metadata
  variant : x.isSummary = ItemRecord.equalsIgnoringAsciiCase x.kind summaryKind
  payload : match x with
    | .observation o => Canonical o.facts
    | .summary s => Canonical s.summary

/-! ### The members an item is written with -/

/-- Each member an item may be written with, under its name, `none` where it is left out. -/
def wireTable (x : FeedItem) : List (String × Option Json) :=
  let c := x.core
  [("id", c.ids.id), ("memory_id", c.ids.memoryId), ("observation_id", c.ids.observationId),
    ("session_id", c.ids.sessionId), ("kind", some (.str c.kind)), ("title", some (.str c.title)),
    ("body_text", some (.str c.bodyText)), ("project", some (.str c.project)),
    ("created_at", c.createdAt.map .str), ("created_at_utc", c.createdAtUtc.map .str),
    ("metadata_json", if c.metadata.isNull then none else some c.metadata)] ++
  match x with
  | .observation o =>
    [("tags", some (.array (o.tags.map .str))), ("files", some (.array (o.files.map .str))),
      ("subtitle", o.subtitle.map .str), ("narrative", o.narrative.map .str),
      ("facts", if o.facts.isNull then none else some o.facts)]
  | .summary s => [("summary", if s.summary.isNull then none else some s.summary)]

/-- The members of a table that are written. -/
def written (table : List (String × Option Json)) : List (String × Json) :=
  table.filterMap fun p => p.2.map (p.1, ·)

@[simp]
theorem written_nil : written [] = [] := rfl

@[simp]
theorem written_cons (p : String × Option Json) (rest : List (String × Option Json)) :
    written (p :: rest) = (p.2.map (p.1, ·)).toList ++ written rest := by
  obtain ⟨k, o⟩ := p
  cases o <;> rfl

private theorem idMembers_eq_written (ids : ItemIds) :
    FeedItem.idMembers ids = written [("id", ids.id), ("memory_id", ids.memoryId),
      ("observation_id", ids.observationId), ("session_id", ids.sessionId)] := rfl

/-- An item is written as the members of its table. -/
theorem toJson_eq_written (x : FeedItem) : x.toJson = Json.obj (written (wireTable x)) := by
  cases x with
  | observation o =>
      simp only [FeedItem.toJson, FeedItem.coreMembers, idMembers_eq_written, wireTable,
        FeedItem.core, written_cons, written_nil]
      split_ifs <;> simp [*, Function.comp_def]
  | summary s =>
      simp only [FeedItem.toJson, FeedItem.coreMembers, idMembers_eq_written, wireTable,
        FeedItem.core, written_cons, written_nil]
      split_ifs <;> simp [*, Function.comp_def]

/-! ### Looking members up in the written object -/

private theorem lookup_eq_none_of_not_mem {β : Type} {l : List (String × β)} {k : String}
    (absent : k ∉ l.map Prod.fst) : l.lookup k = none :=
  List.lookup_eq_none_iff.mpr fun p member =>
    bne_iff_ne.mpr fun same => absent (List.mem_map.mpr ⟨p, member, same.symm⟩)

/-- With each key once, the last value under a key is the first. -/
theorem lookup_reverse {β : Type} {l : List (String × β)} (distinct : (l.map Prod.fst).Nodup)
    (k : String) : l.reverse.lookup k = l.lookup k := by
  induction l with
  | nil => rfl
  | cons p rest ih =>
      obtain ⟨key, value⟩ := p
      obtain ⟨fresh, restDistinct⟩ := List.nodup_cons.mp distinct
      rw [List.reverse_cons, List.lookup_append, ih restDistinct]
      by_cases same : k = key
      · subst same
        simp [lookup_eq_none_of_not_mem fresh]
      · simp [lookup_cons_ne _ _ same]

theorem written_keys_sublist (table : List (String × Option Json)) :
    ((written table).map Prod.fst).Sublist (table.map Prod.fst) := by
  induction table with
  | nil => exact List.Sublist.slnil
  | cons p rest ih =>
      obtain ⟨k, o⟩ := p
      cases o with
      | none => exact ih.cons k
      | some v => exact ih.cons_cons k

theorem lookup_written {table : List (String × Option Json)} (distinct : (table.map Prod.fst).Nodup)
    (k : String) : (written table).lookup k = (table.lookup k).join := by
  induction table with
  | nil => rfl
  | cons p rest ih =>
      obtain ⟨key, o⟩ := p
      obtain ⟨fresh, restDistinct⟩ := List.nodup_cons.mp distinct
      by_cases same : k = key
      · subst same
        have unwritten : (written rest).lookup k = none :=
          lookup_eq_none_of_not_mem fun member => fresh ((written_keys_sublist rest).subset member)
        cases o <;> simp [unwritten]
      · cases o <;> simp [lookup_cons_ne _ _ same, ih restDistinct]

/-- The names an observation is written under, when present. -/
def observationNames : List String :=
  ["id", "memory_id", "observation_id", "session_id", "kind", "title", "body_text", "project",
    "created_at", "created_at_utc", "metadata_json", "tags", "files", "subtitle", "narrative",
    "facts"]

/-- The names a summary is written under, when present. -/
def summaryNames : List String :=
  ["id", "memory_id", "observation_id", "session_id", "kind", "title", "body_text", "project",
    "created_at", "created_at_utc", "metadata_json", "summary"]

theorem wireTable_keys (x : FeedItem) :
    (wireTable x).map Prod.fst = match x with
      | .observation _ => observationNames
      | .summary _ => summaryNames := by
  cases x <;> rfl

theorem wireTable_keys_nodup (x : FeedItem) : ((wireTable x).map Prod.fst).Nodup := by
  rw [wireTable_keys]
  cases x <;> dsimp only <;> decide

/-- The members of an item's written object, sorted by name. -/
abbrev wireMembers (x : FeedItem) : Members := Members.ofList (written (wireTable x))

/-- A member of the written object is what the table holds under its name. -/
theorem lookup_wireMembers (x : FeedItem) (k : String) :
    (wireMembers x).lookup k = ((wireTable x).lookup k).join := by
  have distinct := (written_keys_sublist (wireTable x)).nodup (wireTable_keys_nodup x)
  rw [Members.lookup_ofList, lookup_reverse distinct, lookup_written (wireTable_keys_nodup x)]

theorem mem_wireMembers {x : FeedItem} {p : String × Json} (member : p ∈ wireMembers x) :
    (p.1, some p.2) ∈ wireTable x := by
  obtain ⟨⟨k, o⟩, inTable, written⟩ := List.mem_filterMap.mp (Members.mem_ofList member)
  obtain ⟨v, rfl, rfl⟩ := Option.map_eq_some_iff.mp written
  exact inTable

/-! ### The record rules accept the written members -/

/-- Every name an item may be written under. -/
def wireNames : List String := observationNames ++ ["summary"]

/-- The names read as optional text. -/
def textNames : List String :=
  ["kind", "title", "body_text", "project", "created_at", "created_at_utc", "subtitle", "narrative"]

theorem wireTable_names (x : FeedItem) : ∀ k ∈ (wireTable x).map Prod.fst, k ∈ wireNames := by
  rw [wireTable_keys]
  cases x <;> dsimp only <;> decide

/-- Whatever an item writes under a text name is text. -/
theorem wireTable_text (x : FeedItem) :
    ∀ k ∈ textNames, ∀ v, ((wireTable x).lookup k).join = some v → ∃ s, v = .string s := by
  intro k member v written
  simp only [textNames, List.mem_cons, List.not_mem_nil, or_false] at member
  rcases member with rfl | rfl | rfl | rfl | rfl | rfl | rfl | rfl <;>
    cases x <;> simp [wireTable, List.lookup_cons, Json.str] at written <;> grind

/-- Each name an item is written under is read by the rule of that name, or by none. -/
theorem ruleFor_wireName : ∀ k ∈ wireNames, ∀ r, ruleFor? ItemRecord.rules k = some r → r.name = k := by
  have checked : wireNames.all (fun k => ((ruleFor? ItemRecord.rules k).map FieldRule.name).all (· == k)) =
      true := by decide
  intro k member r rule
  have := List.all_eq_true.mp checked k member
  simpa [rule] using this

theorem check_text : ∀ r ∈ ItemRecord.rules, ∀ s, r.check (Located.ofJson (.string s)) = .ok () := by
  intro r member s
  simp only [ItemRecord.rules, List.mem_cons, List.not_mem_nil, or_false] at member
  rcases member with rfl | rfl | rfl | rfl | rfl | rfl | rfl | rfl | rfl | rfl | rfl | rfl | rfl <;>
    rfl

/-- The rules of the names that are not text read any value in full. -/
theorem check_other : ∀ r ∈ ItemRecord.rules, r.name ∉ textNames →
    ∀ v, r.check (Located.ofJson v) = .ok () := by
  intro r member named v
  simp only [ItemRecord.rules, List.mem_cons, List.not_mem_nil, or_false] at member
  rcases member with rfl | rfl | rfl | rfl | rfl | rfl | rfl | rfl | rfl | rfl | rfl | rfl | rfl <;>
    simp [FieldRule.of, textNames, value_ofJson, Except.map] at named ⊢

theorem lookup_of_mem {β : Type} {l : List (String × β)} (distinct : (l.map Prod.fst).Nodup)
    {p : String × β} (member : p ∈ l) : l.lookup p.1 = some p.2 := by
  induction l with
  | nil => cases member
  | cons q rest ih =>
      obtain ⟨key, value⟩ := q
      obtain ⟨fresh, restDistinct⟩ := List.nodup_cons.mp distinct
      rcases List.mem_cons.mp member with rfl | inRest
      · simp
      · have other : p.1 ≠ key := fun same => fresh (List.mem_map.mpr ⟨p, inRest, same⟩)
        rw [lookup_cons_ne _ _ other]
        exact ih restDistinct inRest

theorem wireMembers_distinct (x : FeedItem) : ((wireMembers x).map Prod.fst).Nodup :=
  (Members.ofList_ascending _).imp ne_of_lt

/-- The members an item is written with fit the rules of an item record. -/
theorem wireMembers_fit (x : FeedItem) : MembersFit ItemRecord.rules complete (wireMembers x) where
  named p member :=
    ruleFor_wireName p.1 (wireTable_names x p.1 (List.mem_map_of_mem (mem_wireMembers member)))
  passes p member r rule := by
    have ruled : r ∈ ItemRecord.rules := List.mem_of_find?_eq_some rule
    have name := ruleFor_wireName p.1
      (wireTable_names x p.1 (List.mem_map_of_mem (mem_wireMembers member))) r rule
    by_cases text : p.1 ∈ textNames
    · have found : ((wireTable x).lookup p.1).join = some p.2 := by
        rw [← lookup_wireMembers, lookup_of_mem (wireMembers_distinct x) member]
      obtain ⟨s, written⟩ := wireTable_text x p.1 text p.2 found
      rw [written]
      exact check_text r ruled s
    · exact check_other r ruled (name ▸ text) p.2
  skipped p _ _ := complete_ofJson p.2

theorem keepingRecord_wire (x : FeedItem) :
    keepingRecord "RawFeedItem" ItemRecord.rules false (Located.ofJson (.object (wireMembers x))) =
      .ok (fieldsOf ItemRecord.rules (wireMembers x)) :=
  recordWith_ofJson_object "RawFeedItem" false (wireMembers x) (wireMembers_distinct x)
    (wireMembers_fit x) (by decide)

/-- A field read as optional text is the text written under its name. -/
theorem readOption_wire (x : FeedItem) {name : String} (text : name ∈ textNames) :
    (fieldsOf ItemRecord.rules (wireMembers x)).readOption name string =
      .ok (((wireTable x).lookup name).join.bind Json.asString?) := by
  have hasRule : (ruleFor? ItemRecord.rules name).isSome := by
    simp only [textNames, List.mem_cons, List.not_mem_nil, or_false] at text
    rcases text with rfl | rfl | rfl | rfl | rfl | rfl | rfl | rfl <;> decide
  rw [Fields.readOption, Fields.read, lookup_fieldsOf _ hasRule, lookup_wireMembers]
  cases found : ((wireTable x).lookup name).join with
  | none => rfl
  | some v =>
      obtain ⟨s, rfl⟩ := wireTable_text x name text v found
      rfl

/-- A free-form field is the value written under its name as reading gives it back, `null`
when nothing is written. -/
theorem read_wire (x : FeedItem) {name : String} (hasRule : (ruleFor? ItemRecord.rules name).isSome) :
    (fieldsOf ItemRecord.rules (wireMembers x)).read name value .null =
      .ok ((((wireTable x).lookup name).join.map fun v => (Located.ofJson v).toJson).getD .null) := by
  rw [Fields.read, lookup_fieldsOf _ hasRule, lookup_wireMembers]
  cases ((wireTable x).lookup name).join with
  | none => rfl
  | some v =>
      simp only [Option.map_some, value_ofJson]
      rfl

/-- An identifier of members held in memory is the first value under its name as reading gives
it back, unless that is `null`. -/
theorem idValue_ofMembers (members : Members) (key : String) :
    ItemRecord.idValue (Located.ofMembers members) key =
      (members.lookup key).bind fun v =>
        if (Located.ofJson v).toJson.isNull then none else some (Located.ofJson v).toJson := by
  induction members with
  | nil => rfl
  | cons p rest ih =>
      obtain ⟨k, v⟩ := p
      rw [ItemRecord.idValue] at ih ⊢
      by_cases same : key = k
      · subst same
        simp only [Located.ofMembers, List.map_cons, List.lookup_cons_self, Option.bind_some]
        cases (Located.ofJson v).toJson <;> rfl
      · simpa [Located.ofMembers, lookup_cons_ne _ _ same] using ih

theorem idValue_wire (x : FeedItem) (key : String) :
    ItemRecord.idValue (Located.ofMembers (wireMembers x)) key =
      ((wireTable x).lookup key).join.bind fun v =>
        if (Located.ofJson v).toJson.isNull then none else some (Located.ofJson v).toJson := by
  rw [idValue_ofMembers, lookup_wireMembers]

/-- The record an item's written object reads as, field by field from what is written. -/
def wireRecord (x : FeedItem) : ItemRecord :=
  let written (name : String) : Option Json := ((wireTable x).lookup name).join
  let text (name : String) : Option String := (written name).bind Json.asString?
  let free (name : String) : Json := ((written name).map fun v => (Located.ofJson v).toJson).getD .null
  let ident (name : String) : Option Json := (written name).bind fun v =>
    if (Located.ofJson v).toJson.isNull then none else some (Located.ofJson v).toJson
  { ids := { id := ident "id", memoryId := ident "memory_id", observationId := ident "observation_id"
             sessionId := ident "session_id" }
    kind := text "kind", title := text "title", bodyText := text "body_text"
    project := text "project", createdAt := text "created_at", createdAtUtc := text "created_at_utc"
    metadata := free "metadata_json", tags := free "tags", files := free "files"
    subtitle := text "subtitle", narrative := text "narrative", facts := free "facts"
    summary := free "summary" }

/-- Reading an item's written object gives its record. -/
theorem decoder_toJson (x : FeedItem) :
    ItemRecord.decoder (Located.ofJson x.toJson) = .ok (wireRecord x) := by
  rw [toJson_eq_written]
  unfold ItemRecord.decoder
  -- the reads first, while the object is still the written one they are stated about
  simp only [Json.obj, keepingRecord_wire, ok_bind,
    readOption_wire x (by decide : "kind" ∈ textNames),
    readOption_wire x (by decide : "title" ∈ textNames),
    readOption_wire x (by decide : "body_text" ∈ textNames),
    readOption_wire x (by decide : "project" ∈ textNames),
    readOption_wire x (by decide : "created_at" ∈ textNames),
    readOption_wire x (by decide : "created_at_utc" ∈ textNames),
    readOption_wire x (by decide : "subtitle" ∈ textNames),
    readOption_wire x (by decide : "narrative" ∈ textNames),
    read_wire x (by decide : (ruleFor? ItemRecord.rules "metadata_json").isSome),
    read_wire x (by decide : (ruleFor? ItemRecord.rules "tags").isSome),
    read_wire x (by decide : (ruleFor? ItemRecord.rules "files").isSome),
    read_wire x (by decide : (ruleFor? ItemRecord.rules "facts").isSome),
    read_wire x (by decide : (ruleFor? ItemRecord.rules "summary").isSome)]
  simp only [Located.ofJson, idValue_wire]
  rfl

/-! ### Reading a decodable item back -/

theorem isNull_iff {v : Json} : v.isNull = true ↔ v = .null := by
  cases v <;> simp [Json.isNull]

theorem ident_readBack {id : Option Json} (decoded : IdDecoded id) :
    (id.bind fun v =>
      if (Located.ofJson v).toJson.isNull then none else some (Located.ofJson v).toJson) = id := by
  cases id with
  | none => rfl
  | some v =>
      obtain ⟨notNull, canonical⟩ := decoded v rfl
      have present : v.isNull = false := by
        rw [Bool.eq_false_iff]
        exact fun null => notNull (isNull_iff.mp null)
      simp [toJson_ofJson canonical, present]

/-- A canonical free-form value reads back as itself, `null` included. -/
theorem free_readBack {m : Json} (canonical : Canonical m) :
    ((if m.isNull then none else some m).map fun v => (Located.ofJson v).toJson).getD .null = m := by
  by_cases null : m.isNull
  · obtain rfl := isNull_iff.mp null
    rfl
  · simp [null, toJson_ofJson canonical]

theorem text_readBack (o : Option String) : (o.map Json.str).bind Json.asString? = o := by
  cases o <;> rfl

theorem strings_canonical (l : List String) : Canonical (.array (l.map Json.str)) :=
  .array fun v member => by
    obtain ⟨s, -, rfl⟩ := List.mem_map.mp member
    exact .string s

theorem textItems_strings (l : List String) : textItems (.array (l.map Json.str)) = l := by
  simp [textItems, Json.arrayItems, List.filterMap_map, Function.comp_def, Json.scalarText?, Json.str]

/-- The record a decodable item's written object reads as is the item again. -/
theorem toItem_wireRecord {x : FeedItem} (decodable : x.Decodable) : (wireRecord x).toItem = x := by
  obtain ⟨ids, metadata, variant, payload⟩ := decodable
  cases x with
  | observation o =>
      obtain ⟨⟨⟨id, memoryId, observationId, sessionId⟩, kind, title, bodyText, project, createdAt,
        createdAtUtc, info⟩, tags, files, subtitle, narrative, facts⟩ := o
      have observed : ItemRecord.equalsIgnoringAsciiCase kind summaryKind = false := variant.symm
      have facts : Canonical facts := payload
      simp only [FeedItem.core] at ids metadata
      simp [wireRecord, wireTable, List.lookup_cons, ItemRecord.toItem, FeedItem.core, Json.str,
        Json.asString?, observed, ident_readBack ids.id, ident_readBack ids.memoryId,
        ident_readBack ids.observationId, ident_readBack ids.sessionId, free_readBack facts,
        text_readBack, toJson_ofJson (strings_canonical _), textItems_strings]
      exact free_readBack metadata
  | summary s =>
      obtain ⟨⟨⟨id, memoryId, observationId, sessionId⟩, kind, title, bodyText, project, createdAt,
        createdAtUtc, info⟩, summary⟩ := s
      have summarized : ItemRecord.equalsIgnoringAsciiCase kind summaryKind = true := variant.symm
      have summary : Canonical summary := payload
      simp only [FeedItem.core] at ids metadata
      simp [wireRecord, wireTable, List.lookup_cons, ItemRecord.toItem, FeedItem.core, Json.str,
        Json.asString?, summarized, ident_readBack ids.id, ident_readBack ids.memoryId,
        ident_readBack ids.observationId, ident_readBack ids.sessionId, free_readBack summary,
        text_readBack]
      exact free_readBack metadata

/-- Writing a decodable item and reading it back gives the item. -/
theorem decode_toJson {x : FeedItem} (decodable : x.Decodable) :
    decodeValue FeedItem.decoder x.toJson = .ok x := by
  simp only [decodeValue, FeedItem.decoder, decoder_toJson, Except.map, toItem_wireRecord decodable]

/-! ### What decoding gives -/

theorem isNull_eq_false {v : Json} : v.isNull = false ↔ v ≠ .null := by
  rw [Ne, ← isNull_iff, Bool.not_eq_true]

theorem idDecoded_idValue (members : Members) (key : String) :
    IdDecoded (ItemRecord.idValue (Located.ofMembers members) key) := by
  intro w found
  rw [idValue_ofMembers, Option.bind_eq_some_iff] at found
  obtain ⟨v, -, kept⟩ := found
  split at kept
  · cases kept
  · rename_i present
    cases kept
    exact ⟨isNull_eq_false.mp (Bool.eq_false_iff.mpr present), canonical_toJson_ofJson v⟩

/-- A record as decoding leaves it: identifiers not null, free-form values canonical. -/
structure ItemRecord.Decoded (r : ItemRecord) : Prop where
  ids : r.ids.Decoded
  metadata : Canonical r.metadata
  facts : Canonical r.facts
  summary : Canonical r.summary

/-- Every record read from a value held in memory is decoded. -/
theorem decoded_of_decoder {j : Json} {r : ItemRecord}
    (read : ItemRecord.decoder (Located.ofJson j) = .ok r) : r.Decoded := by
  unfold ItemRecord.decoder at read
  rw [bind_eq_ok] at read
  obtain ⟨fs, kept, rest⟩ := read
  obtain ⟨members, rfl, held⟩ := recordWith_ofJson_held "RawFeedItem" kept
  simp only [bind_eq_ok] at rest
  -- only the free-form values matter; the texts may be anything
  obtain ⟨_, -, _, -, _, -, _, -, _, -, _, -, metadata, readMetadata, _, -, _, -, _, -, _, -,
    facts, readFacts, summary, readSummary, built⟩ := rest
  simp only [Located.ofJson, pure, Except.pure, Except.ok.injEq] at built
  subst built
  exact
    { ids := ⟨idDecoded_idValue members _, idDecoded_idValue members _,
        idDecoded_idValue members _, idDecoded_idValue members _⟩
      metadata := read_value_held held readMetadata
      facts := read_value_held held readFacts
      summary := read_value_held held readSummary }

theorem ItemRecord.Decoded.withDefaultKind {r : ItemRecord} (decoded : r.Decoded) (kind : String) :
    (r.withDefaultKind kind).Decoded := by
  unfold ItemRecord.withDefaultKind
  split
  · exact ⟨decoded.ids, decoded.metadata, decoded.facts, decoded.summary⟩
  · exact decoded

/-- The item of a decoded record is decodable: its variant is the one its kind names. -/
theorem ItemRecord.Decoded.toItem {r : ItemRecord} (decoded : r.Decoded) : r.toItem.Decodable := by
  unfold ItemRecord.toItem
  dsimp only
  split
  · rename_i summarized
    exact ⟨decoded.ids, decoded.metadata, summarized.symm, decoded.summary⟩
  · rename_i observed
    exact ⟨decoded.ids, decoded.metadata, (Bool.eq_false_iff.mpr observed).symm, decoded.facts⟩

/-- Every item decoded from a value held in memory is decodable, whatever default kind it was
read with. -/
theorem decodable_of_decoder {defaultKind : Option String} {j : Json} {x : FeedItem}
    (decoded : decodeValue (FeedItem.decoder defaultKind) j = .ok x) : x.Decodable := by
  simp only [decodeValue, FeedItem.decoder] at decoded
  cases read : ItemRecord.decoder (Located.ofJson j) with
  | error e => simp [read, Except.map] at decoded
  | ok r =>
      simp only [read, Except.map, Except.ok.injEq] at decoded
      subst decoded
      have record := decoded_of_decoder read
      cases defaultKind with
      | none => exact record.toItem
      | some kind => exact (record.withDefaultKind kind).toItem

/-- Decoding undoes encoding on everything decoding gives: an item decoded from a value, with or
without a default kind, is written and read back as itself. -/
theorem decode_reencoded {defaultKind : Option String} {j : Json} {x : FeedItem}
    (decoded : decodeValue (FeedItem.decoder defaultKind) j = .ok x) :
    decodeValue FeedItem.decoder x.toJson = .ok x :=
  decode_toJson (decodable_of_decoder decoded)

/-- A note read with a default kind, one of its tags a boolean, is written and read back as the
note it was read as. -/
theorem note_read_back :
    decodeValue (FeedItem.decoder (some "note"))
        (.object [("id", .string "a1"), ("title", .string "first"),
          ("tags", .array [.string "x", .bool true])]) =
      .ok (.observation
        { core := { ids := { id := some (.string "a1") }, kind := "note", title := "first" }
          tags := ["x", "true"] }) ∧
    decodeValue FeedItem.decoder
        (FeedItem.observation
          { core := { ids := { id := some (.string "a1") }, kind := "note", title := "first" }
            tags := ["x", "true"] }).toJson =
      .ok (.observation
        { core := { ids := { id := some (.string "a1") }, kind := "note", title := "first" }
          tags := ["x", "true"] }) := by
  have decoded : decodeValue (FeedItem.decoder (some "note"))
      (.object [("id", .string "a1"), ("title", .string "first"),
        ("tags", .array [.string "x", .bool true])]) =
      .ok (.observation
        { core := { ids := { id := some (.string "a1") }, kind := "note", title := "first" }
          tags := ["x", "true"] }) := by
    rfl
  exact ⟨decoded, decode_reencoded decoded⟩

end MemoryDashboard.Feed
