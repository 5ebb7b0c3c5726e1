import MemoryDashboard.Feed.Item
import MemoryDashboard.Json.Write
import MemoryDashboard.Text.Label
/-!
# How an observation reads

An observation can be read three ways: as a summary (its subtitle, else its body), as facts,
or as a narrative (its own narrative, else the one in its metadata). Metadata imported from
elsewhere shows through unless the item's own metadata has the same key.

Facts come from the first source that yields any: the item's facts when truthy, else the
metadata's, as a list (or the JSON text of one); then the bullet (`-`, `*`, `•`) and numbered
(`1.`) lines of the summary (else of the narrative), markers stripped; then the sentences of
the summary of at least 18 characters, at most six. A narrative counts only when it is not
the summary again after normalizing.

A collapsed card clamps the summary past 260 characters and the narrative past 320; facts
never clamp.
-/

namespace MemoryDashboard

namespace Feed

/-- The ways an observation can be read. -/
inductive ViewMode where
  | summary
  | facts
  | narrative
  deriving Inhabited, DecidableEq, Repr

namespace ViewMode

/-- The mode's name. -/
def name : ViewMode → String
  | .summary => "summary"
  | .facts => "facts"
  | .narrative => "narrative"

/-- The mode's label. -/
def label : ViewMode → String
  | .summary => "Summary"
  | .facts => "Facts"
  | .narrative => "Narrative"

/-- Lines shown while collapsed. -/
def clampLines : ViewMode → Nat
  | .summary => 3
  | _ => 5

end ViewMode

/-- Metadata with imported fields beneath the item's own: the members of `import_metadata`
(when it is an object) overridden by the item's own members. Not an object: no members. -/
def mergeMetadata (metadata : Json) : Json.Members :=
  match metadata with
  | .object own =>
    match own.lookup "import_metadata" with
    | some (.object imported) => own.foldl (fun acc (k, v) => Json.Members.insert k v acc) imported
    | _ => own
  | _ => []

/-- The text of a value: a scalar's text, otherwise its JSON text. -/
def displayText (j : Json) : String := (Json.scalarText? j).getD (Json.compact j)

/-- Splits a text into lines at line feeds, dropping a carriage return before each and the
empty line after a final line feed. -/
def textLines (text : String) : List String :=
  let pieces := text.splitOn "\n"
  let pieces := if text.endsWith "\n" then pieces.dropLast else pieces
  let pieces := if text.isEmpty then [] else pieces
  pieces.map fun p => if p.endsWith "\r" then String.ofList p.toList.dropLast else p

/-- The rest of a line after a bullet (`-`, `*` or `•`) and the blanks after it, when the
line starts with a bullet followed by at least one blank. -/
def afterBullet? (cs : List Char) : Option (List Char) :=
  match cs with
  | c :: b :: rest =>
    if (c = '-' || c = '*' || c = '•') && Text.isBlank b then some (rest.dropWhile Text.isBlank)
    else none
  | _ => none

/-- The rest of a line after a number and its point (`12.`), when it starts with one. -/
def afterNumber? (cs : List Char) : Option (List Char) :=
  let digits := cs.takeWhile Text.isDecimalDigit
  match cs.drop digits.length with
  | '.' :: rest => if digits.isEmpty then none else some rest
  | _ => none

/-- The bullet and numbered lines of a text, trimmed, markers stripped: the bullet with its
blanks, then a number with its point when blanks follow it. -/
def extractFacts (text : String) : List String :=
  (textLines text).filterMap fun line =>
    let l := (Text.trim line).toList
    if l.isEmpty then none
    else if (afterBullet? l).isNone && (afterNumber? l).isNone then none
    else
      let l := (afterBullet? l).getD l
      let l := match afterNumber? l with
        | some (b :: rest) => if Text.isBlank b then rest.dropWhile Text.isBlank else l
        | _ => l
      some (String.ofList l)

/-- The words of a text joined by single spaces. -/
def normalizeWhitespace (text : String) : String := " ".intercalate (Text.words text)

/-- Whether a character ends a sentence: `.`, `!` or `?`. -/
def endsSentence (c : Char) : Bool := c = '.' || c = '!' || c = '?'

/-- Splits characters after `.`, `!` or `?` followed by a space, dropping that space;
`current` holds the sentence read so far, reversed. -/
def splitSentences (current : List Char) : List Char → List (List Char)
  | [] => [current.reverse]
  | c :: rest@(' ' :: after) =>
    if endsSentence c then (c :: current).reverse :: splitSentences [] after
    else splitSentences (c :: current) rest
  | c :: rest => splitSentences (c :: current) rest

/-- The pieces a text is split into, blanks collapsed first. -/
def sentencePieces (text : String) : List (List Char) :=
  splitSentences [] (normalizeWhitespace text).toList

/-- The sentences of a text (blanks collapsed) of at least 18 characters, at most `limit`. -/
def sentenceFacts (text : String) (limit : Nat) : List String :=
  if (normalizeWhitespace text).isEmpty then []
  else
    (((sentencePieces text).map fun p => Text.trim (String.ofList p)).filter
      (fun p => p.length ≥ 18)).take limit

/-- How an observation reads in each mode. -/
structure ObservationView where
  summary : String
  narrative : String
  facts : List String
  hasSummary : Bool
  hasFacts : Bool
  hasNarrative : Bool
  deriving Inhabited

namespace ObservationView

/-- The view of an observation. -/
def ofObservation (o : Observation) : ObservationView :=
  let metadata := mergeMetadata o.core.metadata
  let summary := Text.trim ((o.subtitle.filter (!·.isEmpty)).getD o.core.bodyText)
  let narrative := Text.trim (((o.narrative.filter (!·.isEmpty)).orElse fun _ =>
    (metadata.lookup "narrative").bind Json.scalarText?).getD "")
  let hasNarrative := !narrative.isEmpty && Text.normalize narrative != Text.normalize summary
  let factsValue := if Json.isTruthy o.facts then o.facts else (metadata.lookup "facts").getD .null
  let facts := (Json.arrayItems factsValue).map displayText
  let facts := if facts.isEmpty then extractFacts (if summary.isEmpty then narrative else summary)
    else facts
  let facts := if facts.isEmpty then sentenceFacts summary 6 else facts
  { summary, narrative, facts, hasSummary := !summary.isEmpty, hasFacts := !facts.isEmpty,
    hasNarrative }

/-- The modes that have something to show, in order. -/
def modes (v : ObservationView) : List ViewMode :=
  (if v.hasSummary then [.summary] else []) ++ (if v.hasFacts then [.facts] else []) ++
    (if v.hasNarrative then [.narrative] else [])

/-- The first mode with something to show, narrative when none has. -/
def defaultMode (v : ObservationView) : ViewMode :=
  if v.hasSummary then .summary else if v.hasFacts then .facts else .narrative

/-- Whether a mode is clamped when collapsed. -/
def shouldClamp (v : ObservationView) : ViewMode → Bool
  | .facts => false
  | .summary => v.summary.length > 260
  | .narrative => v.narrative.length > 320

/-- The view as written. -/
def toJson (v : ObservationView) : Json :=
  Json.obj [("summary", .str v.summary), ("narrative", .str v.narrative),
    ("facts", .array (v.facts.map Json.str)), ("has_summary", .bool v.hasSummary),
    ("has_facts", .bool v.hasFacts), ("has_narrative", .bool v.hasNarrative)]

end ObservationView

end Feed

end MemoryDashboard
