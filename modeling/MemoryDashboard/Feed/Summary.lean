import MemoryDashboard.Feed.Observation
/-!
# How a session summary reads

A summary's structure comes from its own `summary` field when that is an object (unwrapping
a nested `summary` object when none of the known section keys stands beside it); otherwise
from its merged metadata, or the metadata's `summary`, when either looks like a summary: an
object with a known section key holding non-blank text.

Sections come in the order request, outcome, plan, completed, learned, investigated, next,
next steps, notes, then the other keys sorted; each is the value's text, trimmed, and empty or
`null` sections are left out. A summary is titled by its recorded request when there is one.
-/

namespace MemoryDashboard

namespace Feed

/-- The keys of a structured summary, in the order they are shown. -/
def summaryKeys : List String :=
  ["request", "outcome", "plan", "completed", "learned", "investigated", "next", "next_steps",
    "notes"]

/-- Whether a value is an object with a known section key holding non-blank text. -/
def looksLikeSummary : Json → Bool
  | .object members => summaryKeys.any fun k =>
    match members.lookup k with
    | some (.string s) => !(Text.trim s).isEmpty
    | _ => false
  | _ => false

/-- The structured summary of a session summary, if it has one. -/
def summaryObject (s : SessionSummary) : Option Json.Members :=
  match s.summary with
  | .object members =>
    match members.lookup "summary" with
    | some (.object inner) =>
      if summaryKeys.any (fun k => (members.lookup k).isSome) then some members else some inner
    | _ => some members
  | _ =>
    let metadata := mergeMetadata s.core.metadata
    if looksLikeSummary (.object metadata) then some metadata
    else
      match metadata.lookup "summary" with
      | some v@(.object inner) => if looksLikeSummary v then some inner else none
      | _ => none

/-- One section of a summary. -/
structure SummarySection where
  label : String
  content : String
  deriving Inhabited

/-- The section as written. -/
def SummarySection.toJson (s : SummarySection) : Json :=
  Json.obj [("label", .str s.label), ("content", .str s.content)]

/-- The non-empty sections, known keys first in their order, then the rest sorted. -/
def summarySections (summary : Json.Members) : List SummarySection :=
  let known := summaryKeys.filter fun k => (summary.lookup k).isSome
  let others := ((summary.map Prod.fst).filter fun k => !summaryKeys.contains k).mergeSort
    (fun a b => decide (a ≤ b))
  (known ++ others).filterMap fun key =>
    let content := Text.trim ((summary.lookup key).elim "" displayText)
    if content.isEmpty || content == "null" then none
    else some { label := Text.titleLabel key, content }

/-- The title shown for an item: a summary's recorded request when non-empty, else the title,
else `(untitled)`. -/
def displayTitle (item : FeedItem) : String :=
  let request : Option String :=
    if item.isSummary then
      ((mergeMetadata item.core.metadata).lookup "request").bind Json.scalarText? |>.filter (!·.isEmpty)
    else none
  match request with
  | some r => r
  | none => if item.core.title.isEmpty then "(untitled)" else item.core.title

end Feed

end MemoryDashboard
