import MemoryDashboard.Feed.Item
import MemoryDashboard.Text.Label
/-!
# Low-signal observations

Trivial observations are kept out of the feed: directory listings, tree fragments and titles
that merely repeat their body. The rule works on normalized title and body
(`Text.normalize`); the text judged is the body, or the title when the body is empty. An
observation is low-signal when

* title and body are both empty, or the judged text is shorter than 10 characters;
* title and body are equal and shorter than 40 characters;
* the title starts with a tree branch `└` or a prompt `›` and the text is shorter than 40;
* the title starts with `list ` and the text is shorter than 20;
* the text is `ls` or `list ls`.

Summaries are never low-signal.
-/

namespace MemoryDashboard

namespace Feed

/-- Whether an observation with this title and body is low-signal. -/
def isLowSignalText (title body : String) : Bool :=
  let title := Text.normalize title
  let body := Text.normalize body
  if title.isEmpty && body.isEmpty then true
  else
    let judged := if body.isEmpty then title else body
    let len := judged.length
    if len < 10 then true
    else if !title.isEmpty && !body.isEmpty && title == body && len < 40 then true
    else if (title.startsWith "└" || title.startsWith "›") && len < 40 then true
    else if title.startsWith "list " && len < 20 then true
    else judged == "ls" || judged == "list ls"

/-- Whether an item is low-signal; summaries never are. -/
def FeedItem.isLowSignal : FeedItem → Bool
  | .observation o => isLowSignalText o.core.title o.core.bodyText
  | .summary _ => false

end Feed

end MemoryDashboard
