import MemoryDashboard.Dashboard.Cycle
/-!
# A scripted backend

A backend that answers from a script instead of a service, for running the dashboard and its
feed through a sequence of steps. The script holds pages of observations and of summaries by
`<project>|<offset>`, and single answers by call name (`stats`, `usage`, `session`,
`raw_events`, `sync`, `pairing`, `config`, `save_config`, `trigger_sync`).

* A missing page is empty. Missing statistics, usage, session or raw events are `null`; a
  missing sync status, pairing payload or configuration is an error; saving the configuration
  and asking for a sync pass succeed unless scripted otherwise. `null` counts as missing.
* An answer `{"$error": message}` fails the call with that message; an answer that does not
  decode fails it with `decode: ` and the decoding error.
* An answer may carry hooks (`"$hook": [action]`), run once when it is first asked for, before
  it is given: switch the project, load more, refresh, pause polling, or change the script.
  Hooks act on the feed store or on the dashboard, whichever the script drives.
* An answer marked `"$pending": true` never comes, once.

Every call is logged, then every hook when it has run. Changing the script merges the page
tables key by key and replaces the single answers.
-/

namespace MemoryDashboard

namespace Scripted

/-- The scripted answers and the log of calls. -/
structure Script where
  memories : Json.Members := []
  summaries : Json.Members := []
  answers : Json.Members := []
  /-- The calls and hooks so far, oldest first. -/
  calls : List String := []
  deriving Inhabited

/-- Where an answer is kept. -/
inductive Slot where
  | memories (key : String)
  | summaries (key : String)
  | answer (name : String)
  deriving DecidableEq, Inhabited, Repr

namespace Script

/-- The answer in a slot; `null` counts as none. -/
def get? (s : Script) : Slot → Option Json
  | .memories key => (s.memories.lookup key).filter (!·.isNull)
  | .summaries key => (s.summaries.lookup key).filter (!·.isNull)
  | .answer name => (s.answers.lookup name).filter (!·.isNull)

/-- Puts an answer in a slot. -/
def put (s : Script) (v : Json) : Slot → Script
  | .memories key => { s with memories := s.memories.insert key v }
  | .summaries key => { s with summaries := s.summaries.insert key v }
  | .answer name => { s with answers := s.answers.insert name v }

/-- Changes the script: page tables merge key by key, single answers are replaced. -/
def update (s : Script) (changes : Json.Members) : Script :=
  changes.foldl
    (fun s (k, v) =>
      match k, v with
      | "memories", .object pages => { s with memories := pages.foldl (fun acc (p, j) => acc.insert p j) s.memories }
      | "summaries", .object pages => { s with summaries := pages.foldl (fun acc (p, j) => acc.insert p j) s.summaries }
      | "memories", _ => s
      | "summaries", _ => s
      | _, _ => { s with answers := s.answers.insert k v })
    s

/-- Logs a call or hook. -/
def log (s : Script) (entry : String) : Script := { s with calls := s.calls ++ [entry] }

end Script

/-- What hooks act on. -/
inductive Subject where
  | feed
  | dashboard
  deriving DecidableEq, Inhabited, Repr

/-- The dashboard, its feed, the metrics recorder and the script, with the time at which steps run. -/
structure World where
  dashboard : Dashboard
  feed : Feed.FeedStore := {}
  metrics : Metrics.Registry := {}
  script : Script := {}
  subject : Subject := .dashboard
  now : Time.Instant
  deriving Inhabited

/-- Steps run in the world; a call may never answer. -/
abbrev Sim := ExceptT Waiting (StateM World)

instance : MonadStateOf Dashboard Sim where
  get := do return (← getThe World).dashboard
  set d := modifyThe World fun w => { w with dashboard := d }
  modifyGet f := modifyGetThe World fun w =>
    let (a, d) := f w.dashboard
    (a, { w with dashboard := d })

instance : MonadStateOf Feed.FeedStore Sim where
  get := do return (← getThe World).feed
  set s := modifyThe World fun w => { w with feed := s }
  modifyGet f := modifyGetThe World fun w =>
    let (a, s) := f w.feed
    (a, { w with feed := s })

instance : MonadStateOf Metrics.Registry Sim where
  get := do return (← getThe World).metrics
  set r := modifyThe World fun w => { w with metrics := r }
  modifyGet f := modifyGetThe World fun w =>
    let (a, r) := f w.metrics
    (a, { w with metrics := r })

instance : MonadStateOf Script Sim where
  get := do return (← getThe World).script
  set s := modifyThe World fun w => { w with script := s }
  modifyGet f := modifyGetThe World fun w =>
    let (a, s) := f w.script
    (a, { w with script := s })

/-- Logs a call or hook. -/
def log (entry : String) : Sim Unit := modifyThe Script (·.log entry)

/-- The text of a flag. -/
def flagText (b : Bool) : String := if b then "true" else "false"

/-- Runs one hook action. -/
def runAction (api : Backend Sim) (action : Json) : Sim Unit := do
  let w ← getThe World
  match action.field? "set_project", action.field? "load_more", action.field? "refresh",
      action.field? "set_paused", action.field? "backend" with
  | some (.string p), _, _, _, _ =>
    let changed ← match w.subject with
      | .feed => (Feed.setProject p : Sim Bool)
      | .dashboard => (Dashboard.setProject p : Sim Bool)
    log ("hook:set_project:" ++ p ++ ":" ++ flagText changed)
  | _, some _, _, _, _ =>
    let outcome ← match w.subject with
      | .feed => Feed.loadNextPage api
      | .dashboard => Dashboard.loadMore api
    log ("hook:load_more:" ++ outcome.text)
  | _, _, some _, _, _ =>
    match w.subject with
    | .feed => log "hook:unknown"
    | .dashboard =>
      let text := match ← Dashboard.refresh api w.now with
        | .ok .queued => "queued"
        | .ok .completed => "completed"
        | .error e => "error:" ++ e
      log ("hook:refresh:" ++ text)
  | _, _, _, some (.bool b), _ =>
    match w.subject with
    | .feed => log "hook:unknown"
    | .dashboard =>
      (Dashboard.setPaused b : Sim Unit)
      log ("hook:set_paused:" ++ flagText b)
  | _, _, _, _, some (.object changes) =>
    modifyThe Script (·.update changes)
    log "hook:backend"
  | _, _, _, _, _ => log "hook:unknown"

/-- Runs hook actions in order. -/
def runActions (api : Backend Sim) : List Json → Sim Unit
  | [] => pure ()
  | a :: rest => do
    runAction api a
    runActions api rest

/-- Takes the answer in a slot: runs and removes its hooks, then gives it, or never answers
when it is marked pending (the mark is removed). -/
def take (hooks : List Json → Sim Unit) (slot : Slot) : Sim (Option Json) := do
  match (← getThe Script).get? slot with
  | some (.object members) =>
    let actions := (members.lookup "$hook").bind Json.asArray?
    let pending := members.lookup "$pending" matches some (.bool true)
    let plain := Json.Members.erase "$pending" (Json.Members.erase "$hook" members)
    if actions.isSome || pending then modifyThe Script (·.put (.object plain) slot)
    hooks (actions.getD [])
    if pending then
      log "pending"
      throwThe Waiting {}
    return some (.object plain)
  | other => return other

/-- The error an answer stands for, if any. -/
def scriptedError? (answer : Json) : Option String :=
  (answer.field? "$error").bind Json.asString?

/-- Interprets an answer: its scripted error, or what it decodes to. -/
def interpret {α : Type} (d : Json.Decoder α) (answer : Json) : Except String α :=
  match scriptedError? answer with
  | some e => .error e
  | none =>
    match Json.decodeValue d answer with
    | .ok a => .ok a
    | .error f => .error ("decode: " ++ f.message)

/-- A call answering a value: logs it, takes its answer, and interprets it, or gives `missing`
when there is none. -/
def answer {α : Type} (hooks : List Json → Sim Unit) (entry : String) (slot : Slot)
    (d : Json.Decoder α) (missing : Except String α) : Sim (Except String α) := do
  log entry
  match ← take hooks slot with
  | some v => return interpret d v
  | none => return missing

/-- The backend whose hooks run against `api`. -/
def callsWith (hooks : List Json → Sim Unit) : Backend Sim where
  memoriesPage project limit offset :=
    answer hooks ("memories:" ++ project ++ ":" ++ toString limit ++ ":" ++ toString offset)
      (.memories (project ++ "|" ++ toString offset)) (Feed.Page.decoder) (.ok {})
  summariesPage project limit offset :=
    answer hooks ("summaries:" ++ project ++ ":" ++ toString limit ++ ":" ++ toString offset)
      (.summaries (project ++ "|" ++ toString offset)) (Feed.Page.decoder (some Feed.summaryKind)) (.ok {})
  stats := answer hooks "stats" (.answer "stats") Json.Decode.value (.ok .null)
  usage project := answer hooks ("usage:" ++ project) (.answer "usage") Json.Decode.value (.ok .null)
  session project := answer hooks ("session:" ++ project) (.answer "session") Json.Decode.value (.ok .null)
  rawEvents project :=
    answer hooks ("raw_events:" ++ project) (.answer "raw_events") Json.Decode.value (.ok .null)
  syncStatus diagnostics :=
    answer hooks ("sync_status:" ++ flagText diagnostics) (.answer "sync") Sync.StatusReport.decoder
      (.error "sync status unavailable")
  pairing := answer hooks "pairing" (.answer "pairing") Json.Decode.value (.error "pairing unavailable")
  config := answer hooks "config" (.answer "config") Settings.ConfigPayload.decoder
    (.error "config unavailable")
  saveConfig payload :=
    answer hooks ("save_config:" ++ Json.compact payload) (.answer "save_config")
      (fun _ => .ok ()) (.ok ())
  triggerSync address :=
    answer hooks ("trigger_sync:" ++ address.getD "<all>") (.answer "trigger_sync")
      (fun _ => .ok ()) (.ok ())
  projects := do
    log "projects"
    return .ok []

/-- The scripted backend; hooks run up to `depth` levels deep, deeper ones are dropped. -/
def backend : (depth : Nat) → Backend Sim
  | 0 => callsWith fun _ => pure ()
  | depth + 1 => callsWith (runActions (backend depth))

/-- How deep hooks nest. -/
def hookDepth : Nat := 32

/-- Runs a step in a world, giving none when it never answers. -/
def Sim.run {α : Type} (x : Sim α) (w : World) : Option α × World :=
  let (r, w) := (ExceptT.run x).run w
  (r.toOption, w)

/-- Runs a step with a fresh log, giving its answer (none when it never answers), the calls it
made, and the world after it. -/
def step {α : Type} (x : Sim α) (w : World) : Option α × List String × World :=
  let w := { w with script := { w.script with calls := [] } }
  let (r, w) := Sim.run x w
  (r, w.script.calls, w)

end Scripted

end MemoryDashboard
