import MemoryDashboard.Client.Http
/-!
# Driving the HTTP backend

A run makes calls through the HTTP backend to a scripted server. The server answers by route,
`<METHOD> <path>`: a JSON body or a plain text with a status (200 unless given); a request
without a route answers 404 `no such route`. It records every request it receives. Whether the
server can be reached at all is part of the run: where it cannot, every request fails before it
is sent.
-/

namespace MemoryDashboard

namespace Client

/-- A scripted server: its routes and the requests it received, oldest first. -/
structure Server where
  routes : Json.Members := []
  received : List Json := []
  deriving Inhabited

/-- A body as the server sees it: JSON when it reads as JSON, text otherwise, null when empty. -/
def receivedBody (body : Option Json) : Json :=
  match body with
  | some j => j
  | none => .null

/-- The server's answer to a request, and the server after recording it. -/
def Server.answer (s : Server) (o : Outgoing) : Delivery × Server :=
  let record := Json.obj
    [ ("method", .str o.method), ("path", .str o.path), ("query", Json.opt Json.str o.query),
      ("body", receivedBody o.body) ]
  let s := { s with received := s.received ++ [record] }
  match s.routes.lookup (o.method ++ " " ++ o.path) with
  | none => (.answered 404 "no such route", s)
  | some route =>
    let status := match route.field? "status" with
      | some (.number (.natural n)) => n
      | _ => 200
    match route.field? "raw" with
    | some (.string text) => (.answered status text, s)
    | _ => (.answered status (Json.compact ((route.field? "body").getD .null)), s)

/-- A call of a run. -/
inductive Call where
  | memoriesPage (project : String) (limit offset : Nat)
  | summariesPage (project : String) (limit offset : Nat)
  | stats
  | usage (project : String)
  | session (project : String)
  | rawEvents (project : String)
  | syncStatus (diagnostics : Bool)
  | pairing
  | config
  | saveConfig (payload : Json)
  | triggerSync (address : Option String)
  | projects
  deriving Inhabited

/-- What a call answered. -/
inductive Outcome where
  | page (p : Feed.Page)
  | value (j : Json)
  | syncStatus (r : Sync.StatusReport)
  | config (c : Settings.ConfigPayload)
  | done
  | projects (names : List String)
  deriving Inhabited

/-- A call through a backend. -/
def Call.run {m : Type → Type} [Monad m] (api : Backend m) : Call → m (Except String Outcome)
  | .memoriesPage p l o => (·.map .page) <$> api.memoriesPage p l o
  | .summariesPage p l o => (·.map .page) <$> api.summariesPage p l o
  | .stats => (·.map .value) <$> api.stats
  | .usage p => (·.map .value) <$> api.usage p
  | .session p => (·.map .value) <$> api.session p
  | .rawEvents p => (·.map .value) <$> api.rawEvents p
  | .syncStatus d => (·.map .syncStatus) <$> api.syncStatus d
  | .pairing => (·.map .value) <$> api.pairing
  | .config => (·.map .config) <$> api.config
  | .saveConfig j => (·.map fun () => .done) <$> api.saveConfig j
  | .triggerSync a => (·.map fun () => .done) <$> api.triggerSync a
  | .projects => (·.map .projects) <$> api.projects

/-- Sends a request to the server, or fails when it cannot be reached. -/
def deliver (reachable : Bool) (o : Outgoing) : StateM Server Delivery :=
  if reachable then modifyGet fun s => s.answer o else pure .unreachable

/-- Makes calls in order: each call's outcome and the requests the server received for it. -/
def runCalls (client : ViewerClient) (reachable : Bool) (server : Server) :
    List Call → List (Except String Outcome × List Json)
  | [] => []
  | c :: rest =>
    let api : Backend (StateM Server) := client.backend (deliver reachable)
    let (outcome, after) := (c.run api).run { server with received := [] }
    (outcome, after.received) :: runCalls client reachable after rest

end Client

end MemoryDashboard
