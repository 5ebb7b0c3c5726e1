import MemoryDashboard.Json.Decode
import MemoryDashboard.Toml.Document
import MemoryDashboard.Storage.Disk
import MemoryDashboard.Text.Blank
/-!
# The viewer's configuration

Where the backend is, where the dashboard listens, how often it polls, which project it shows,
where it keeps preferences, and whether it logs JSON and serves metrics. Every setting has a
default; a configuration file gives some of them.

A file is read as TOML first when its extension is `toml` in any case, then as JSON, then (when
TOML was not tried first) as TOML; the first reading that gives a configuration wins. Unknown
keys are ignored, a key given twice is an error, and a value of the wrong type fails that
reading.

Without an explicit file (`CODEMEM_VIEWER_CONFIG`), `config/viewer.toml` and then
`config/viewer.json` are used when they exist. Environment variables then override settings:
trimmed values, empty ones ignored (except the project, which is taken trimmed as it is), the
poll interval as a whole number, JSON logs for `1`, `true`, `yes` or `on` in any ASCII case.
Trailing slashes are removed from the backend's address.
-/

namespace MemoryDashboard

namespace Config

/-- The viewer's configuration. -/
structure ViewerConfig where
  baseUrl : String := "http://127.0.0.1:38888"
  listen : String := "127.0.0.1:38890"
  pollSecs : Nat := 5
  project : String := ""
  prefsPath : Option String := some "state/viewer_prefs.json"
  logJson : Bool := false
  metrics : Bool := true
  deriving DecidableEq, Inhabited, Repr

/-- Polling happens at least once a second. -/
def ViewerConfig.pollIntervalSecs (c : ViewerConfig) : Nat := max c.pollSecs 1

open Json.Decode in
/-- Reads a configuration; every setting may be left out. -/
def ViewerConfig.decoder : Json.Decoder ViewerConfig := fun node => do
  let fs ← record "ViewerConfig"
    [ .of "base_url" string, .of "listen" string, .of "poll_secs" u64, .of "project" string,
      .of "prefs_path" (option string), .of "log_json" bool, .of "metrics" bool ] true node
  let d : ViewerConfig := {}
  return {
    baseUrl := ← fs.read "base_url" string d.baseUrl
    listen := ← fs.read "listen" string d.listen
    pollSecs := ← fs.read "poll_secs" u64 d.pollSecs
    project := ← fs.read "project" string d.project
    prefsPath := ← fs.read "prefs_path" (option string) d.prefsPath
    logJson := ← fs.read "log_json" bool d.logJson
    metrics := ← fs.read "metrics" bool d.metrics }

/-- The configuration as the dashboard writes it. -/
def ViewerConfig.toJson (c : ViewerConfig) : Json :=
  Json.obj
    [ ("base_url", .str c.baseUrl), ("listen", .str c.listen), ("poll_secs", .nat c.pollSecs),
      ("project", .str c.project), ("prefs_path", Json.opt Json.str c.prefsPath),
      ("log_json", .bool c.logJson), ("metrics", .bool c.metrics),
      ("poll_interval_secs", .nat c.pollIntervalSecs) ]

/-- Why a configuration could not be loaded. -/
inductive ConfigError where
  | unreadable (path : String) (cause : Storage.IoError)
  | unsupportedFormat (path : String)
  | missingExplicitFile
  | pollSecsNotWhole (cause : String)
  deriving DecidableEq, Inhabited, Repr

/-- A configuration error as a chain of messages, each explained by the next. -/
def ConfigError.chain : ConfigError → List String
  | .unreadable path cause => ["reading viewer config from " ++ path, cause.message]
  | .unsupportedFormat path =>
    ["parsing viewer config in " ++ path, "unsupported viewer config format"]
  | .missingExplicitFile => ["CODEMEM_VIEWER_CONFIG points to non-existent path"]
  | .pollSecsNotWhole cause => ["CODEMEM_VIEWER_POLL_SECS must be a whole number of seconds", cause]

/-- The message of a configuration error: its chain joined by colons. -/
def ConfigError.message (e : ConfigError) : String := ": ".intercalate e.chain

/-- A configuration from TOML text. -/
def fromToml (text : String) : Option ViewerConfig :=
  (Toml.readDocument text).bind fun members =>
    (Json.decodeValue ViewerConfig.decoder (.object members)).toOption

/-- A configuration from JSON text. -/
def fromJson (text : String) : Option ViewerConfig :=
  (Json.decodeText ViewerConfig.decoder text).toOption

/-- A configuration from a file's text, trying TOML first for a `toml` extension. -/
def parseConfig (text : String) (extension : String) : Option ViewerConfig :=
  if extension == "toml" then (fromToml text).orElse fun _ => fromJson text
  else (fromJson text).orElse fun _ => fromToml text

/-- The extension of a path's file name, lowered: after its last point, unless the name has no
point or only a leading one. -/
def extensionOf (path : String) : String :=
  let name := ((path.splitOn "/").filter (!·.isEmpty)).getLast?.getD ""
  let parts := name.splitOn "."
  if name == ".." || parts.length < 2 || (parts.length == 2 && parts.head? == some "") then ""
  else (parts.getLast?.getD "").toList.map Char.toLower |> String.ofList

/-- Loads a configuration file. -/
def loadFrom (disk : Storage.Disk) (path : String) : Except ConfigError ViewerConfig :=
  match disk.read path with
  | .error e => .error (.unreadable path e)
  | .ok text =>
    match parseConfig text (extensionOf path) with
    | some c => .ok c
    | none => .error (.unsupportedFormat path)

/-- The environment: variables by name. -/
abbrev Environment := List (String × String)

/-- A variable's trimmed value, when it is set and not blank. -/
def envValue (env : Environment) (name : String) : Option String :=
  (env.lookup name).map Text.trim |>.filter (!·.isEmpty)

/-- Reads a whole number of seconds, with an optional plus sign. -/
def parseSeconds (text : String) : Except String Nat :=
  let digits := match text.toList with
    | '+' :: rest => rest
    | cs => cs
  if digits.isEmpty then .error "invalid digit found in string"
  else if !digits.all Char.isDigit then .error "invalid digit found in string"
  else
    let n := digits.foldl (fun acc c => acc * 10 + (c.toNat - '0'.toNat)) 0
    if n < Nat.pow 2 64 then .ok n else .error "number too large to fit in target type"

/-- Drops the slashes at the end of an address. -/
def trimTrailingSlashes (s : String) : String :=
  String.ofList (s.toList.reverse.dropWhile (· = '/')).reverse

/-- Applies the environment's overrides. -/
def ViewerConfig.applyEnv (c : ViewerConfig) (env : Environment) : Except ConfigError ViewerConfig := do
  let c := match envValue env "CODEMEM_VIEWER_BASE_URL" with
    | some v => { c with baseUrl := v }
    | none => c
  let c := match envValue env "CODEMEM_VIEWER_LISTEN" with
    | some v => { c with listen := v }
    | none => c
  let c ← match envValue env "CODEMEM_VIEWER_POLL_SECS" with
    | some v =>
      match parseSeconds v with
      | .ok n => pure { c with pollSecs := n }
      | .error cause => throw (.pollSecsNotWhole cause)
    | none => pure c
  let c := match env.lookup "CODEMEM_VIEWER_PROJECT" with
    | some v => { c with project := Text.trim v }
    | none => c
  let c := match envValue env "CODEMEM_VIEWER_PREFS_PATH" with
    | some v => { c with prefsPath := some v }
    | none => c
  let c := match envValue env "CODEMEM_VIEWER_LOG_JSON" with
    | some v => { c with logJson := ["1", "true", "yes", "on"].contains (String.ofList (v.toList.map Char.toLower)) }
    | none => c
  return { c with baseUrl := trimTrailingSlashes c.baseUrl }

/-- Loads the configuration from the environment and the working directory. -/
def loadDefault (env : Environment) (disk : Storage.Disk) : Except ConfigError ViewerConfig := do
  let c ← match env.lookup "CODEMEM_VIEWER_CONFIG" with
    | some path =>
      if !disk.exists? path then throw .missingExplicitFile
      else loadFrom disk path
    | none =>
      if disk.exists? "config/viewer.toml" then loadFrom disk "config/viewer.toml"
      else if disk.exists? "config/viewer.json" then loadFrom disk "config/viewer.json"
      else pure {}
  c.applyEnv env

end Config

end MemoryDashboard
