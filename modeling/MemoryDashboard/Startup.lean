import MemoryDashboard.Config.Dotenv
import MemoryDashboard.Net.Bind
/-!
# Starting the dashboard

The dashboard starts in three steps: it loads the `.env` file of its working directory when
there is one, loads its configuration, and binds its listener to the configured address. The
first step never fails; a failure of either of the others ends the program with an error report
and exit code 1. When all three succeed the dashboard serves until it is stopped.

A report names what failed, then each cause in turn:

```
Error: loading viewer config

Caused by:
    0: CODEMEM_VIEWER_POLL_SECS must be a whole number of seconds
    1: invalid digit found in string
```

A single cause is not numbered, and the later lines of a cause line up under its first.
-/

namespace MemoryDashboard

namespace Startup

/-- An error and the chain of its causes, the nearest first. -/
structure ErrorReport where
  message : String
  causes : List String := []
  deriving DecidableEq, Inhabited, Repr

/-- A cause's lines, the first after its number (right-aligned in five columns) or four
spaces, the later ones lined up under it. -/
def causeText (number : Option Nat) (text : String) : String :=
  let firstPrefix := match number with
    | some n =>
      let digits := toString n
      String.ofList (List.replicate (5 - digits.length) ' ') ++ digits ++ ": "
    | none => "    "
  let laterPrefix := if number.isSome then "       " else "    "
  match text.splitOn "\n" with
  | [] => firstPrefix
  | first :: later => firstPrefix ++ first ++ String.join (later.map fun l => "\n" ++ laterPrefix ++ l)

/-- The report as the program writes it to standard error. -/
def ErrorReport.text (r : ErrorReport) : String :=
  let numbered := 1 < r.causes.length
  let causes := r.causes.zipIdx.map fun (c, n) =>
    "\n" ++ causeText (if numbered then some n else none) c
  let causedBy := if r.causes.isEmpty then "" else "\n\nCaused by:" ++ String.join causes
  "Error: " ++ r.message ++ causedBy ++ "\n"

/-- How a start ended. -/
inductive Outcome where
  /-- Every step succeeded; the dashboard serves with this configuration. -/
  | serving (config : Config.ViewerConfig)
  /-- A step failed; the program exits with code 1 after writing the report. -/
  | failed (report : ErrorReport)
  deriving Inhabited

/-- The environment after loading the working directory's `.env` file. -/
def withDotenv (env : Config.Environment) (disk : Storage.Disk) : Config.Environment :=
  match disk.read ".env" with
  | .ok text => Config.Dotenv.load env text
  | .error _ => env

/-- Starts the dashboard in an environment, a working directory and a network. -/
def start (env : Config.Environment) (disk : Storage.Disk) (net : Net.Network) : Outcome :=
  let env := withDotenv env disk
  match Config.loadDefault env disk with
  | .error e => .failed { message := "loading viewer config", causes := e.chain }
  | .ok config =>
    match net.bind config.listen with
    | .error e => .failed { message := "binding " ++ config.listen, causes := [e.message] }
    | .ok () => .serving config

end Startup

end MemoryDashboard
