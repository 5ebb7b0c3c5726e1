import MemoryDashboard.Startup
import MemoryDashboard.Text.Utf8
import MemoryDashboard.Json.Write
/-!
# The dashboard command

The command checks a start of the dashboard the way the service makes it: it loads the working
directory's `.env` file, then the configuration, then checks the listen address. A failure is
written to standard error as the service reports it, with exit code 1. Otherwise the command
prints the configuration the dashboard serves with, as one JSON line.

Everything but reading the process's environment and files is `Startup.start`.
-/

namespace MemoryDashboard

namespace Command

/-- The variables of an environment block: `NAME=value` entries, each ended by a zero byte. -/
def environmentOf (bytes : List UInt8) : Config.Environment :=
  let entries := (Text.decodeLossy bytes |> String.ofList).splitOn (String.singleton (Char.ofNat 0))
  entries.filterMap fun entry =>
    match entry.splitOn "=" with
    | name :: value :: more => if name.isEmpty then none else some (name, "=".intercalate (value :: more))
    | _ => none

/-- The variables the configuration reads itself. -/
def configVariables : List String :=
  ["CODEMEM_VIEWER_CONFIG", "CODEMEM_VIEWER_BASE_URL", "CODEMEM_VIEWER_LISTEN",
    "CODEMEM_VIEWER_POLL_SECS", "CODEMEM_VIEWER_PROJECT", "CODEMEM_VIEWER_PREFS_PATH",
    "CODEMEM_VIEWER_LOG_JSON"]

/-- The process's environment: the whole block where the system shows it, else the
configuration's own variables. -/
def environment : IO Config.Environment := do
  try
    let bytes ← IO.FS.readBinFile "/proc/self/environ"
    return environmentOf bytes.toList
  catch _ =>
    configVariables.filterMapM fun name => do
      return (← IO.getEnv name).map fun v => (name, v)

/-- Adds a file of the working directory to the disk, with the directories above it: nothing
when it does not exist, a directory when it exists but does not read. -/
def readInto (disk : Storage.Disk) (path : String) : IO Storage.Disk := do
  match disk.locate path with
  | none => return disk
  | some _ =>
    try
      let text ← IO.FS.readFile path
      return (disk.withFile path text).toOption.getD disk
    catch e =>
      match e with
      | .noFileOrDirectory .. => return disk
      | _ => return (disk.createDirAll path).toOption.getD disk

end Command

end MemoryDashboard

open MemoryDashboard in
/-- Checks a start in the current process and working directory. -/
def main : IO UInt32 := do
  let env ← Command.environment
  let disk ← Command.readInto { root := toString (← IO.currentDir) } ".env"
  let disk ← Command.readInto disk "config/viewer.toml"
  let disk ← Command.readInto disk "config/viewer.json"
  let disk ← match (Startup.withDotenv env disk).lookup "CODEMEM_VIEWER_CONFIG" with
    | some path => Command.readInto disk path
    | none => pure disk
  match Startup.start env disk {} with
  | .failed report =>
    IO.eprint report.text
    return 1
  | .serving config =>
    IO.println (Json.compact config.toJson)
    return 0
