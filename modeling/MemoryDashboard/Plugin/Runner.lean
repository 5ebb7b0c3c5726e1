import MemoryDashboard.Text.Case
import MemoryDashboard.Text.Blank
import MemoryDashboard.Url.Parse
/-!
# Runners, upgrade guidance and automatic updates

The editor plugin launches the backend through a runner (`uv` in a development checkout,
`uvx` from a source, or anything else for an installed tool) and an optional runner source.
Upgrade guidance and the automatic-update decision depend only on those two texts, each
trimmed first.

A source looks like git when it starts with `git+` or mentions `.git`. A git source is pinned
when it names a ref: before any query or fragment it contains `.git@`, or, read as a URL after
`git+`, its path contains `.git@` or its last segment has an `@` followed by a name. A source
that is not a URL is checked the same way as text.

The update policy is `auto`, `off` or `notify`, read leniently from a setting.
-/

namespace MemoryDashboard

namespace Plugin

/-- Whether `needle` occurs in `hay`. -/
def occursIn (needle hay : String) : Bool := (hay.splitOn needle).length > 1

/-- A source that looks like git. -/
def looksLikeGit (source : String) : Bool := source.startsWith "git+" || occursIn ".git" source

/-- How the operator should upgrade the backend. -/
inductive GuidanceMode where
  | uvDev
  | uvxGit
  | uvxCustom
  | generic
  deriving DecidableEq, Inhabited, Repr

/-- The name of a guidance mode. -/
def GuidanceMode.name : GuidanceMode → String
  | .uvDev => "uv-dev"
  | .uvxGit => "uvx-git"
  | .uvxCustom => "uvx-custom"
  | .generic => "generic"

/-- Upgrade guidance: the mode, what to do and a note on how the mode was detected. -/
structure UpgradeGuidance where
  mode : GuidanceMode
  action : String
  note : String
  deriving DecidableEq, Inhabited, Repr

/-- The guidance for a runner and its source. -/
def upgradeGuidance (runner runnerFrom : String) : UpgradeGuidance :=
  let source := Text.trim runnerFrom
  match Text.trim runner with
  | "uv" =>
    ⟨.uvDev,
      "In your codemem repo, pull latest changes and run `uv sync`, then restart OpenCode.",
      "detected dev repo mode"⟩
  | "uvx" =>
    if looksLikeGit source then
      ⟨.uvxGit, "Update CODEMEM_RUNNER_FROM to a newer git ref/source, then restart OpenCode.",
        "detected uvx git mode"⟩
    else
      ⟨.uvxCustom, "Update CODEMEM_RUNNER_FROM to a newer source, then restart OpenCode.",
        "detected uvx custom source mode"⟩
  | _ =>
    ⟨.generic, "Run `uv tool install --upgrade codemem`, then restart OpenCode.",
      "fallback guidance"⟩

/-- Whether the backend updates itself. -/
inductive UpdatePolicy where
  | notify
  | auto
  | off
  deriving DecidableEq, Inhabited, Repr

/-- The name of a policy. -/
def UpdatePolicy.name : UpdatePolicy → String
  | .notify => "notify"
  | .auto => "auto"
  | .off => "off"

/-- Reads a policy: its name or a boolean-like word in any case, after trimming; anything else
is `notify`. -/
def UpdatePolicy.parse (value : Option String) : UpdatePolicy :=
  match Text.lower (Text.trim (value.getD "")) with
  | "auto" | "1" | "true" | "yes" | "on" => .auto
  | "off" | "0" | "false" | "no" => .off
  | _ => .notify

/-- Whether the last segment of a path has an `@` followed by at least one character. -/
def endsWithRef (path : String) : Bool :=
  let lastSegment := (path.toList.reverse.takeWhile (· != '/')).reverse
  match lastSegment.dropWhile (· != '@') with
  | '@' :: _ :: _ => true
  | _ => false

/-- Whether a git source names a ref. -/
def isPinnedGitSource (runnerFrom : String) : Bool :=
  let source := Text.trim runnerFrom
  if source.isEmpty || !looksLikeGit source then false
  else
    let withoutQuery := String.ofList (source.toList.takeWhile fun c => c != '?' && c != '#')
    if occursIn ".git@" withoutQuery then true
    else if withoutQuery.startsWith "git+" then
      match Url.parse? (String.ofList (withoutQuery.toList.drop 4)) with
      | some url => occursIn ".git@" url.path || endsWithRef url.path
      | none => endsWithRef withoutQuery
    else false

/-- Why an automatic update is not done. -/
inductive BlockReason where
  | devRunner
  | missingSource
  | pinnedSource
  deriving DecidableEq, Inhabited, Repr

/-- The name of a block reason. -/
def BlockReason.name : BlockReason → String
  | .devRunner => "dev-runner"
  | .missingSource => "missing-source"
  | .pinnedSource => "pinned-source"

/-- An automatic update: blocked for a reason, or a command to run with its display text. -/
inductive AutoUpdatePlan where
  | blocked (reason : BlockReason)
  | run (command : List String) (commandText : String)
  deriving DecidableEq, Inhabited, Repr

/-- The automatic update for a runner and its source: never for a development runner, nor for
`uvx` without a source or with a pinned one. -/
def autoUpdatePlan (runner runnerFrom : String) : AutoUpdatePlan :=
  let source := Text.trim runnerFrom
  match Text.trim runner with
  | "uv" => .blocked .devRunner
  | "uvx" =>
    if source.isEmpty then .blocked .missingSource
    else if isPinnedGitSource source then .blocked .pinnedSource
    else
      .run ["uvx", "--refresh", "--from", source, "codemem", "version"]
        "uvx --refresh --from <source> codemem version"
  | _ =>
    .run ["uv", "tool", "install", "--upgrade", "codemem"] "uv tool install --upgrade codemem"

end Plugin

end MemoryDashboard
