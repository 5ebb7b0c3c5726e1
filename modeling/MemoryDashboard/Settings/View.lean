import MemoryDashboard.Settings.Form
/-!
# The settings panel

The service sends its configuration with the defaults, the path of the configuration file and
the environment variables that override it. The panel shows the form, the path (or `n/a`), the
default observer size as a hint, a note when environment overrides are active, and whether the
configuration itself says it has overrides.
-/

namespace MemoryDashboard

namespace Settings

/-- What the service sends about its configuration. -/
structure ConfigPayload where
  config : Json.Members := []
  defaults : Json.Members := []
  path : Option String := none
  envOverrides : Json := .null
  deriving Inhabited

open Json.Decode in
/-- Reads a configuration payload; every field may be left out. -/
def ConfigPayload.decoder : Json.Decoder ConfigPayload := fun node => do
  let fs ← record "ConfigPayload"
    [ .of "config" (stringMap value), .of "defaults" (stringMap value),
      .of "path" (option string), .of "env_overrides" value ] true node
  return {
    config := ← fs.read "config" (stringMap value) []
    defaults := ← fs.read "defaults" (stringMap value) []
    path := ← fs.readOption "path" string
    envOverrides := ← fs.read "env_overrides" value .null }

/-- The settings panel. -/
structure SettingsView where
  form : SettingsForm
  pathLabel : String
  maxCharsHint : String
  effectiveNote : String
  hasEnvOverrides : Bool
  deriving DecidableEq, Inhabited, Repr

/-- The panel for a configuration payload. -/
def SettingsView.build (payload : ConfigPayload) : SettingsView :=
  let defaultMax := settingText payload.defaults "observer_max_chars"
  { form := SettingsForm.ofConfig payload.config
    pathLabel :=
      match payload.path.filter (!·.isEmpty) with
      | some p => "Config path: " ++ p
      | none => "Config path: n/a"
    maxCharsHint := if defaultMax.isEmpty then "" else "Default: " ++ defaultMax
    effectiveNote :=
      if Json.isTruthy payload.envOverrides then "Effective config differs (env overrides active)"
      else ""
    hasEnvOverrides := settingFlag payload.config "has_env_overrides" }

/-- The panel as the dashboard writes it. -/
def SettingsView.toJson (v : SettingsView) : Json :=
  Json.obj
    [ ("form", v.form.toJson), ("path_label", .str v.pathLabel),
      ("max_chars_hint", .str v.maxCharsHint), ("effective_note", .str v.effectiveNote),
      ("has_env_overrides", .bool v.hasEnvOverrides) ]

end Settings

end MemoryDashboard
