import MemoryDashboard.Json.Decode
import MemoryDashboard.Json.Lenient
import MemoryDashboard.Decimal.Read
import MemoryDashboard.Decimal.Truncate
/-!
# The settings form

The settings panel edits the observer, the memory pack limits and sync. The form holds every
value as text, except two switches. It is filled from the service's configuration: a text
field shows the text of a truthy scalar and is empty otherwise, and a switch is on exactly when
the value is truthy.

When the form is saved, the number fields are read back: a blank, zero, unreadable or infinite
field is sent as an empty string, a whole number below 2^63 in size as an integer, and any other
number as a float.
-/

namespace MemoryDashboard

namespace Settings

/-- The settings form. -/
structure SettingsForm where
  observerProvider : String := ""
  observerModel : String := ""
  observerMaxChars : String := ""
  packObservationLimit : String := ""
  packSessionLimit : String := ""
  syncEnabled : Bool := false
  syncHost : String := ""
  syncPort : String := ""
  syncIntervalS : String := ""
  syncMdns : Bool := false
  deriving DecidableEq, Inhabited, Repr

/-- The text of a truthy scalar setting; empty otherwise. -/
def settingText (config : Json.Members) (key : String) : String :=
  ((config.lookup key).filter Json.isTruthy |>.bind Json.scalarText?).getD ""

/-- Whether a setting is truthy. -/
def settingFlag (config : Json.Members) (key : String) : Bool :=
  (config.lookup key).any Json.isTruthy

/-- The number a field holds: a blank field holds zero, and otherwise the trimmed text is read
as a float; `none` when it is not one. -/
def fieldNumber (raw : String) : Option Float :=
  let trimmed := Text.trim raw
  if trimmed.isEmpty then some 0.0 else Decimal.readFloat? trimmed

/-- A number field as it is sent: an integer, a float, or an empty string. -/
def numberOrBlank (raw : String) : Json :=
  match (fieldNumber raw).filter (fun n => !n.isNaN && !n.isInf && n != 0.0) with
  | some n =>
    -- whole and below 2^63 in size, judged on the exact value
    if Decimal.isWhole n && (Decimal.truncate n).natAbs < Nat.pow 2 63 then
      Json.int (Decimal.truncate n)
    else Json.float n
  | none => .str ""

namespace SettingsForm

/-- The form for a configuration. -/
def ofConfig (config : Json.Members) : SettingsForm :=
  { observerProvider := settingText config "observer_provider"
    observerModel := settingText config "observer_model"
    observerMaxChars := settingText config "observer_max_chars"
    packObservationLimit := settingText config "pack_observation_limit"
    packSessionLimit := settingText config "pack_session_limit"
    syncEnabled := settingFlag config "sync_enabled"
    syncHost := settingText config "sync_host"
    syncPort := settingText config "sync_port"
    syncIntervalS := settingText config "sync_interval_s"
    syncMdns := settingFlag config "sync_mdns" }

/-- The configuration the form sends. -/
def toPayload (f : SettingsForm) : Json :=
  Json.obj
    [ ("observer_provider", .str f.observerProvider), ("observer_model", .str f.observerModel),
      ("observer_max_chars", numberOrBlank f.observerMaxChars),
      ("pack_observation_limit", numberOrBlank f.packObservationLimit),
      ("pack_session_limit", numberOrBlank f.packSessionLimit),
      ("sync_enabled", .bool f.syncEnabled), ("sync_host", .str f.syncHost),
      ("sync_port", numberOrBlank f.syncPort), ("sync_interval_s", numberOrBlank f.syncIntervalS),
      ("sync_mdns", .bool f.syncMdns) ]

/-- The form as the dashboard writes it. -/
def toJson (f : SettingsForm) : Json :=
  Json.obj
    [ ("observer_provider", .str f.observerProvider), ("observer_model", .str f.observerModel),
      ("observer_max_chars", .str f.observerMaxChars),
      ("pack_observation_limit", .str f.packObservationLimit),
      ("pack_session_limit", .str f.packSessionLimit), ("sync_enabled", .bool f.syncEnabled),
      ("sync_host", .str f.syncHost), ("sync_port", .str f.syncPort),
      ("sync_interval_s", .str f.syncIntervalS), ("sync_mdns", .bool f.syncMdns) ]

open Json.Decode in
/-- Reads a form; every field may be left out. -/
def decoder : Json.Decoder SettingsForm := fun node => do
  let fs ← record "SettingsForm"
    [ .of "observer_provider" string, .of "observer_model" string,
      .of "observer_max_chars" string, .of "pack_observation_limit" string,
      .of "pack_session_limit" string, .of "sync_enabled" bool, .of "sync_host" string,
      .of "sync_port" string, .of "sync_interval_s" string, .of "sync_mdns" bool ] true node
  return {
    observerProvider := ← fs.read "observer_provider" string ""
    observerModel := ← fs.read "observer_model" string ""
    observerMaxChars := ← fs.read "observer_max_chars" string ""
    packObservationLimit := ← fs.read "pack_observation_limit" string ""
    packSessionLimit := ← fs.read "pack_session_limit" string ""
    syncEnabled := ← fs.read "sync_enabled" bool false
    syncHost := ← fs.read "sync_host" string ""
    syncPort := ← fs.read "sync_port" string ""
    syncIntervalS := ← fs.read "sync_interval_s" string ""
    syncMdns := ← fs.read "sync_mdns" bool false }

end SettingsForm

end Settings

end MemoryDashboard
