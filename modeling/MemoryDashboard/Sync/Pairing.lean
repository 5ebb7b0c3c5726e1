import MemoryDashboard.Json.Write
import MemoryDashboard.Json.Lenient
import MemoryDashboard.Text.Base64
/-!
# Pairing

Another device joins sync by running a command that carries this device's pairing payload.
The payload is written as compact JSON with its keys in order, with `addresses` forced to an
array (an empty one when it is missing or not an array), then encoded as base64 inside a shell
command that decodes it and hands it to the pairing tool.

The pairing panel is unavailable without a payload object, hidden when the payload is marked
as redacted (any truthy `redacted`), and otherwise shows the command.
-/

namespace MemoryDashboard

namespace Sync

/-- The hint shown beside a pairing command. -/
def pairingHint : String :=
  "Copy this command and run it on the other device. Use --include/--exclude to control which projects sync."

/-- The pairing command for a payload. -/
def pairingCommand (payload : Json.Members) : String :=
  let safe :=
    match payload.lookup "addresses" with
    | some (.array _) => payload
    | _ => Json.Members.insert "addresses" (.array []) payload
  "echo '" ++ Text.base64 (Json.compact (.object safe)) ++
    "' | base64 -d | codemem sync pair --accept-file -"

/-- What the pairing panel shows. -/
inductive PairingView where
  | unavailable (message hint : String)
  | hidden (message hint : String)
  | ready (command hint : String)
  deriving DecidableEq, Inhabited, Repr

namespace PairingView

/-- The panel for an optional payload. -/
def build (payload : Option Json) : PairingView :=
  match payload.bind Json.asObject? with
  | none => .unavailable "Pairing not available" "Enable sync and retry."
  | some obj =>
    if (obj.lookup "redacted").any Json.isTruthy then
      .hidden "Pairing payload hidden" "Diagnostics are required to view the pairing payload."
    else .ready (pairingCommand obj) pairingHint

/-- The command, when the panel shows one. -/
def command? : PairingView → Option String
  | .ready command _ => some command
  | _ => none

/-- The panel as the dashboard writes it, tagged by its state. -/
def toJson : PairingView → Json
  | .unavailable message hint =>
    Json.obj [("state", .str "unavailable"), ("message", .str message), ("hint", .str hint)]
  | .hidden message hint =>
    Json.obj [("state", .str "hidden"), ("message", .str message), ("hint", .str hint)]
  | .ready command hint =>
    Json.obj [("state", .str "ready"), ("command", .str command), ("hint", .str hint)]

end PairingView

end Sync

end MemoryDashboard
