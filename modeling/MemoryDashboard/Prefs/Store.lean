import MemoryDashboard.Prefs.Theme
import MemoryDashboard.Storage.Disk
import MemoryDashboard.Feed.Filter
import MemoryDashboard.Json.Write
/-!
# Preferences

The dashboard remembers the active tab, the feed filter, the theme and which sync panels are
open, as text values by key. A store may keep them in memory only, or in a file that it reads
when opened and rewrites after every change.

A file that cannot be read or is not a JSON object starts the store empty; only its string
members are kept. A file that cannot be written leaves the store changed in memory. The file
holds the values as a pretty-printed object with sorted keys.

Switches are stored as `1` and `0`; a switch is on only when stored as `1`, except redaction of
sync addresses, which is on unless stored as `0`. A tab, filter or theme that does not read back
gives the default.
-/

namespace MemoryDashboard

namespace Prefs

/-- The key of the active tab. -/
def tabKey : String := "codemem-tab"
/-- The key of the feed filter. -/
def feedFilterKey : String := "codemem-feed-filter"
/-- The key of the theme. -/
def themeKey : String := "codemem-theme"
/-- The key of the sync diagnostics panel. -/
def syncDiagnosticsKey : String := "codemem-sync-diagnostics"
/-- The key of the sync pairing panel. -/
def syncPairingKey : String := "codemem-sync-pairing"
/-- The key of sync address redaction. -/
def syncRedactKey : String := "codemem-sync-redact"
/-- The key of the details panel. -/
def detailsOpenKey : String := "codemem-details-open"

/-- The dashboard's tabs. -/
inductive Tab where
  | feed
  | health
  | sync
  deriving DecidableEq, Inhabited, Repr

/-- Reads a tab name, exactly. -/
def Tab.parse? : String → Option Tab
  | "feed" => some .feed
  | "health" => some .health
  | "sync" => some .sync
  | _ => none

/-- The name of a tab. -/
def Tab.name : Tab → String
  | .feed => "feed"
  | .health => "health"
  | .sync => "sync"

/-- Text values by key, sorted by key. -/
abbrev Values := List (String × String)

/-- Sets a value, keeping the keys sorted. -/
def Values.insert (key value : String) : Values → Values
  | [] => [(key, value)]
  | (k, v) :: rest =>
    if key < k then (key, value) :: (k, v) :: rest
    else if key = k then (key, value) :: rest
    else (k, v) :: Values.insert key value rest

/-- The values a file holds: the string members of the JSON object it contains. -/
def Values.ofFileText (text : String) : Option Values :=
  match Json.read text with
  | .ok (.object members) => some (members.filterMap fun (k, v) => v.asString?.map (k, ·))
  | _ => none

/-- The file text of some values. -/
def Values.fileText (values : Values) : String :=
  Json.pretty (.object (values.map fun (k, v) => (k, .str v)))

/-- A preference store: where it keeps its file, if anywhere, and its values. -/
structure PrefsStore where
  path : Option String := none
  values : Values := []
  deriving Inhabited

namespace PrefsStore

/-- Opens a store kept in a file; an unreadable file starts it empty. -/
def openFile (disk : Storage.Disk) (path : String) : PrefsStore :=
  { path := some path
    values := match disk.read path with
      | .ok text => (Values.ofFileText text).getD []
      | .error _ => [] }

/-- Writes the values to the store's file, creating its directory. -/
def save (disk : Storage.Disk) (path : String) (values : Values) : Except Storage.IoError Storage.Disk := do
  let disk ← match Storage.Disk.parentOf path with
    | some dir => if dir.isEmpty then pure disk else disk.createDirAll dir
    | none => pure disk
  disk.write path values.fileText

/-- Sets a value and rewrites the file; a failed write leaves the disk as it was. -/
def set (s : PrefsStore) (disk : Storage.Disk) (key value : String) : PrefsStore × Storage.Disk :=
  let values := s.values.insert key value
  let disk := match s.path with
    | some path => (save disk path values).toOption.getD disk
    | none => disk
  ({ s with values }, disk)

/-- The value of a key. -/
def get? (s : PrefsStore) (key : String) : Option String := s.values.lookup key

/-- The active tab; the feed by default. -/
def activeTab (s : PrefsStore) : Tab := ((s.get? tabKey).bind Tab.parse?).getD .feed

/-- The feed filter; all items by default. -/
def feedFilter (s : PrefsStore) : Feed.FeedFilter :=
  ((s.get? feedFilterKey).map Feed.FeedFilter.parse).getD .all

/-- The theme: the saved one, else the one the system prefers. -/
def theme (s : PrefsStore) (prefersDark : Bool) : ThemeOption :=
  match (s.get? themeKey).filter (!·.isEmpty) with
  | some saved => resolveTheme saved
  | none => resolveTheme (if prefersDark then "dark" else "light")

/-- A switch stored as `1`. -/
def flag (s : PrefsStore) (key : String) : Bool := s.get? key == some "1"

/-- Whether sync addresses are redacted: unless stored as `0`. -/
def syncRedaction (s : PrefsStore) : Bool := s.get? syncRedactKey != some "0"

/-- The text a switch is stored as. -/
def flagText (on : Bool) : String := if on then "1" else "0"

end PrefsStore

/-- What the preferences say, as the dashboard shows them. -/
structure PrefsView where
  tab : Tab
  feedFilter : Feed.FeedFilter
  theme : ThemeOption
  syncDiagnostics : Bool
  syncPairing : Bool
  syncRedact : Bool
  detailsOpen : Bool
  deriving DecidableEq, Inhabited, Repr

/-- The view of a store, with the theme for a light system. -/
def PrefsStore.view (s : PrefsStore) : PrefsView :=
  { tab := s.activeTab, feedFilter := s.feedFilter, theme := s.theme false
    syncDiagnostics := s.flag syncDiagnosticsKey, syncPairing := s.flag syncPairingKey
    syncRedact := s.syncRedaction, detailsOpen := s.flag detailsOpenKey }

/-- The view as the dashboard writes it. -/
def PrefsView.toJson (v : PrefsView) : Json :=
  Json.obj
    [ ("tab", .str v.tab.name), ("feed_filter", .str v.feedFilter.name), ("theme", .str v.theme.id),
      ("sync_diagnostics", .bool v.syncDiagnostics), ("sync_pairing", .bool v.syncPairing),
      ("sync_redact", .bool v.syncRedact), ("details_open", .bool v.detailsOpen) ]

/-- The theme as the dashboard writes it. -/
def ThemeOption.toJson (t : ThemeOption) : Json :=
  Json.obj [("id", .str t.id), ("label", .str t.label), ("mode", .str t.mode.name)]

/-- A change or question to a store. -/
inductive PrefsStep where
  | set (key value : String)
  | get (key : String)
  | setActiveTab (tab : Tab)
  | setFeedFilter (filter : Feed.FeedFilter)
  | setTheme (themeId : String)
  | setFlag (key : String) (on : Bool)
  | reopen
  | showFile
  deriving Inhabited

/-- A store together with the disk it keeps its file on. -/
structure PrefsSession where
  store : PrefsStore
  disk : Storage.Disk
  deriving Inhabited

namespace PrefsSession

/-- Opens a session: on the file at a path when there is one, else in memory. -/
def start (disk : Storage.Disk) (path : Option String) : PrefsSession :=
  { store := match path with
      | some p => PrefsStore.openFile disk p
      | none => {}
    disk }

/-- Sets a value. -/
def setValue (s : PrefsSession) (key value : String) : PrefsSession :=
  let (store, disk) := s.store.set s.disk key value
  { store, disk }

/-- Takes one step, answering nothing, a text, or a theme. -/
def step (s : PrefsSession) : PrefsStep → Sum (Option String) ThemeOption × PrefsSession
  | .set key value => (.inl none, s.setValue key value)
  | .get key => (.inl (s.store.get? key), s)
  | .setActiveTab tab => (.inl none, s.setValue tabKey tab.name)
  | .setFeedFilter filter => (.inl none, s.setValue feedFilterKey filter.name)
  | .setTheme themeId =>
    let t := resolveTheme themeId
    (.inr t, s.setValue themeKey t.id)
  | .setFlag key on => (.inl none, s.setValue key (PrefsStore.flagText on))
  | .reopen => (.inl none, start s.disk s.store.path)
  | .showFile =>
    (.inl (s.store.path.bind fun p => (s.disk.read p).toOption), s)

end PrefsSession

end Prefs

end MemoryDashboard
