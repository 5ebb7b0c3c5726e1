import MemoryDashboard.Text.Blank
/-!
# Working sets

The files an agent is working on are passed to `codemem pack` as `--working-set-file` arguments,
one per non-blank path, trimmed, in order.

The files a patch touches are read off its `*** Update File: ` and `*** Add File: ` lines:
each line is taken without its line break (a carriage return before it included) and without
trailing blanks, and the trimmed path after the marker is kept once, first occurrence first.
-/

namespace MemoryDashboard

namespace Plugin

/-- The flag that names a working-set file. -/
def workingSetFlag : String := "--working-set-file"

/-- Appends a flag and a path for each non-blank path, trimmed. -/
def appendWorkingSetArgs (args paths : List String) : List String :=
  args ++ ((paths.map Text.trim).filter (!·.isEmpty)).flatMap fun p => [workingSetFlag, p]

/-- The lines of a text: split at line feeds, a carriage return before a feed dropped, and
no empty last line after a final feed. -/
def textLines (text : String) : List String :=
  let pieces := text.splitOn "\n"
  let ended := pieces.dropLast.map fun l =>
    if l.endsWith "\r" then String.ofList l.toList.dropLast else l
  match pieces.getLast? with
  | some "" | none => ended
  | some last => ended ++ [last]

/-- The markers of the lines that name a file. -/
def patchFileMarkers : List String := ["*** Update File: ", "*** Add File: "]

/-- The path a patch line names, when it starts with a marker and something follows it. -/
def patchLinePath (line : String) : Option String :=
  let line := Text.trimEnd line
  (patchFileMarkers.findSome? fun m =>
    if line.startsWith m then some (Text.trim (String.ofList (line.toList.drop m.length)))
    else none).filter (!·.isEmpty)

/-- The files a patch adds or updates, first occurrence first. -/
def applyPatchPaths (patch : String) : List String :=
  ((textLines patch).filterMap patchLinePath).foldl
    (fun acc p => if acc.contains p then acc else acc ++ [p]) []

end Plugin

end MemoryDashboard
