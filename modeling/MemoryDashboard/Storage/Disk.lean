/-!
# The dashboard's files

The dashboard reads its configuration and keeps its preferences in files. A disk here is the
working directory, named by its absolute path, with the files and directories under it.

A path names an entry of the disk when it is relative (it is then taken from the working
directory) or when it starts with the working directory's path. Any other absolute path is
outside the disk and holds nothing, and so does the empty path.

Looking up, reading and writing walk a path the way the operating system does: a name steps
into an entry, `.` and empty components stay, `..` steps back out, and stepping on past a file
or past nothing fails, even when a later `..` would come back (`missing/../file` does not
exist). Creating directories takes the components as written, `..` dropping the one before it.

Reading, creating directories and writing fail as the operating system does: a missing entry,
a directory where a file is expected, or a file where a directory is expected.
-/

namespace MemoryDashboard

namespace Storage

/-- What stands at a path. -/
inductive Entry where
  | directory
  | file (content : String)
  deriving DecidableEq, Inhabited, Repr

/-- Why a file operation failed. -/
inductive IoError where
  | notFound
  | isDirectory
  | notDirectory
  | alreadyExists
  deriving DecidableEq, Inhabited, Repr

/-- The operating system's text of a failure. -/
def IoError.message : IoError → String
  | .notFound => "No such file or directory (os error 2)"
  | .isDirectory => "Is a directory (os error 21)"
  | .notDirectory => "Not a directory (os error 20)"
  | .alreadyExists => "File exists (os error 17)"

/-- The working directory and the entries under it, by their components. -/
structure Disk where
  root : String
  entries : List (List String × Entry) := []
  deriving Inhabited

/-- The components of a relative path: `.` and empty components skipped, `..` going up. -/
def components (path : String) : List String :=
  ((path.splitOn "/").foldl
    (fun acc part =>
      if part.isEmpty || part == "." then acc
      else if part == ".." then acc.dropLast
      else acc ++ [part]) [])

namespace Disk

/-- The components of a path under the working directory as written; none for a path outside
it. -/
def relativeParts (d : Disk) (path : String) : Option (List String) :=
  if path.isEmpty then none
  else if path == d.root then some []
  else if path.startsWith (d.root ++ "/") then
    some ((String.ofList (path.toList.drop (d.root.length + 1))).splitOn "/")
  else if path.startsWith "/" then none
  else some (path.splitOn "/")

/-- The components of a path under the working directory, `..` dropping the one before it;
none for a path outside it. -/
def locate (d : Disk) (path : String) : Option (List String) :=
  (d.relativeParts path).map fun parts => components ("/".intercalate parts)

/-- The entry at some components; the working directory is a directory. -/
def entryAt (d : Disk) (parts : List String) : Option Entry :=
  if parts.isEmpty then some .directory else d.entries.lookup parts

/-- Walks components from the directory `here`: where they lead, or why a step failed. A name
with more components after it must be a directory; `..` steps back out, and out of the working
directory there is nothing. -/
def walk (d : Disk) (here : List String) : List String → Except IoError (List String)
  | [] => .ok here
  | part :: rest =>
    if part.isEmpty || part == "." then d.walk here rest
    else if part == ".." then
      if here.isEmpty then .error .notFound else d.walk here.dropLast rest
    else
      let next := here ++ [part]
      if rest.isEmpty then .ok next
      else
        match d.entryAt next with
        | some .directory => d.walk next rest
        | some (.file _) => .error .notDirectory
        | none => .error .notFound

/-- Where a path leads, walked from the working directory. -/
def resolve (d : Disk) (path : String) : Except IoError (List String) :=
  match d.relativeParts path with
  | none => .error .notFound
  | some parts => d.walk [] parts

/-- The entry at a path. -/
def entry? (d : Disk) (path : String) : Option Entry :=
  match d.resolve path with
  | .ok parts => d.entryAt parts
  | .error _ => none

/-- Whether something stands at a path. -/
def exists? (d : Disk) (path : String) : Bool := (d.entry? path).isSome

/-- The text of the file at a path. -/
def read (d : Disk) (path : String) : Except IoError String := do
  let parts ← d.resolve path
  match d.entryAt parts with
  | some (.file content) => .ok content
  | some .directory => .error .isDirectory
  | none => .error .notFound

/-- Sets the entry at some components. -/
def put (d : Disk) (parts : List String) (e : Entry) : Disk :=
  { d with entries := (d.entries.filter (·.1 != parts)) ++ [(parts, e)] }

/-- Creates a directory and every missing directory above it. -/
def createDirAll (d : Disk) (path : String) : Except IoError Disk :=
  match d.locate path with
  | none => .error .notFound
  | some parts =>
    (List.range parts.length).foldlM
      (fun (disk : Disk) n =>
        let prefixParts := parts.take (n + 1)
        match disk.entryAt prefixParts with
        | some .directory => .ok disk
        | some (.file _) => .error (if n + 1 = parts.length then .alreadyExists else .notDirectory)
        | none => .ok (disk.put prefixParts .directory))
      d

/-- Writes a file whose directory exists: the walk to it checks every directory on the way. -/
def write (d : Disk) (path : String) (content : String) : Except IoError Disk := do
  let parts ← d.resolve path
  match d.entryAt parts with
  | some .directory => .error .isDirectory
  | _ => .ok (d.put parts (.file content))

/-- The directory part of a path, when it has one: everything before the last `/`. -/
def parentOf (path : String) : Option String :=
  let cs := path.toList
  if cs.contains '/' then
    let dir := (cs.reverse.dropWhile (· != '/')).drop 1 |>.reverse
    some (String.ofList dir)
  else none

/-- Creates a file with the directories above it, as a test setup does. -/
def withFile (d : Disk) (path content : String) : Except IoError Disk := do
  let d ← match parentOf path with
    | some dir => if dir.isEmpty then pure d else d.createDirAll dir
    | none => pure d
  d.write path content

end Disk

end Storage

end MemoryDashboard
