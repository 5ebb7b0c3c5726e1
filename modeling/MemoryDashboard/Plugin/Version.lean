import MemoryDashboard.Text.Blank
/-!
# Backend versions

The editor plugin checks that the backend is recent enough. A version is exactly three
unsigned 64-bit numbers written in ASCII digits and joined by points, with blanks allowed around
the whole; anything else (a prefix, a suffix, a pre-release tag, a fourth part) is not a
version. Versions compare part by part, and a side that is not a version is never recent
enough.
-/

namespace MemoryDashboard

namespace Plugin

/-- A version: major, minor and patch. -/
structure Version where
  major : Nat
  minor : Nat
  patch : Nat
  deriving DecidableEq, Inhabited, Repr

/-- One part of a version: ASCII digits, at least one, below 2^64. -/
def versionPart? (ds : List Char) : Option Nat :=
  if ds.isEmpty || !ds.all Char.isDigit then none
  else
    let n := ds.foldl (fun acc c => acc * 10 + (c.toNat - '0'.toNat)) 0
    if n < Nat.pow 2 64 then some n else none

/-- Reads a strict `x.y.z` version after trimming blanks: the text is cut at every point. -/
def Version.parse? (value : String) : Option Version :=
  match (Text.trim value).toList.splitOn '.' with
  | [a, b, c] => do
    some ⟨← versionPart? a, ← versionPart? b, ← versionPart? c⟩
  | _ => none

/-- Whether one version is at least another, part by part. -/
def Version.atLeast (current minimum : Version) : Bool :=
  if current.major ≠ minimum.major then current.major > minimum.major
  else if current.minor ≠ minimum.minor then current.minor > minimum.minor
  else current.patch ≥ minimum.patch

/-- Whether the current version is at least the minimum; false when either is not a
version. -/
def versionAtLeast (current minimum : String) : Bool :=
  match Version.parse? current, Version.parse? minimum with
  | some c, some m => c.atLeast m
  | _, _ => false

end Plugin

end MemoryDashboard
