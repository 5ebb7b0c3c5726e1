import MemoryDashboard.Text.Case
import MemoryDashboard.Text.Blank
/-!
# Labels

Small rules that turn service values into display labels: normalized text for comparison and
search (blank runs collapsed, trimmed, lowered), a capital first letter, labels from snake-case
keys, the label part of a `label:detail` tag, short file lists and whole numbers with thousands
separators.
-/

namespace MemoryDashboard

namespace Text

/-- Blank runs collapsed to one space, trimmed, lowered. -/
def normalize (s : String) : String :=
  lower (trim (String.ofList (collapseBlanks s.toList)))

/-- The trimmed text with its first character upper-cased; `Unknown` when nothing is left. -/
def titleCase (s : String) : String :=
  let t := trim s
  if t.isEmpty then "Unknown" else String.ofList (upperFirst t.toList)

/-- A label from a snake-case key: underscores become spaces, each space-separated part gets
an upper-case first character, and the result is trimmed (`next_steps` is `Next Steps`). -/
def titleLabel (s : String) : String :=
  let spaced := s.toList.map (fun c => if c = '_' then ' ' else c)
  let parts := (String.ofList spaced).splitOn " "
  trim (" ".intercalate (parts.map fun p => String.ofList (upperFirst p.toList)))

/-- The label of a `label:detail` tag: the trimmed text before the first colon, or the whole
trimmed tag. -/
def tagLabel (tag : String) : String :=
  let t := trim tag
  match t.splitOn ":" with
  | label :: _ :: _ => trim label
  | _ => t

/-- The first `limit` non-blank file names (trimmed), joined by `, `, with `+N` for the rest. -/
def fileList (files : List String) (limit : Nat) : String :=
  let names := (files.map trim).filter (fun f => !f.isEmpty)
  if names.isEmpty then ""
  else
    let shown := ", ".intercalate (names.take limit)
    if names.length > limit then shown ++ " +" ++ toString (names.length - limit) else shown

/-- Groups the digits of a natural number by three from the right with commas. -/
def groupThousands (n : Nat) : String :=
  let ds := (toString n).toList
  let len := ds.length
  let withCommas := (ds.zipIdx).foldl
    (fun acc (c, i) => if i > 0 && (len - i) % 3 == 0 then acc ++ [',', c] else acc ++ [c]) []
  String.ofList withCommas

/-- A whole number with thousands separators and a leading minus when negative. -/
def countText (n : Int) : String :=
  (if n < 0 then "-" else "") ++ groupThousands n.natAbs

end Text

end MemoryDashboard
