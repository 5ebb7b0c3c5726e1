import MemoryDashboard.Json.Write

/-! # The compact text, character by character

The characters `compact` writes for each kind of value: a string in quotes with each character
escaped on its own, and a container's items or members in brackets, the first written alone and
every later one after a comma. A reader of the text follows these shapes.
-/

namespace MemoryDashboard.Json

theorem quote_toList (s : String) :
    (quote s).toList = '"' :: (s.toList.flatMap (fun ch => (escapeChar ch).toList) ++ ['"']) := by
  simp [quote, String.toList_join, List.flatMap_def, Function.comp_def]

theorem compact_array_toList (items : List Json) :
    (compact (.array items)).toList = '[' :: ((compactItems items).toList ++ [']']) := by
  simp [compact]

theorem compact_object_toList (members : Members) :
    (compact (.object members)).toList = '{' :: ((compactMembers members).toList ++ ['}']) := by
  simp [compact]

theorem compactItems_toList (x : Json) (rest : List Json) :
    (compactItems (x :: rest)).toList =
      (compact x).toList ++ rest.flatMap fun y => ',' :: (compact y).toList := by
  induction rest generalizing x with
  | nil => simp [compactItems]
  | cons y ys ih => simp [compactItems, ih y]

theorem compactMembers_toList (p : String × Json) (rest : List (String × Json)) :
    (compactMembers (p :: rest)).toList =
      (compactMembers [p]).toList ++ rest.flatMap fun q => ',' :: (compactMembers [q]).toList := by
  induction rest generalizing p with
  | nil => simp
  | cons q qs ih =>
      obtain ⟨k, v⟩ := p
      simp [compactMembers, ih q]

theorem member_toList (k : String) (v : Json) :
    (compactMembers [(k, v)]).toList =
      '"' :: (k.toList.flatMap (fun ch => (escapeChar ch).toList) ++
        '"' :: ':' :: (compact v).toList) := by
  simp [compactMembers, quote_toList]

end MemoryDashboard.Json
