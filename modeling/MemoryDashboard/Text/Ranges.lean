/-!
# Character classes as sorted ranges

A class of characters from a standard is kept as a sorted array of disjoint inclusive ranges of
code points; membership is a binary search. Case mappings are kept as runs: a run maps every
`stride`-th code point from `first` to `last` to the code point `delta` away.
-/

namespace MemoryDashboard

namespace Text

/-- Whether `n` lies in one of the sorted, disjoint inclusive ranges. -/
def inRanges (table : Array (Nat × Nat)) (n : Nat) : Bool :=
  go 0 table.size 64
where
  /-- Searches the ranges with index in `[lo, hi)`; the fuel outlasts the halvings. -/
  go (lo hi fuel : Nat) : Bool :=
    match fuel with
    | 0 => false
    | fuel + 1 =>
      if hi ≤ lo then false
      else
        let mid := (lo + hi) / 2
        match table[mid]? with
        | none => false
        | some (a, b) =>
          if n < a then go lo mid fuel
          else if b < n then go (mid + 1) hi fuel
          else true

/-- A run of a case mapping. -/
structure CaseRun where
  first : Nat
  last : Nat
  delta : Int
  stride : Nat

/-- The image of `n` under sorted, disjoint runs, if a run maps it. -/
def mapByRuns (table : Array CaseRun) (n : Nat) : Option Nat :=
  go 0 table.size 64
where
  /-- Searches the runs with index in `[lo, hi)`. -/
  go (lo hi fuel : Nat) : Option Nat :=
    match fuel with
    | 0 => none
    | fuel + 1 =>
      if hi ≤ lo then none
      else
        let mid := (lo + hi) / 2
        match table[mid]? with
        | none => none
        | some r =>
          if n < r.first then go lo mid fuel
          else if r.last < n then go (mid + 1) hi fuel
          else if (n - r.first) % r.stride == 0 then some ((n : Int) + r.delta).toNat
          else none

end Text

end MemoryDashboard
