import MemoryDashboard.Storage.Disk
import Mathlib.Data.String.Basic

/-! # Reading back what was written

Writing a file sets the entry its path leads to and nothing else. The walk to that path only
steps through directories, and the entry written was no directory (else the write fails), so the
same walk leads to it again afterwards: reading the path gives back the text written
(`read_of_write`).

Paths are cut at every `/` by `String.splitOn`, whose loop over byte positions is cut the same
way as the list of the path's characters (`splitOn_slash`); a plain file name is then a path of
one component.
-/

namespace MemoryDashboard.Storage.Disk

/-- Setting the entry at some components changes what stands there and nothing else; the
working directory itself stays a directory. -/
theorem entryAt_put (d : Disk) (parts : List String) (e : Entry) (q : List String) :
    (d.put parts e).entryAt q =
      if q.isEmpty then some .directory else if q = parts then some e else d.entryAt q := by
  unfold entryAt put
  by_cases root : q.isEmpty
  · simp [root]
  · simp only [root, Bool.false_eq_true, ↓reduceIte, List.lookup_append]
    by_cases same : q = parts
    · subst same
      have gone : (d.entries.filter (·.1 != q)).lookup q = none :=
        List.lookup_eq_none_iff.mpr fun p kept => by
          rw [bne_comm]
          exact (List.mem_filter.mp kept).2
      simp [gone]
    · have kept : (d.entries.filter (·.1 != parts)).lookup q = d.entries.lookup q := by
        induction d.entries with
        | nil => rfl
        | cons p rest ih =>
          obtain ⟨k, v⟩ := p
          by_cases removed : k = parts
          · subst removed
            simp [List.lookup_cons, beq_false_of_ne same, ih]
          · simp [removed, List.lookup_cons, ih]
      have other : (q == parts) = false := by simpa using same
      simp [kept, same, List.lookup_cons, other]

/-- A walk that leads to an entry other than a directory leads there again once that entry is
set: every entry it stepped through on the way was a directory. -/
theorem walk_put {d : Disk} {final : List String} (e : Entry)
    (notDirectory : d.entryAt final ≠ some .directory) :
    ∀ {here parts : List String}, d.walk here parts = .ok final →
      (d.put final e).walk here parts = .ok final := by
  intro here parts walked
  induction parts generalizing here with
  | nil => exact walked
  | cons part rest ih =>
    rw [walk] at walked ⊢
    by_cases stay : (part.isEmpty || part == ".") = true
    · rw [if_pos stay] at walked ⊢
      exact ih walked
    rw [if_neg stay] at walked ⊢
    by_cases up : (part == "..") = true
    · rw [if_pos up] at walked ⊢
      by_cases top : here.isEmpty = true
      · rw [if_pos top] at walked
        cases walked
      · rw [if_neg top] at walked ⊢
        exact ih walked
    rw [if_neg up] at walked ⊢
    by_cases last : rest.isEmpty = true
    · rw [if_pos last] at walked ⊢
      exact walked
    rw [if_neg last] at walked ⊢
    -- the walk goes on only through a directory, which the written entry is not
    cases entry : d.entryAt (here ++ [part]) with
    | none => simp [entry] at walked
    | some found =>
      cases found with
      | file _ => simp [entry] at walked
      | directory =>
        rw [entry] at walked
        have other : here ++ [part] ≠ final := fun same => notDirectory (same ▸ entry)
        rw [entryAt_put, if_neg (by simp), if_neg other, entry]
        exact ih walked

/-- Where a path leads does not change when an entry other than a directory is set there: the
working directory's path, from which the components are read, stays. -/
theorem resolve_put {d : Disk} {path : String} {final : List String} (e : Entry)
    (notDirectory : d.entryAt final ≠ some .directory) (resolved : d.resolve path = .ok final) :
    (d.put final e).resolve path = .ok final := by
  unfold resolve at resolved ⊢
  have relative : (d.put final e).relativeParts path = d.relativeParts path := rfl
  rw [relative]
  cases found : d.relativeParts path with
  | none => simp [found] at resolved
  | some parts =>
    simp only [found] at resolved ⊢
    exact walk_put e notDirectory resolved

/-- A write succeeds exactly where its path leads to something other than a directory, and it
sets the file there. -/
theorem write_eq_ok {d d' : Disk} {path content : String} :
    d.write path content = .ok d' ↔ ∃ parts, d.resolve path = .ok parts ∧
      d.entryAt parts ≠ some .directory ∧ d' = d.put parts (.file content) := by
  unfold write
  cases resolved : d.resolve path with
  | error e => simp [bind, Except.bind]
  | ok parts =>
    simp only [bind, Except.bind, Except.ok.injEq, exists_eq_left']
    cases entry : d.entryAt parts with
    | none => simp [eq_comm]
    | some found => cases found <;> simp [eq_comm]

/-- Reading a path gives back the text last written to it. -/
theorem read_of_write {d d' : Disk} {path content : String} (written : d.write path content = .ok d') :
    d'.read path = .ok content := by
  obtain ⟨parts, resolved, notDirectory, rfl⟩ := write_eq_ok.mp written
  have root : parts.isEmpty = false := by
    cases parts with
    | nil => exact absurd rfl notDirectory
    | cons => rfl
  simp [read, resolve_put _ notDirectory resolved, bind, Except.bind, entryAt_put, root]

/-- `String.splitOn` at `/` from the byte position of `l ++ m`, with `m` the piece begun so
far: the pieces of the rest after the ones already cut. -/
theorem splitOnAux_slash (l m r : List Char) (acc : List String) :
    String.splitOnAux (String.ofList (l ++ m ++ r)) "/" ⟨String.utf8Len l⟩
        ⟨String.utf8Len l + String.utf8Len m⟩ 0 acc =
      acc.reverse ++ (List.splitOnPPrepend (· == '/') r m.reverse).map String.ofList := by
  induction r generalizing l m acc with
  | nil =>
    rw [String.splitOnAux, if_pos (by simp [-String.ofList_append]), String.extract_of_valid l m []]
    simp
  | cons c r ih =>
    have atChar : String.Pos.Raw.get (String.ofList (l ++ m ++ c :: r))
        ⟨String.utf8Len l + String.utf8Len m⟩ = c := by
      simpa [-String.ofList_append] using String.get_of_valid (l ++ m) (c :: r)
    have next : String.Pos.Raw.next (String.ofList (l ++ m ++ c :: r))
        ⟨String.utf8Len l + String.utf8Len m⟩ = ⟨String.utf8Len l + String.utf8Len m + c.utf8Size⟩ := by
      simpa [-String.ofList_append] using String.next_of_valid (l ++ m) c r
    have notEnd : ¬ (String.Pos.Raw.atEnd (String.ofList (l ++ m ++ c :: r))
        ⟨String.utf8Len l + String.utf8Len m⟩ = true) := by
      have := c.utf8Size_pos
      simp [-String.ofList_append]
      omega
    -- the separator is one byte long, so a match ends the piece at once
    have slashGet : String.Pos.Raw.get "/" 0 = '/' := rfl
    have slashNext : String.Pos.Raw.next "/" 0 = ⟨1⟩ := rfl
    have slashEnd : String.Pos.Raw.atEnd "/" ⟨1⟩ = true := rfl
    rw [String.splitOnAux, if_neg notEnd, atChar, slashGet]
    by_cases slash : c = '/'
    · subst slash
      have cut : String.Pos.Raw.extract (String.ofList (l ++ m ++ '/' :: r)) ⟨String.utf8Len l⟩
          ⟨String.utf8Len l + String.utf8Len m⟩ = String.ofList m := String.extract_of_valid l m ('/' :: r)
      have back : (⟨String.utf8Len l + String.utf8Len m + '/'.utf8Size⟩ : String.Pos.Raw).unoffsetBy ⟨1⟩ =
          ⟨String.utf8Len l + String.utf8Len m⟩ := rfl
      simp only [beq_self_eq_true, if_true, slashNext, next, slashEnd, back, cut]
      have later := ih (l ++ m ++ ['/']) [] (String.ofList m :: acc)
      simp only [List.append_nil, List.append_assoc, List.cons_append, List.nil_append,
        String.utf8Len_append, String.utf8Len_cons, String.utf8Len_nil, Nat.zero_add, Nat.add_zero,
        Nat.add_assoc, List.reverse_nil] at later ⊢
      rw [later, List.splitOnPPrepend_cons_pos (by simp)]
      simp
    · have other : (c == '/') = false := by simpa using slash
      have back : (⟨String.utf8Len l + String.utf8Len m⟩ : String.Pos.Raw).unoffsetBy 0 =
          ⟨String.utf8Len l + String.utf8Len m⟩ := rfl
      simp only [other, Bool.false_eq_true, if_false, back, next]
      have later := ih l (m ++ [c]) acc
      simp only [List.append_assoc, List.cons_append, List.nil_append, String.utf8Len_append,
        String.utf8Len_cons, String.utf8Len_nil, Nat.zero_add, Nat.add_assoc, List.reverse_append,
        List.reverse_cons, List.reverse_nil] at later ⊢
      rw [later]
      simp [List.splitOnPPrepend_cons_eq_if, other]

/-- Cutting a text at `/` cuts its characters there. -/
theorem splitOn_slash (s : String) : s.splitOn "/" = (s.toList.splitOn '/').map String.ofList := by
  have whole := splitOnAux_slash [] [] s.toList []
  simp only [List.nil_append, String.ofList_toList, String.utf8Len_nil, Nat.add_zero,
    List.reverse_nil, List.splitOnPPrepend_nil_right] at whole
  rw [String.splitOn, if_neg (by simp), List.splitOn_eq_splitOnP]
  exact whole

end MemoryDashboard.Storage.Disk
