import MemoryDashboard.Prefs.Store
import MemoryDashboard.Proofs.Json.ReadPretty
import MemoryDashboard.Proofs.Storage.Disk

/-! # Preferences set by several callers at once

Setting a preference takes two steps. Under the store's write lock it inserts the value and takes
a copy of all values; after releasing the lock it writes that copy to the store's file. Callers
that set values at once may therefore take their copies in one order and write them in another.

A `SharedPrefs` is a store kept in a file together with the copies taken and not yet written. A
step is one caller's insert (`PrefsCall.insert`) or one caller's write of its copy
(`PrefsCall.write`). A call that no other overlaps is the two steps at once, which is
`PrefsStore.set` (`insert_write_eq_set`).

The file holds the copy written last. Values are kept sorted by key (`Reachable.ascending`), and
the file text of sorted values reads back as those values (`ofFileText_fileText`), so after a
write that succeeds a store opened on the path holds exactly the copy written
(`reopened_after_write`). When the writes take the copies in the order they were taken and
succeed, the newest copy is always the last one written or to be written (`InOrder.newest_last`),
so once none is pending the file holds the values in memory. Out of that order a value can be
lost: two callers that set `a` and then `b`, whose writes land newest first, leave the file
without `b` (`writes_out_of_order_lose_value`).
-/

namespace MemoryDashboard.Prefs

/-- Values whose keys strictly increase, as a store keeps them. -/
def Values.Ascending (values : Values) : Prop := (values.map Prod.fst).Pairwise (· < ·)

namespace Values

/-- The values as the members of the object that holds them. -/
theorem textMembers_insert (key value : String) (values : Values) :
    Json.textMembers (values.insert key value) =
      Json.Members.insert key (.str value) (Json.textMembers values) := by
  induction values with
  | nil => rfl
  | cons p rest ih =>
    obtain ⟨k, v⟩ := p
    by_cases before : key < k
    · simp [Values.insert, Json.Members.insert, Json.textMembers, before]
    by_cases same : key = k
    · simp [Values.insert, Json.Members.insert, Json.textMembers, same]
    · have later : Json.textMembers (Values.insert key value rest) =
          Json.Members.insert key (.str value) (Json.textMembers rest) := ih
      simp only [Json.textMembers] at later
      simp [Values.insert, Json.Members.insert, Json.textMembers, before, same, later]

theorem keys_textMembers (values : Values) :
    (Json.textMembers values).map Prod.fst = values.map Prod.fst := by
  simp [Json.textMembers, Function.comp_def]

/-- Setting a value keeps the keys sorted: it is the insertion into an object's members. -/
theorem insert_ascending {values : Values} (ascending : values.Ascending) (key value : String) :
    (values.insert key value).Ascending := by
  have members : ((Json.textMembers values).map Prod.fst).Pairwise (· < ·) := by
    rw [keys_textMembers]
    exact ascending
  have inserted := Json.Members.insert_ascending members key (.str value)
  rwa [← textMembers_insert, keys_textMembers] at inserted

/-- The string members of an object keep their keys in the object's order. -/
theorem keys_stringMembers_sublist (members : Json.Members) :
    ((members.filterMap fun (k, v) => v.asString?.map (k, ·)).map Prod.fst).Sublist
      (members.map Prod.fst) := by
  induction members with
  | nil => exact .slnil
  | cons p rest ih =>
    obtain ⟨k, v⟩ := p
    cases found : v.asString? with
    | none => simpa [found] using ih.cons k
    | some text => simpa [found] using ih.cons_cons k

/-- The values read from a file are sorted: they are the string members of an object read from
it, whose keys increase. -/
theorem ascending_of_ofFileText {text : String} {values : Values}
    (opened : Values.ofFileText text = some values) : values.Ascending := by
  unfold Values.ofFileText at opened
  split at opened
  · rename_i members read
    cases opened
    exact (Json.read_object_ascending read).sublist (keys_stringMembers_sublist members)
  · cases opened

/-- The file text of sorted values reads back as those values. -/
theorem ofFileText_fileText {values : Values} (ascending : values.Ascending) :
    Values.ofFileText values.fileText = some values := by
  have text : values.fileText = Json.pretty (.object (Json.textMembers values)) := rfl
  rw [Values.ofFileText, text, Json.read_pretty_texts ascending]
  simp [Json.textMembers, Json.str, Json.asString?]

end Values

namespace PrefsStore

/-- A store opened on a file holds sorted values. -/
theorem openFile_ascending (disk : Storage.Disk) (path : String) :
    (openFile disk path).values.Ascending := by
  cases read : disk.read path with
  | error => simp [openFile, read, Values.Ascending]
  | ok text =>
    cases opened : Values.ofFileText text with
    | none => simp [openFile, read, opened, Values.Ascending]
    | some values => simpa [openFile, read, opened] using Values.ascending_of_ofFileText opened

/-- A save that succeeds leaves the file text of the values at the path. -/
theorem read_after_save {disk disk' : Storage.Disk} {path : String} {values : Values}
    (saved : save disk path values = .ok disk') : disk'.read path = .ok values.fileText := by
  unfold save at saved
  dsimp only at saved
  -- whichever directories are made first, the file is written last
  have written : ∃ prepared : Storage.Disk, prepared.write path values.fileText = .ok disk' := by
    split at saved
    · split at saved
      · exact ⟨disk, saved⟩
      · obtain ⟨prepared, -, written⟩ := Json.Decode.bind_eq_ok.mp saved
        exact ⟨prepared, written⟩
    · exact ⟨disk, saved⟩
  obtain ⟨prepared, written⟩ := written
  exact Storage.Disk.read_of_write written

/-- After a save of sorted values succeeds, a store opened on the path holds those values. -/
theorem openFile_after_save {disk disk' : Storage.Disk} {path : String} {values : Values}
    (ascending : values.Ascending) (saved : save disk path values = .ok disk') :
    (openFile disk' path).values = values := by
  simp [openFile, read_after_save saved, Values.ofFileText_fileText ascending]

/-- Saving to a file named in the working directory, with no directory part, writes it there. -/
theorem save_in_working_directory {disk : Storage.Disk} {path : String} {parts : List String}
    (noDirectory : Storage.Disk.parentOf path = none) (resolved : disk.resolve path = .ok parts)
    (notDirectory : disk.entryAt parts ≠ some .directory) (values : Values) :
    save disk path values = .ok (disk.put parts (.file values.fileText)) := by
  unfold save
  rw [noDirectory]
  exact Storage.Disk.write_eq_ok.mpr ⟨parts, resolved, notDirectory, rfl⟩

end PrefsStore

/-- A store kept in the file at `path` whose callers set values at once: the values in memory,
the disk, and the copies taken under the lock and not yet written, oldest first. -/
structure SharedPrefs where
  path : String
  values : Values
  disk : Storage.Disk
  unwritten : List Values

/-- The next step of one of the callers. -/
inductive PrefsCall where
  /-- Under the write lock: the value is inserted and a copy of all values taken. -/
  | insert (key value : String)
  /-- After the lock: the `n`th oldest pending copy is written to the file; a write that fails is
  only logged. -/
  | write (n : Nat)

namespace SharedPrefs

/-- The store opened on the file at a path, with nothing pending. -/
def start (disk : Storage.Disk) (path : String) : SharedPrefs :=
  { path, values := (PrefsStore.openFile disk path).values, disk, unwritten := [] }

/-- The values a store opened now on the same path holds. -/
def reopened (s : SharedPrefs) : Values := (PrefsStore.openFile s.disk s.path).values

/-- One caller's step; writing a copy that is not pending changes nothing. -/
def step (s : SharedPrefs) : PrefsCall → SharedPrefs
  | .insert key value =>
    let values := s.values.insert key value
    { s with values, unwritten := s.unwritten ++ [values] }
  | .write n =>
    match s.unwritten[n]? with
    | some copy =>
      { s with disk := (PrefsStore.save s.disk s.path copy).toOption.getD s.disk
               unwritten := s.unwritten.eraseIdx n }
    | none => s

/-- Takes the steps in turn. -/
def run (s : SharedPrefs) (calls : List PrefsCall) : SharedPrefs := calls.foldl step s

/-- The states some interleaving of steps reaches from opening the store. -/
inductive Reachable : SharedPrefs → Prop
  | start (disk : Storage.Disk) (path : String) : Reachable (start disk path)
  | step {s : SharedPrefs} (reachable : Reachable s) (call : PrefsCall) : Reachable (s.step call)

theorem step_insert (s : SharedPrefs) (key value : String) :
    s.step (.insert key value) =
      { s with values := s.values.insert key value,
               unwritten := s.unwritten ++ [s.values.insert key value] } := rfl

/-- A write whose save succeeds puts the saved disk in place and drops its copy. -/
theorem step_write_saved {s : SharedPrefs} {n : Nat} {copy : Values} {disk : Storage.Disk}
    (found : s.unwritten[n]? = some copy) (saved : PrefsStore.save s.disk s.path copy = .ok disk) :
    s.step (.write n) = { s with disk, unwritten := s.unwritten.eraseIdx n } := by
  simp [step, found, saved, Except.toOption]

/-- A call that no other overlaps, its insert followed at once by the write of its copy, is
`PrefsStore.set` on the store's file. -/
theorem insert_write_eq_set (s : SharedPrefs) (idle : s.unwritten = []) (key value : String) :
    (s.step (.insert key value)).step (.write 0) =
      { s with values := (({ path := some s.path, values := s.values } : PrefsStore).set s.disk key value).1.values
               disk := (({ path := some s.path, values := s.values } : PrefsStore).set s.disk key value).2 } := by
  simp [step, idle, PrefsStore.set]

theorem Reachable.run {s : SharedPrefs} (reachable : s.Reachable) (calls : List PrefsCall) :
    (s.run calls).Reachable := by
  induction calls generalizing s with
  | nil => exact reachable
  | cons call rest ih => exact ih (reachable.step call)

/-- A write keeps the path and the values, and leaves pending only copies that were pending. -/
theorem step_write_frame (s : SharedPrefs) (n : Nat) :
    (s.step (.write n)).path = s.path ∧ (s.step (.write n)).values = s.values ∧
      ∀ copy ∈ (s.step (.write n)).unwritten, copy ∈ s.unwritten := by
  cases found : s.unwritten[n]? with
  | none => simp [SharedPrefs.step, found]
  | some copy =>
    simp only [SharedPrefs.step, found, true_and]
    exact fun _ kept => List.mem_of_mem_eraseIdx kept

/-- The values and every pending copy are sorted by key. -/
theorem Reachable.ascending {s : SharedPrefs} (reachable : s.Reachable) :
    s.values.Ascending ∧ ∀ copy ∈ s.unwritten, copy.Ascending := by
  induction reachable with
  | start disk path => exact ⟨PrefsStore.openFile_ascending disk path, nofun⟩
  | @step s _ call ih =>
    obtain ⟨values, copies⟩ := ih
    cases call with
    | insert key value =>
      rw [step_insert]
      refine ⟨Values.insert_ascending values key value, fun copy pending => ?_⟩
      rcases List.mem_append.mp pending with old | fresh
      · exact copies copy old
      · rw [List.mem_singleton.mp fresh]
        exact Values.insert_ascending values key value
    | write n =>
      obtain ⟨-, same, kept⟩ := step_write_frame s n
      exact ⟨same ▸ values, fun copy pending => copies copy (kept copy pending)⟩

/-- After a write whose save succeeds, a store opened on the path holds exactly the copy that
was written, whatever was written before. -/
theorem reopened_after_write {s : SharedPrefs} (reachable : s.Reachable) {n : Nat} {copy : Values}
    {disk : Storage.Disk} (found : s.unwritten[n]? = some copy)
    (saved : PrefsStore.save s.disk s.path copy = .ok disk) : (s.step (.write n)).reopened = copy := by
  have pending : copy ∈ s.unwritten := List.mem_of_getElem? found
  rw [step_write_saved found saved, reopened]
  exact PrefsStore.openFile_after_save (reachable.ascending.2 copy pending) saved

/-- Runs whose every write takes the oldest pending copy and succeeds, as when the writes land in
the order their copies were taken. -/
inductive InOrder : SharedPrefs → Prop
  | start (disk : Storage.Disk) (path : String) : InOrder (start disk path)
  | insert {s : SharedPrefs} (ordered : InOrder s) (key value : String) :
      InOrder (s.step (.insert key value))
  | write {s : SharedPrefs} {copy : Values} {rest : List Values} {disk : Storage.Disk}
      (ordered : InOrder s) (oldest : s.unwritten = copy :: rest)
      (saved : PrefsStore.save s.disk s.path copy = .ok disk) : InOrder (s.step (.write 0))

theorem InOrder.reachable {s : SharedPrefs} (ordered : s.InOrder) : s.Reachable := by
  induction ordered with
  | start disk path => exact .start disk path
  | insert _ key value ih => exact ih.step (.insert key value)
  | write _ _ _ ih => exact ih.step (.write 0)

/-- In order, the newest values are the last copy pending, or the file's when none is. -/
theorem InOrder.newest_last {s : SharedPrefs} (ordered : s.InOrder) :
    s.unwritten.getLastD s.reopened = s.values := by
  induction ordered with
  | start disk path => rfl
  | insert _ key value ih =>
    -- the insert leaves the file and appends the newest values
    rw [step_insert]
    simp
  | @write s copy rest disk ordered oldest saved ih =>
    -- the oldest copy is now the file's, and the copies after it stay pending
    have found : s.unwritten[0]? = some copy := by simp [oldest]
    have written := reopened_after_write ordered.reachable found saved
    rw [step_write_saved found saved] at written ⊢
    rw [oldest, List.getLastD_cons] at ih
    simp only [oldest, List.eraseIdx_cons_zero] at written ⊢
    rw [written]
    exact ih

/-- What holds of every interleaving: the file holds the copy written last, so when the writes
land in the order their copies were taken and succeed, a store opened on the path once none is
pending holds the values in memory; and a call that no other overlaps is `PrefsStore.set`. -/
theorem file_holds_last_written_copy :
    (∀ s : SharedPrefs, s.Reachable → ∀ n copy disk, s.unwritten[n]? = some copy →
        PrefsStore.save s.disk s.path copy = .ok disk → (s.step (.write n)).reopened = copy) ∧
    (∀ s : SharedPrefs, s.InOrder → s.unwritten = [] → s.reopened = s.values) ∧
    (∀ s : SharedPrefs, s.unwritten = [] → ∀ key value,
      (s.step (.insert key value)).step (.write 0) =
        { s with values := (({ path := some s.path, values := s.values } : PrefsStore).set s.disk key value).1.values
                 disk := (({ path := some s.path, values := s.values } : PrefsStore).set s.disk key value).2 }) := by
  refine ⟨fun s reachable n copy disk found saved => reopened_after_write reachable found saved,
    fun s ordered idle => ?_, fun s idle key value => insert_write_eq_set s idle key value⟩
  have newest := ordered.newest_last
  rwa [idle, List.getLastD_nil] at newest

/-- A file `prefs.json` in the working directory `/home` is found there whatever else the disk
holds. -/
theorem prefsFile_resolves (entries : List (List String × Storage.Entry)) :
    (⟨"/home", entries⟩ : Storage.Disk).resolve "prefs.json" = .ok ["prefs.json"] := by
  simp [Storage.Disk.resolve, Storage.Disk.relativeParts, Storage.Disk.splitOn_slash,
    List.splitOn_eq_singleton, Storage.Disk.walk]

theorem prefsFile_no_directory : Storage.Disk.parentOf "prefs.json" = none := by
  simp [Storage.Disk.parentOf]

/-- Opening the store on a disk without the file starts it empty. -/
theorem start_without_file :
    start ⟨"/home", []⟩ "prefs.json" = ⟨"prefs.json", [], ⟨"/home", []⟩, []⟩ := by
  simp [start, PrefsStore.openFile, Storage.Disk.read, prefsFile_resolves, bind, Except.bind,
    Storage.Disk.entryAt]

/-- A store opened on a missing file and set once, with nothing else at once, reopens with the
value set. -/
theorem set_on_missing_file_reopens :
    ((start ⟨"/home", []⟩ "prefs.json").run [.insert "a" "1", .write 0]).unwritten = [] ∧
      ((start ⟨"/home", []⟩ "prefs.json").run [.insert "a" "1", .write 0]).reopened =
        ((start ⟨"/home", []⟩ "prefs.json").run [.insert "a" "1", .write 0]).values := by
  have inserted : (start ⟨"/home", []⟩ "prefs.json").step (.insert "a" "1") =
      ⟨"prefs.json", [("a", "1")], ⟨"/home", []⟩, [[("a", "1")]]⟩ := by
    rw [start_without_file, step_insert]
    rfl
  have saved := PrefsStore.save_in_working_directory prefsFile_no_directory (prefsFile_resolves [])
    (by simp [Storage.Disk.entryAt]) [("a", "1")]
  have ordered : InOrder ((start ⟨"/home", []⟩ "prefs.json").run [.insert "a" "1", .write 0]) :=
    .write (.insert (.start _ _) "a" "1") (by rw [inserted]) (by rw [inserted]; exact saved)
  have idle : ((start ⟨"/home", []⟩ "prefs.json").run [.insert "a" "1", .write 0]).unwritten = [] := by
    show (((start ⟨"/home", []⟩ "prefs.json").step (.insert "a" "1")).step (.write 0)).unwritten = []
    rw [inserted, step_write_saved rfl saved]
    rfl
  exact ⟨idle, file_holds_last_written_copy.2.1 _ ordered idle⟩

/-- Two callers set `a` and then `b` on a store opened on a missing file, and the write of the
newer copy lands first: the file then holds `b`, and the older copy written after it takes `b`
away again, though both writes succeeded and none is pending. -/
theorem writes_out_of_order_lose_value :
    ((start ⟨"/home", []⟩ "prefs.json").run
        [.insert "a" "1", .insert "b" "2", .write 1, .write 0]).Reachable ∧
      ((start ⟨"/home", []⟩ "prefs.json").run [.insert "a" "1", .insert "b" "2", .write 1]).reopened =
        [("a", "1"), ("b", "2")] ∧
      ((start ⟨"/home", []⟩ "prefs.json").run
        [.insert "a" "1", .insert "b" "2", .write 1, .write 0]).unwritten = [] ∧
      ((start ⟨"/home", []⟩ "prefs.json").run
        [.insert "a" "1", .insert "b" "2", .write 1, .write 0]).values = [("a", "1"), ("b", "2")] ∧
      ((start ⟨"/home", []⟩ "prefs.json").run
        [.insert "a" "1", .insert "b" "2", .write 1, .write 0]).reopened = [("a", "1")] := by
  have before : ("a" : String) < "b" := by
    rw [String.lt_iff_toList_lt]
    decide
  have ascending : Values.Ascending [("a", "1"), ("b", "2")] := List.pairwise_pair.mpr before
  have notBefore : ¬ ("b" : String) < "a" := by
    rw [String.lt_iff_toList_lt]
    decide
  have differs : ("b" : String) ≠ "a" := by simp
  have inserted : Values.insert "b" "2" [("a", "1")] = [("a", "1"), ("b", "2")] := by
    rw [Values.insert, if_neg notBefore, if_neg differs]
    rfl
  have taken : (start ⟨"/home", []⟩ "prefs.json").run [.insert "a" "1", .insert "b" "2"] =
      ⟨"prefs.json", [("a", "1"), ("b", "2")], ⟨"/home", []⟩,
        [[("a", "1")], [("a", "1"), ("b", "2")]]⟩ := by
    simp only [run, List.foldl, start_without_file, step_insert]
    rw [show Values.insert "a" "1" [] = [("a", "1")] from rfl, inserted]
    rfl
  -- the newer copy is written first, where no file is yet; the older one then replaces it
  have savedNewer := PrefsStore.save_in_working_directory prefsFile_no_directory (prefsFile_resolves [])
    (by simp [Storage.Disk.entryAt]) [("a", "1"), ("b", "2")]
  have newer : (start ⟨"/home", []⟩ "prefs.json").run [.insert "a" "1", .insert "b" "2", .write 1] =
      ⟨"prefs.json", [("a", "1"), ("b", "2")],
        (⟨"/home", []⟩ : Storage.Disk).put ["prefs.json"] (.file (Values.fileText [("a", "1"), ("b", "2")])),
        [[("a", "1")]]⟩ := by
    show ((start ⟨"/home", []⟩ "prefs.json").run [.insert "a" "1", .insert "b" "2"]).step (.write 1) = _
    rw [taken, step_write_saved rfl savedNewer]
    rfl
  have fileThere : ((⟨"/home", []⟩ : Storage.Disk).put ["prefs.json"]
      (.file (Values.fileText [("a", "1"), ("b", "2")]))).entryAt ["prefs.json"] ≠ some .directory := by
    simp [Storage.Disk.entryAt_put]
  have savedOlder : PrefsStore.save ((⟨"/home", []⟩ : Storage.Disk).put ["prefs.json"]
        (.file (Values.fileText [("a", "1"), ("b", "2")]))) "prefs.json" [("a", "1")] =
      .ok (((⟨"/home", []⟩ : Storage.Disk).put ["prefs.json"]
        (.file (Values.fileText [("a", "1"), ("b", "2")]))).put ["prefs.json"]
        (.file (Values.fileText [("a", "1")]))) :=
    PrefsStore.save_in_working_directory prefsFile_no_directory (prefsFile_resolves _) fileThere _
  have older : (start ⟨"/home", []⟩ "prefs.json").run
      [.insert "a" "1", .insert "b" "2", .write 1, .write 0] =
      ⟨"prefs.json", [("a", "1"), ("b", "2")],
        ((⟨"/home", []⟩ : Storage.Disk).put ["prefs.json"]
          (.file (Values.fileText [("a", "1"), ("b", "2")]))).put ["prefs.json"]
          (.file (Values.fileText [("a", "1")])), []⟩ := by
    show ((start ⟨"/home", []⟩ "prefs.json").run
      [.insert "a" "1", .insert "b" "2", .write 1]).step (.write 0) = _
    rw [newer, step_write_saved rfl savedOlder]
    rfl
  refine ⟨(Reachable.start _ _).run _, ?_⟩
  rw [older, newer]
  exact ⟨PrefsStore.openFile_after_save ascending savedNewer, rfl, rfl,
    PrefsStore.openFile_after_save (List.pairwise_singleton _ _) savedOlder⟩

end SharedPrefs

end MemoryDashboard.Prefs
