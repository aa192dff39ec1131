import SqlFacts.Journal
import SqlFacts.Proofs.Calendar.DateText

/-!
# Files of journals

A journal is seen through the lines of its files. What is done to it is told by what becomes of
each file: an addition changes one file, a cleanup takes away the files of one directory that are
past the retention time, and neither making nor deleting a directory changes any file.
-/

namespace SqlFacts

open Calendar (Date)

namespace Journal

/-- The text of a file: every line ends with a line feed. -/
def fileText (lines : List String) : List Char := lines.flatMap fun line => line.toList ++ ['\n']

/-- A file whose lines hold no line feed is read line by line. -/
theorem splitOn_fileText {lines : List String} (h : ∀ line ∈ lines, '\n' ∉ line.toList) :
    (fileText lines).splitOn '\n' = lines.map String.toList ++ [[]] := by
  induction lines with
  | nil => rfl
  | cons line lines ih =>
    obtain ⟨hline, hlines⟩ := List.forall_mem_cons.mp h
    rw [fileText, List.flatMap_cons, List.append_assoc, List.singleton_append,
      List.splitOn_append_cons_self_of_not_mem hline]
    exact congrArg _ (ih hlines)

/-- Different days have files of different names. -/
theorem fileName_inj {a b : Date} (h : fileName a = fileName b) : a = b := by
  have hchars := congrArg String.toList h
  rw [fileName, fileName, String.toList_append, String.toList_append] at hchars
  exact Date.textWithYear_inj (String.toList_inj.mp (List.append_cancel_right hchars))

/-! ### What becomes of files -/

section Files

variable {journal : Journal} {directory : String}

@[simp] theorem lines?_empty (d f : String) : empty.lines? d f = none := by
  simp [lines?, empty]

/-- An empty directory in the place of a missing one holds no file. -/
private theorem bind_get?_make (directories : OrderedMap LogDirectory) (name d f : String) :
    ((if directories.contains name then directories else directories.insert name .empty).get?
        d).bind (·.get? f) = (directories.get? d).bind (·.get? f) := by
  split
  · rfl
  · next hmissing =>
    rw [OrderedMap.get?_insert]
    split
    · next hname =>
      rw [OrderedMap.contains, Bool.not_eq_true, Option.isSome_eq_false_iff,
        Option.isNone_iff_eq_none, ← hname] at hmissing
      rw [hmissing]
      rfl
    · rfl

/-- Making a directory makes no file. -/
theorem lines?_makeDirectory (journal : Journal) (directory d f : String) :
    (journal.makeDirectory directory).lines? d f = journal.lines? d f := by
  rw [lines?, lines?, makeDirectory, bind_get?_make, bind_get?_make]

/-- A directory that is made is there, and so is every other one that was. -/
private theorem contains_make {directories : OrderedMap LogDirectory} {name d : String}
    (h : d = name ∨ directories.contains d = true) :
    (if directories.contains name then directories
      else directories.insert name .empty).contains d = true := by
  split
  · next hname =>
    rcases h with rfl | hd
    · exact hname
    · exact hd
  · rw [OrderedMap.contains, OrderedMap.get?_insert]
    split
    · rfl
    · next hne => exact h.resolve_left hne

/-- A directory is there when something is added to one of its files. -/
theorem reaches_append (journal : Journal) (directory file : String) (lines : List String) :
    (journal.append directory file lines).reaches directory = true := by
  have hroot : (journal.makeDirectory directory).directories.contains "" = true :=
    contains_make (.inr (contains_make (.inl rfl)))
  rw [reaches, filesOf?]
  split
  · next hparent =>
    subst hparent
    rw [Option.isSome_map, append, OrderedMap.get?_insert, if_neg (by decide)]
    exact hroot
  · rw [append, OrderedMap.get?_insert, if_pos rfl]
    rfl

/-- A missing directory holds no file. -/
private theorem get?_getD_empty (files : Option LogDirectory) (f : String) :
    (files.getD .empty).get? f = files.bind (·.get? f) := by
  cases files <;> rfl

/-- An addition changes one file. -/
theorem lines?_append (journal : Journal) (directory file : String) (lines : List String)
    (d f : String) :
    (journal.append directory file lines).lines? d f =
      if d = directory ∧ f = file then some ((journal.lines? d f).getD [] ++ lines)
      else journal.lines? d f := by
  have hmade (f : String) : (((journal.makeDirectory directory).directories.get? directory).getD
      .empty).get? f = journal.lines? directory f :=
    (get?_getD_empty _ f).trans (journal.lines?_makeDirectory directory directory f)
  rw [lines?, append, OrderedMap.get?_insert]
  by_cases hd : d = directory
  · subst hd
    rw [if_pos rfl, Option.bind_some, OrderedMap.get?_insert, hmade, hmade]
    by_cases hf : f = file
    · subst hf
      rw [if_pos rfl, if_pos ⟨rfl, rfl⟩]
    · rw [if_neg hf, if_neg fun h => hf h.2]
  · rw [if_neg hd, if_neg fun h => hd h.1]
    exact journal.lines?_makeDirectory directory d f

/-- The files of a directory that is there are those seen in the journal. -/
theorem get?_of_filesOf? {files : LogDirectory} (h : journal.filesOf? directory = some files)
    (f : String) : files.get? f = journal.lines? directory f := by
  rw [filesOf?] at h
  split at h
  · obtain ⟨_, -, rfl⟩ := Option.map_eq_some_iff.mp h
    exact get?_getD_empty _ f
  · rw [lines?, h, Option.bind_some]

/-- Deleting an empty directory deletes no file. -/
theorem lines?_removeIfEmpty (journal : Journal) (directory d f : String) :
    (journal.removeIfEmpty directory).lines? d f = journal.lines? d f := by
  rw [removeIfEmpty]
  split
  · next hvacant =>
    rw [lines?, OrderedMap.get?_erase]
    split
    · next hd =>
      subst hd
      rw [isVacant, Bool.and_eq_true, Bool.and_eq_true] at hvacant
      rw [lines?]
      cases hfiles : journal.directories.get? d with
      | none => rfl
      | some files =>
        have hempty := hvacant.1.2
        rw [hfiles, Option.all_some, OrderedMap.isEmpty, List.isEmpty_iff] at hempty
        obtain rfl : files = .empty := OrderedMap.ext hempty
        rfl
    · rfl
  · rfl

/-- A cleanup deletes the files of its directory that are past the retention time, if the directory
is there. -/
theorem lines?_cleanup {today : Date} {retentionDays : Int} {count : Nat} {left : Journal}
    (h : journal.cleanup directory today retentionDays = .ok (count, left)) (d f : String) :
    left.lines? d f =
      if (d = directory ∧ journal.reaches directory = true) ∧
          (today.daysBefore? retentionDays).any (isStale · f) = true then none
      else journal.lines? d f := by
  rw [cleanup] at h
  split at h
  · next hmissing =>
    cases h
    rw [reaches, hmissing, if_neg]
    rintro ⟨⟨-, hreaches⟩, -⟩
    cases hreaches
  · next files hfiles =>
    split at h
    · cases h
    · next limit hlimit =>
      cases h
      have hreaches : journal.reaches directory = true := by
        rw [reaches, hfiles]
        rfl
      rw [lines?_removeIfEmpty, lines?, OrderedMap.get?_insert, hlimit, Option.any_some]
      by_cases hd : d = directory
      · subst hd
        rw [if_pos rfl, Option.bind_some, OrderedMap.get?_filter, get?_of_filesOf? hfiles]
        cases hstale : isStale limit f <;> cases journal.lines? d f <;> simp [hreaches]
      · rw [if_neg hd, if_neg fun h => hd h.1.1]
        rfl

/-- A file that a cleanup deletes lies in a directory that is there, and it is past the retention
time. -/
theorem stale_of_mem_staleFiles {today : Date} {retentionDays : Int} {file : String}
    (h : file ∈ journal.staleFiles directory today retentionDays) :
    journal.reaches directory = true ∧
      (today.daysBefore? retentionDays).any (isStale · file) = true := by
  rw [staleFiles] at h
  split at h
  · next files limit hfiles hlimit =>
    rw [reaches, hfiles, hlimit]
    exact ⟨rfl, (List.mem_filter.mp h).2⟩
  · cases h

/-- Files that are deleted are gone, and no other file changes. -/
theorem lines?_deleteFiles (h : journal.reaches directory = true) (names : List String)
    (d f : String) :
    (journal.deleteFiles directory names).lines? d f =
      if d = directory ∧ f ∈ names then none else journal.lines? d f := by
  obtain ⟨files, hfiles⟩ := Option.isSome_iff_exists.mp h
  rw [lines?, deleteFiles, OrderedMap.get?_insert, hfiles, Option.getD_some]
  by_cases hd : d = directory
  · subst hd
    rw [if_pos rfl, Option.bind_some, OrderedMap.get?_filter, get?_of_filesOf? hfiles]
    by_cases hf : f ∈ names <;> cases journal.lines? d f <;> simp [hf]
  · rw [if_neg hd, if_neg fun h => hd h.1]
    rfl

/-- A cleanup of a directory that is there deletes its stale files, and then the directory itself
if it is left empty. -/
theorem cleanup_eq_deleteFiles {today : Date} {retentionDays : Int} {count : Nat} {left : Journal}
    (h : journal.reaches directory = true)
    (hcleanup : journal.cleanup directory today retentionDays = .ok (count, left)) :
    left = (journal.deleteFiles directory
      (journal.staleFiles directory today retentionDays)).removeIfEmpty directory := by
  obtain ⟨files, hfiles⟩ := Option.isSome_iff_exists.mp h
  rw [cleanup, hfiles] at hcleanup
  rw [deleteFiles, staleFiles, hfiles]
  cases hlimit : today.daysBefore? retentionDays with
  | none =>
    rw [hlimit] at hcleanup
    cases hcleanup
  | some limit =>
    rw [hlimit] at hcleanup
    cases hcleanup
    have hkept : files.filter (fun name _ => !isStale limit name) =
        files.filter fun name _ => !(files.keys.filter (isStale limit)).contains name := by
      apply OrderedMap.ext
      apply List.filter_congr
      intro entry hentry
      have hkey : entry.1 ∈ files.keys := List.mem_map_of_mem hentry
      simp [hkey]
    rw [hkept]
    rfl

/-- A cleanup fails if its directory is there and the retention time lies outside the calendar. -/
theorem cleanup_eq_error_iff {today : Date} {retentionDays : Int} {e : RetentionError} :
    journal.cleanup directory today retentionDays = .error e ↔
      journal.reaches directory = true ∧ today.daysBefore? retentionDays = none := by
  rw [cleanup, reaches]
  cases journal.filesOf? directory with
  | none => simp
  | some files =>
    cases today.daysBefore? retentionDays with
    | none => cases e; simp
    | some limit => simp

end Files

end Journal

end SqlFacts
