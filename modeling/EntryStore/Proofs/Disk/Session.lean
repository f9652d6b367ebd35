import EntryStore.Disk.Session
import EntryStore.Proofs.Outcome

/-!
# Sessions and disks

A session begins with the database that its file holds, or with an empty one.  A file that is
written is found with its new content, and all other files as they were; where a database has
taken the place of another one, the same URI leads to it again.
-/

namespace EntryStore

open Sql (Connection Database)

/-! ## Executors -/

namespace Session

variable {session : Session} (meaning : Sql.PatternMeaning)

theorem executor_of_readOnly (readOnly : session.readOnly = true) :
    session.executor meaning = Connection.readOnlyExecutor meaning := if_pos readOnly

theorem executor_of_mayChange (mayChange : session.readOnly = false) :
    session.executor meaning = Connection.executor meaning :=
  if_neg (Bool.eq_false_iff.mp mayChange)

end Session

namespace Disk

variable {disk : Disk} {place other : Place} {file : File}

/-! ## Writing -/

/-- All files but the one that is written are found as before. -/
theorem file?_write_of_ne (disk : Disk) (file : File) (differs : other ≠ place) :
    (disk.write place file).file? other = disk.file? other := by
  have kept : ∀ files : List (Place × File),
      (files.filter (·.1 != place)).lookup other = files.lookup other := by
    intro files
    induction files with
    | nil => rfl
    | cons entry files ih =>
        obtain ⟨here, content⟩ := entry
        rw [List.filter_cons, List.lookup_cons]
        by_cases same : here = place
        · rw [same, bne_self_eq_false, if_neg Bool.false_ne_true, ih,
            beq_eq_false_iff_ne.mpr differs]
        · rw [if_pos (bne_iff_ne.mpr same), List.lookup_cons, ih]
  rw [write, file?, List.lookup_cons, beq_eq_false_iff_ne.mpr differs]
  exact kept disk.files

/-- Only the last content of a file counts. -/
theorem write_write (disk : Disk) (place : Place) (file file' : File) :
    (disk.write place file).write place file' = disk.write place file' := by
  simp only [write, List.filter_cons, bne_self_eq_false, Bool.false_eq_true, if_false,
    List.filter_filter, Bool.and_self]

/-- Where a file is there already, writing it lets no other one appear. -/
theorem isSome_file?_write (there : (disk.file? place).isSome = true) (other : Place) :
    ((disk.write place file).file? other).isSome = (disk.file? other).isSome := by
  by_cases same : other = place
  · rw [same, file?_write, there]
    rfl
  · rw [file?_write_of_ne disk file same]

theorem databasePlace?_write (there : (disk.file? place).isSome = true) (path : String) :
    (disk.write place file).databasePlace? path = disk.databasePlace? path := by
  unfold databasePlace?
  simp only [isSome_file?_write there]
  rfl

/-! ## Opening -/

/-- What is known of a session that was opened: its connection is open, to the database that is
kept where the session goes back, or to an empty one. -/
structure Opens (disk : Disk) (session : Session) (database : Database) : Prop where
  connection : session.connection = .of database
  content : database = .empty ∨
    ∃ place, session.place? = some place ∧ disk.file? place = some (.database database)

theorem opens_openFile {settings : Sql.PoolSettings} {location : Sql.Location} {session : Session}
    (opened : disk.openFile settings location place = .ok session) :
    session.place? = some place ∧ ∃ database, disk.Opens session database := by
  unfold openFile at opened
  simp only at opened
  split at opened
  · cases opened
  · split at opened
    · next file found =>
        obtain ⟨content, inside, same⟩ := Outcome.bind_eq_ok_iff.mp opened
        cases same
        refine ⟨rfl, content, rfl, ?_⟩
        cases file with
        | database kept =>
            cases inside
            exact Or.inr ⟨place, rfl, found⟩
        | text text =>
            rw [databaseIn] at inside
            split at inside
            · cases inside
            · split at inside
              · cases inside
              · cases inside
                exact Or.inl rfl
    · next missing =>
        split at opened
        · cases opened
        · cases opened
          exact ⟨rfl, .empty, rfl, Or.inl rfl⟩

theorem exists_opens {settings : Sql.PoolSettings} {uri : String} {session : Session}
    (opened : disk.openUri settings uri = .ok session) :
    ∃ database, disk.Opens session database := by
  obtain ⟨location, _, opened⟩ := Outcome.bind_eq_ok_iff.mp opened
  rw [Outcome.mapError_eq_ok_iff] at opened
  unfold openLocation at opened
  split at opened
  · cases opened
  · split at opened
    · cases opened
    · split at opened
      · cases opened
        exact ⟨.empty, rfl, Or.inl rfl⟩
      · split at opened
        · cases opened
          exact ⟨.empty, rfl, Or.inl rfl⟩
        · split at opened
          · exact (opens_openFile opened).2
          · cases opened

theorem openFile_write {settings : Sql.PoolSettings} {location : Sql.Location} {session : Session}
    {old : Database} (opened : disk.openFile settings location place = .ok session)
    (there : disk.file? place = some (.database old)) (new : Database) :
    (disk.write place (.database new)).openFile settings location place =
      .ok { session with connection := .of new } := by
  unfold openFile at opened ⊢
  simp only [there, file?_write] at opened ⊢
  change (if disk.isDirectory place || !disk.isDirectory place.dropLast then _ else _) = _
  split at opened
  · cases opened
  · next usable =>
      rw [if_neg usable]
      cases opened
      rfl

/-- Where the database of a URI has been written back, the URI leads to what was written. -/
theorem openUri_write {settings : Sql.PoolSettings} {uri : String} {session : Session}
    {old : Database} (opened : disk.openUri settings uri = .ok session)
    (kept : session.place? = some place) (there : disk.file? place = some (.database old))
    (new : Database) :
    (disk.write place (.database new)).openUri settings uri =
      .ok { session with connection := .of new } := by
  obtain ⟨location, named, opened⟩ := Outcome.bind_eq_ok_iff.mp opened
  rw [Outcome.mapError_eq_ok_iff] at opened
  refine Outcome.bind_eq_ok_iff.mpr ⟨location, named, Outcome.mapError_eq_ok_iff.mpr ?_⟩
  have found : (disk.file? place).isSome = true := by
    rw [there]
    rfl
  unfold openLocation at opened ⊢
  rw [databasePlace?_write found]
  split at opened
  · cases opened
  · next named =>
      rw [if_neg named]
      split at opened
      · cases opened
      · split at opened
        · cases opened
          cases kept
        · next named =>
            rw [if_neg named]
            split at opened
            · cases opened
              cases kept
            · next onDisk =>
                rw [if_neg onDisk]
                split at opened
                · next target _ =>
                    cases (opens_openFile opened).1.symm.trans kept
                    exact openFile_write opened there new
                · cases opened

end Disk

end EntryStore
