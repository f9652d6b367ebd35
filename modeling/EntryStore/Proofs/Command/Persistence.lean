import EntryStore.Proofs.Command.Effects
import EntryStore.Proofs.Disk.Session
import EntryStore.Proofs.Mapping.Reading

/-!
# Runs one after the other

A run leaves nothing but a disk to the runs behind it, each of which opens the database anew.  What
one command keeps up (`Store.Orderly`) is so kept up in the database at a place by any sequence of
runs on one mapping (`Disk.Used`), and what the texts of a pair are set to is shown by the runs
behind it (`Disk.Recalls`).
-/

namespace EntryStore

open Identifier (IsAscii NormalForm)
open Regex (Takes matcher? meaning?)
open Sql (Connection Database PatternMeaning Refines)

/-! ## The standard mapping -/

namespace Mapping

variable {normalize : String → String} (laws : NormalForm normalize)
include laws

theorem Draft.acceptColumns_ascii {table column : String} {field : Field}
    {stored? : Option (List String)} (ascii : IsAscii column)
    (accepted : acceptColumns normalize table field (some [column]) = .ok stored?) :
    stored? = some [column] := by
  obtain ⟨names, done, same⟩ := Outcome.bind_eq_ok_iff.mp accepted
  cases same
  rw [Outcome.mapM_eq_ok_iff, List.forall₂_cons_left_iff] at done
  obtain ⟨name, others, first, rest, rfl⟩ := done
  rw [List.forall₂_nil_left_iff.mp rest, normalize_of_acceptName first, laws.ascii column ascii]

variable {name : String} {mapping : Mapping} (made : standard normalize name = .ok mapping)
include made

theorem columns_of_standard :
    mapping.columns = ⟨some ["total_id"], some ["meta_key"], some ["meta_value"]⟩ := by
  obtain ⟨_, _, built⟩ := Outcome.bind_eq_ok_iff.mp made
  obtain ⟨owner, ownerAccepted, built⟩ := Outcome.bind_eq_ok_iff.mp built
  obtain ⟨key, keyAccepted, built⟩ := Outcome.bind_eq_ok_iff.mp built
  obtain ⟨value, valueAccepted, built⟩ := Outcome.bind_eq_ok_iff.mp built
  cases built
  have ascii : ∀ column : String, (column.toList.all fun c => c.toNat < 0x80) = true →
      IsAscii column := by
    intro column within c member
    exact decide_eq_true_iff.mp (List.all_eq_true.mp within c member)
  rw [Draft.acceptColumns_ascii laws (ascii _ rfl) ownerAccepted,
    Draft.acceptColumns_ascii laws (ascii _ rfl) keyAccepted,
    Draft.acceptColumns_ascii laws (ascii _ rfl) valueAccepted]

theorem maps_of_standard (field : Field) : mapping.layout.Maps field := by
  unfold Layout.Maps Layout.columnsOf layout
  rw [columns_of_standard laws made]
  cases field <;> exact List.cons_ne_nil _ _

theorem sound_of_standard : mapping.Sound :=
  Checked.sound laws ⟨_, made⟩

theorem separate_of_standard (here : Database.IsHere mapping.table) : mapping.Separate := by
  have columns : mapping.layout.allColumns = ["total_id", "meta_key", "meta_value"] := by
    unfold Layout.allColumns Layout.columnsOf layout
    rw [columns_of_standard laws made]
    rfl
  refine ⟨maps_of_standard laws made, ?_, ?_, here⟩
  · rw [columns]
    decide
  · rw [columns]
    decide

end Mapping

/-! ## Runs in a session -/

namespace Command

variable {mapping : Mapping} {database : Database} {session : Session} {meaning : PatternMeaning}
variable (maps : ∀ field, mapping.layout.Maps field) (sound : mapping.Sound)
include maps sound

/-- What a command leaves of the database of a session, be it one that may change or not. -/
theorem orderly_session (separate : Database.IsHere mapping.table → mapping.Separate)
    (refines : Refines meaning meaning?) (connected : session.connection = .of database)
    (orderly : Store.Orderly mapping database) (command : Command) :
    ∃ after, (command.run (Store.mk mapping) (session.executor meaning) session.connection).2 =
      .of after ∧ Store.Orderly mapping after := by
  rw [connected]
  cases may : session.readOnly with
  | true =>
      refine ⟨database, ?_, orderly⟩
      rw [Session.executor_of_readOnly meaning may, run_snd]
      exact ((Program.sends_true _).kept (Connection.keeps_readOnly (.of database)) rfl).1
  | false =>
      rw [Session.executor_of_mayChange meaning may]
      exact command.orderly maps sound separate refines orderly

/-- Texts are set in a database that may change. -/
theorem readOnly_of_set {owner key first : String} {others : List String}
    (succeeded : ((Command.set owner key first others).run (Store.mk mapping)
      (session.executor meaning) session.connection).1.code = 0) : session.readOnly = false := by
  by_contra mayNot
  rw [Session.executor_of_readOnly meaning (Bool.eq_true_of_not_eq_false mayNot),
    Connection.readOnlyExecutor] at succeeded
  have refused : ∀ columns clause params, ∃ refusal,
      session.connection.database.executeReadOnly meaning (.update mapping.table columns clause)
        params = .error refusal :=
    fun _ _ _ => Database.exists_refusal_of_readOnly (fun _ _ _ => Sql.Statement.noConfusion)
      fun _ _ => Sql.Statement.noConfusion
  obtain ⟨error, failed⟩ := Store.setValue_refused maps sound refused
  have code := code_of_shape_error (output_set _ owner key first others) failed
  rw [succeeded] at code
  cases code

end Command

/-! ## Runs on a disk -/

namespace Disk

/-- A URI leads to a database that is kept at a place. -/
def LeadsTo (disk : Disk) (uri : String) (place : Place) : Prop :=
  ∃ session, disk.openUri {} uri = .ok session ∧ session.place? = some place

/-- Any database at a place has no table of a mapping, or one with at most one row at each pair. -/
def OrderlyAt (mapping : Mapping) (place : Place) (disk : Disk) : Prop :=
  ∀ database, disk.file? place = some (.database database) → Store.Orderly mapping database

/-- What a sequence of invocations makes of a disk, none of which has another mapping than the
given one. -/
inductive Used (normalize : String → String) (meaning : PatternMeaning) (mapping : Mapping) :
    Disk → Disk → Prop
  | refl (disk : Disk) : Used normalize meaning mapping disk disk
  | step {disk between : Disk} (earlier : Used normalize meaning mapping disk between)
      (invocation : Invocation)
      (about : ∀ loaded, invocation.table.load normalize between = .ok loaded → loaded = mapping) :
      Used normalize meaning mapping disk (invocation.run normalize meaning between).2

variable {normalize : String → String} {meaning : PatternMeaning} {mapping : Mapping}
  {disk between : Disk} {place : Place}

/-- What is known of the database of a session. -/
theorem Opens.orderly {session : Session} {database : Database}
    (opens : disk.Opens session database)
    (orderly : ∀ place, session.place? = some place → disk.OrderlyAt mapping place) :
    Store.Orderly mapping database := by
  rcases opens.content with rfl | ⟨place, kept, found⟩
  · exact Or.inl (Database.find?_empty _)
  · exact orderly place kept database found

theorem file?_keep_of_ne {session : Session} (connection : Connection)
    (elsewhere : session.place? ≠ some place) :
    (disk.keep { session with connection := connection }).file? place = disk.file? place := by
  unfold keep
  split
  · next there found =>
      refine file?_write_of_ne disk _ ?_
      rintro rfl
      exact elsewhere found
  · rfl

/-- A run of a command on the database of a URI. -/
theorem work_eq (maps : ∀ field, mapping.layout.Maps field) {uri : String} {session : Session}
    (opened : disk.openUri {} uri = .ok session) (command : Command) :
    Invocation.work meaning disk uri mapping command =
      ((command.run (Store.mk mapping) (session.executor meaning) session.connection).1,
        disk.keep { session with connection :=
          (command.run (Store.mk mapping) (session.executor meaning) session.connection).2 }) := by
  rw [Invocation.work, opened, (Store.ofMapping_yields mapping).eq_ok maps]

section Orderly

variable (maps : ∀ field, mapping.layout.Maps field) (sound : mapping.Sound)
variable (separate : Database.IsHere mapping.table → mapping.Separate)
variable (refines : Refines meaning meaning?)
include maps sound separate refines

theorem OrderlyAt.work (orderly : OrderlyAt mapping place disk) (uri : String) (command : Command) :
    OrderlyAt mapping place (Invocation.work meaning disk uri mapping command).2 := by
  rcases opened : disk.openUri {} uri with error | session
  · rw [Invocation.work, opened]
    exact orderly
  · obtain ⟨database, opens⟩ := exists_opens opened
    rw [work_eq maps opened]
    intro last found
    by_cases there : session.place? = some place
    · have begun : Store.Orderly mapping database := by
        refine opens.orderly fun place' kept => ?_
        cases there.symm.trans kept
        exact orderly
      obtain ⟨after, left, ended⟩ := Command.orderly_session maps sound separate refines
        opens.connection begun command
      simp only [keep, there, left, file?_write] at found
      cases found
      exact ended
    · exact orderly last ((file?_keep_of_ne _ there).symm.trans found)

/-- What one run keeps up at a place. -/
theorem OrderlyAt.run (orderly : OrderlyAt mapping place disk) {invocation : Invocation}
    (about : ∀ loaded, invocation.table.load normalize disk = .ok loaded → loaded = mapping) :
    OrderlyAt mapping place (invocation.run normalize meaning disk).2 := by
  unfold Invocation.run
  split
  · exact orderly
  · next loaded found =>
      obtain rfl := about loaded found
      split
      · exact orderly
      · exact orderly.work maps sound separate refines _ _

/-- What any sequence of runs keeps up at a place. -/
theorem OrderlyAt.used (orderly : OrderlyAt mapping place disk)
    (used : Used normalize meaning mapping disk between) : OrderlyAt mapping place between := by
  induction used with
  | refl => exact orderly
  | step earlier invocation about ih => exact ih.run maps sound separate refines about

end Orderly

/-- A URI leads to a database that is kept at a place and may change. -/
structure Serves (disk : Disk) (uri : String) (place : Place) (session : Session) (old : Database) :
    Prop where
  opened : disk.openUri {} uri = .ok session
  kept : session.place? = some place
  there : disk.file? place = some (.database old)
  mayChange : session.readOnly = false

/-- A run on a database that has been written back. -/
theorem Serves.work_write {uri : String} {session : Session} {old : Database}
    (serves : disk.Serves uri place session old) (maps : ∀ field, mapping.layout.Maps field)
    {command : Command} {database after : Database} {ending : Ending}
    (ran : command.run (Store.mk mapping) (Connection.executor meaning) (.of database) =
      (ending, .of after)) :
    Invocation.work meaning (disk.write place (.database database)) uri mapping command =
      (ending, disk.write place (.database after)) := by
  have reopened := openUri_write serves.opened serves.kept serves.there database
  have executor : Session.executor { session with connection := .of database } meaning =
      Connection.executor meaning := Session.executor_of_mayChange meaning serves.mayChange
  rw [work_eq maps reopened, executor, ran]
  simp only [keep, serves.kept, write_write]
  rfl

/-! ## Texts that have been set -/

/-- Runs a command on a table with the standard columns. -/
def runStandard (normalize : String → String) (meaning : PatternMeaning) (name database : String)
    (level : LogLevel) (command : Command) (disk : Disk) : Ending × Disk :=
  (Invocation.mk database (.standard name) level (.work command)).run normalize meaning disk

/-- What runs on a disk show of the texts that have been set for a pair: one text as it is, several
as the text of a list or item by item, and the key once among those of the owner; a deletion removes
one entry, and behind it there is none. -/
structure Recalls (normalize : String → String) (meaning : PatternMeaning)
    (name database owner key first : String) (others : List String) (disk : Disk) : Prop where
  one : others = [] → ∀ level,
    disk.runStandard normalize meaning name database level (.get owner key false) =
      (.success (first ++ "\n"), disk)
  several : others ≠ [] → ∀ level,
    disk.runStandard normalize meaning name database level (.get owner key false) =
      (.success ((Json.array ((first :: others).map Json.string)).print ++ "\n"), disk)
  items : others ≠ [] → ∀ level,
    disk.runStandard normalize meaning name database level (.get owner key true) =
      (.success (lines (first :: others)), disk)
  keys : ∃ keys, keys.count key = 1 ∧ ∀ level,
    disk.runStandard normalize meaning name database level (.keys owner) =
      (.success (lines keys), disk)
  removal : ∃ after,
    (∀ level, disk.runStandard normalize meaning name database level (.delete owner key) =
      (.success "Removed 1 entry\n", after)) ∧
    ∀ level, after.runStandard normalize meaning name database level (.get owner key false) =
      (.failure ⟨"No value for " ++ owner ++ " / " ++ key, none⟩, after)

theorem runStandard_eq {name : String} (made : Mapping.standard normalize name = .ok mapping)
    (database : String) (level : LogLevel) (command : Command) (disk : Disk) :
    disk.runStandard normalize meaning name database level command =
      Invocation.work meaning disk database mapping command := by
  rw [runStandard, Invocation.run, TableChoice.load, made]
  rfl

/-- Texts are set in a database that is kept at a place, and are there behind the run. -/
theorem exists_keeps (maps : ∀ field, mapping.layout.Maps field) (sound : mapping.Sound)
    (separate : Database.IsHere mapping.table → mapping.Separate)
    (refines : Refines meaning meaning?) {uri : String}
    (orderly : ∀ place, disk.LeadsTo uri place → disk.OrderlyAt mapping place)
    {owner key first : String} {others : List String}
    (succeeded : (Invocation.work meaning disk uri mapping
      (.set owner key first others)).1.code = 0) :
    ∃ place session old database, disk.Serves uri place session old ∧
      Store.Keeps mapping owner key (Command.valueOf first others).parameter database ∧
      (Invocation.work meaning disk uri mapping (.set owner key first others)).2 =
        disk.write place (.database database) := by
  rcases opened : disk.openUri {} uri with error | session
  · rw [Invocation.work, opened] at succeeded
    cases succeeded
  · obtain ⟨old, opens⟩ := exists_opens opened
    rw [work_eq maps opened] at succeeded ⊢
    have mayChange := Command.readOnly_of_set maps sound succeeded
    have begun := opens.orderly fun place kept => orderly place ⟨session, opened, kept⟩
    rw [Session.executor_of_mayChange meaning mayChange, opens.connection] at succeeded ⊢
    obtain ⟨found, after, left, keeps⟩ := Command.keeps_of_set maps sound separate refines begun
      succeeded
    rcases opens.content with rfl | ⟨place, kept, there⟩
    · exact absurd (Database.find?_empty _) found
    · refine ⟨place, session, old, after, ⟨opened, kept, there, mayChange⟩, keeps, ?_⟩
      simp only [keep, kept, left]
      rfl

theorem lines_singleton (text : String) : lines [text] = text ++ "\n" := by
  simp only [lines, List.map_cons, List.map_nil, String.join_cons, String.join_nil,
    String.append_empty]

/-- Texts are read as they were set.  A database has no table of the standard mapping at first, or
one with at most one row at each pair, and is then used by runs on that mapping, whatever they ask
for.  A run that sets texts succeeds only where the table has been created, and then the runs behind
it show the texts, one as it is or several as a list, and remove them as one entry.  Patterns may be
refused, but not those of owner and key. -/
theorem recalls_of_set (laws : NormalForm normalize) {name : String}
    (made : Mapping.standard normalize name = .ok mapping) (refines : Refines meaning meaning?)
    (used : Used normalize meaning mapping disk between) {database : String}
    (begun : ∀ place, between.LeadsTo database place → disk.OrderlyAt mapping place)
    {level : LogLevel} {owner key : String} (ownerTaken : Takes meaning owner)
    (keyTaken : Takes meaning key) {first : String} {others : List String}
    (succeeded : (between.runStandard normalize meaning name database level
      (.set owner key first others)).1.code = 0) :
    (between.runStandard normalize meaning name database level
      (.set owner key first others)).2.Recalls normalize meaning name database owner key first
        others := by
  have maps := Mapping.maps_of_standard laws made
  have sound := Mapping.sound_of_standard laws made
  have separate := Mapping.separate_of_standard laws made
  have orderly : ∀ place, between.LeadsTo database place → between.OrderlyAt mapping place :=
    fun place leads => (begun place leads).used maps sound separate refines used
  rw [runStandard_eq made] at succeeded ⊢
  obtain ⟨place, session, old, content, serves, keeps, left⟩ :=
    exists_keeps maps sound separate refines orderly succeeded
  rw [left]
  have get := Command.get_of_keeps sound separate ownerTaken keyTaken keeps
  obtain ⟨keys, listed, once⟩ := Command.keys_of_keeps sound separate ownerTaken keyTaken keeps
  obtain ⟨after, removed, absent⟩ :=
    Command.delete_of_keeps sound separate ownerTaken keyTaken keeps
  have shown : ∀ {command ending} {database' after : Database},
      command.run (Store.mk mapping) (Connection.executor meaning) (.of database') =
        (ending, .of after) → ∀ level,
      (between.write place (.database database')).runStandard normalize meaning name database level
          command =
        (ending, between.write place (.database after)) :=
    fun ran level => (runStandard_eq made _ level _ _).trans (serves.work_write maps ran)
  refine ⟨?_, ?_, ?_, ⟨keys, once, shown listed⟩, ⟨_, shown removed, shown absent⟩⟩
  · rintro rfl
    rw [lines_singleton] at get
    exact shown get
  · intro several
    obtain ⟨second, rest, rfl⟩ := List.exists_cons_of_ne_nil several
    rw [lines_singleton] at get
    exact shown get
  · intro several
    obtain ⟨second, rest, rfl⟩ := List.exists_cons_of_ne_nil several
    exact shown (Command.getList_of_keeps sound separate ownerTaken keyTaken keeps
      ((Json.Kind.list .string).decode_print (first :: second :: rest)
        (Json.Kind.fits_list fun _ _ => trivial)))

/-- A list takes the place of a text, in a file that the creation of the table has made. -/
theorem recalls_of_set_sample : ∃ between,
    Used id matcher? ⟨"meta", ⟨some ["total_id"], some ["meta_key"], some ["meta_value"]⟩⟩
        ⟨["work"], [["work"]], []⟩ between ∧
      (between.runStandard id matcher? "meta" "sqlite://m.db" .warn
        (.set "u" "k" "a" ["\n", ""])).1.code = 0 ∧
      (between.runStandard id matcher? "meta" "sqlite://m.db" .warn
        (.set "u" "k" "a" ["\n", ""])).2.Recalls id matcher? "meta" "sqlite://m.db" "u" "k" "a"
          ["\n", ""] := by
  have made : Mapping.standard id "meta" =
      .ok ⟨"meta", ⟨some ["total_id"], some ["meta_key"], some ["meta_value"]⟩⟩ := rfl
  have about : ∀ disk loaded, TableChoice.load id disk (.standard "meta") = .ok loaded → loaded =
      ⟨"meta", ⟨some ["total_id"], some ["meta_key"], some ["meta_value"]⟩⟩ :=
    fun _ _ found => (Except.ok.inj found).symm
  suffices succeeds : ∃ between,
      Used id matcher? ⟨"meta", ⟨some ["total_id"], some ["meta_key"], some ["meta_value"]⟩⟩
        ⟨["work"], [["work"]], []⟩ between ∧
      (between.runStandard id matcher? "meta" "sqlite://m.db" .warn
        (.set "u" "k" "a" ["\n", ""])).1.code = 0 by
    obtain ⟨between, used, succeeded⟩ := succeeds
    exact ⟨between, used, succeeded, recalls_of_set Identifier.normalForm_id made
      Sql.matcher?_refines used (fun _ _ _ found => by cases found)
      (Regex.takes_matcher? (by decide)) (Regex.takes_matcher? (by decide)) succeeded⟩
  -- the disk is given by the runs that lead to it, so that it is computed only once
  exact ⟨_, ((Used.refl _).step ⟨"sqlite://m.db", .standard "meta", .warn, .work .init⟩
      (about _)).step ⟨"sqlite:m.db", .standard "meta", .info, .work (.set "u" "k" "old" [])⟩
    (about _), by decide +kernel⟩

end Disk

end EntryStore
