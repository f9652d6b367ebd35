import EntryStore.Command.Run
import EntryStore.Proofs.Store.Errors

/-!
# Explanations

An explanation compiles a search without a store.  A store exists only for a mapping of all
fields, and compiles the same search on its way to the executor.  Both therefore fail for the
same field, and where they succeed the explanation shows what the store sends.  Nothing of an
explanation comes from a database.
-/

namespace EntryStore

/-- The text that shows a statement and its parameters. -/
def Sql.Prepared.shown (prepared : Sql.Prepared) : String :=
  lines [prepared.sql, (Json.array (prepared.params.map Json.string)).print]

/-- Whatever is replied, a program sends one selection and nothing else. -/
def Program.SendsOnly {α : Type} (program : Program α) (prepared : Sql.Prepared) : Prop :=
  ∀ {σ : Type} (executor : Executor σ) (state : σ),
    program.log executor state = [.fetched prepared (executor.fetch prepared state).1]

namespace Search

/-! ## The statement of a search -/

/-- The query of a search. -/
def query (search : Search) : Query :=
  .act (.select Field.all) ⟨[⟨search.field, .text (search.anchoring.anchor search.pattern), .init⟩]⟩

/-- What a search sends to the table of a layout of all fields. -/
def prepared (search : Search) (layout : Layout) : Sql.Prepared :=
  .of (search.query.shape layout) search.query.params

theorem statement_eq (search : Search) (layout : Layout) :
    search.statement layout = search.query.compile layout := by
  rw [statement, Store.find_eq]
  rfl

theorem complete_query {layout : Layout} (maps : ∀ field, layout.Maps field) (search : Search) :
    search.query.Complete layout :=
  Query.complete_of_maps maps (List.cons_ne_nil _ _)

theorem explain_of_maps {layout : Layout} (maps : ∀ field, layout.Maps field)
    (search : Search) : search.explain layout = .ok (search.prepared layout).shown := by
  have compiled : search.query.compile layout = .ok (search.prepared layout) :=
    (Query.compile_yields search.query).eq_ok (complete_query maps search)
  rw [explain, statement_eq, compiled]
  rfl

/-- The columns of the entries are looked up before anything else. -/
theorem explain_of_unmapped {layout : Layout} {missing : Unmapped}
    (unmapped : Field.all.mapM layout.resolve = .error missing) (search : Search) :
    search.explain layout = .error missing.toError := by
  have projected : layout.projection Field.all = .error missing := by
    rw [Layout.projection, unmapped]
    rfl
  have refused : search.query.statement layout = .error (.unmapped missing) := by
    change Except.mapError Defect.unmapped (layout.projection Field.all >>= fun columns => _) = _
    rw [projected]
    rfl
  rw [explain, statement_eq, Query.compile, refused]
  rfl

/-- A search of a store sends its statement and reads the reply. -/
theorem sendsOnly_find {mapping : Mapping} (maps : ∀ field, mapping.layout.Maps field)
    (search : Search) :
    ((Store.mk mapping).find search.field search.pattern search.anchoring).SendsOnly
      (search.prepared mapping.layout) := by
  intro σ executor state
  unfold Store.find
  rw [Store.find_eq, ← query, Store.rows_eq (complete_query maps search), Store.offsets_eq maps]
  change (Program.fetch (search.prepared mapping.layout) fun rows => .ofExcept _).log executor
    state = _
  rcases sent : executor.fetch (search.prepared mapping.layout) state with ⟨_ | rows, after⟩
  · exact Program.log_fetch_error sent _
  · rw [Program.log_fetch_ok sent, Program.log_ofExcept]

/-! ## Explanations and stores -/

/-- The explanation of a search for a mapping agrees with a request to the store of the mapping:
it fails as the store is refused, or shows the only statement of the request. -/
def Explains (search : Search) (mapping : Mapping)
    (request : Store → Program (List Entry)) : Prop :=
  match Store.ofMapping mapping with
  | .error missing => search.explain mapping.layout = .error missing.toError
  | .ok store => ∃ prepared, search.explain mapping.layout = .ok prepared.shown ∧
      (request store).SendsOnly prepared

theorem explains_find (search : Search) (mapping : Mapping) :
    search.Explains mapping fun store =>
      store.find search.field search.pattern search.anchoring := by
  unfold Explains
  cases made : Store.ofMapping mapping with
  | ok store =>
      obtain ⟨maps, rfl⟩ := (Store.ofMapping_yields mapping).of_ok made
      exact ⟨_, explain_of_maps maps search, sendsOnly_find maps search⟩
  | error missing =>
      apply explain_of_unmapped
      rw [Store.ofMapping_eq] at made
      exact Outcome.bind_pure_eq_error_iff.mp made

/-- How an invocation ends that explains a search, depending on how the mapping was loaded. -/
def ending (search : Search) : Except Complaint Mapping → Ending
  | .ok mapping => .ofExcept ((search.explain mapping.layout).mapError Complaint.ofError)
  | .error complaint => .failure complaint

end Search

/-! ## Disks that hold other databases -/

namespace Disk

/-- A file at a place, with other contents if it holds a database. -/
def fileHolding (contents : Place → Sql.Database) (place : Place) : File → File
  | .text content => .text content
  | .database _ => .database (contents place)

/-- A disk on which the databases have other contents. -/
def holding (disk : Disk) (contents : Place → Sql.Database) : Disk :=
  { disk with
    files := disk.files.map fun (place, file) => (place, fileHolding contents place file) }

variable (disk : Disk) (contents : Place → Sql.Database)

theorem isDirectory_holding (place : Place) :
    (disk.holding contents).isDirectory place = disk.isDirectory place := rfl

theorem file?_holding (place : Place) :
    (disk.holding contents).file? place = (disk.file? place).map (fileHolding contents place) := by
  change (disk.files.map _).lookup place = (disk.files.lookup place).map _
  induction disk.files with
  | nil => rfl
  | cons entry files ih =>
      obtain ⟨other, file⟩ := entry
      rw [List.map_cons, List.lookup_cons, List.lookup_cons, ih]
      cases same : place == other with
      | true => rw [beq_iff_eq.mp same]; rfl
      | false => rfl

theorem follow_holding (place : Place) (names : List String) :
    (disk.holding contents).follow place names = disk.follow place names := by
  induction names generalizing place with
  | nil => rfl
  | cons name names ih =>
      rw [follow, follow, isDirectory_holding, file?_holding, Option.isSome_map, ih]

/-- The text of a file is no business of the databases. -/
theorem readText_holding (path : String) :
    (disk.holding contents).readText path = disk.readText path := by
  have followed :
      (disk.holding contents).follow ((disk.holding contents).origin path) (names path) =
        disk.follow (disk.origin path) (names path) := disk.follow_holding contents _ _
  simp only [readText, followed, isDirectory_holding, file?_holding]
  cases disk.follow (disk.origin path) (names path) with
  | error fault => rfl
  | ok place =>
      simp only [bind, Except.bind]
      rcases disk.file? place with _ | content | content <;> rfl

end Disk

theorem TableChoice.load_holding (normalize : String → String) (disk : Disk)
    (contents : Place → Sql.Database) (table : TableChoice) :
    table.load normalize (disk.holding contents) = table.load normalize disk := by
  cases table with
  | described path => rw [load, load, Disk.readText_holding]
  | standard name => rfl

/-- An explanation shows the statement that the search of a store sends, and fails where there is
no store, with the same error; the entries of an owner are a search of this kind.  The end of an
invocation that explains depends on the mapping only, so that neither the database, its contents
nor the level of logging matter, and the disk stays as it is. -/
theorem explain_shows_find :
    (∀ (mapping : Mapping) (search : Search), search.Explains mapping fun store =>
        store.find search.field search.pattern search.anchoring) ∧
      (∀ (mapping : Mapping) (owner : String),
        Search.Explains ⟨.owner, Pattern.escape owner, .full⟩ mapping fun store =>
          store.entries owner) ∧
      ∀ (normalize : String → String) (meaning : Sql.PatternMeaning) (disk : Disk)
        (contents : Place → Sql.Database) (database : String) (table : TableChoice)
        (level : LogLevel) (search : Search),
        Invocation.run normalize meaning (disk.holding contents)
            ⟨database, table, level, .explain search⟩ =
          (search.ending (table.load normalize disk), disk.holding contents) := by
  refine ⟨fun mapping search => search.explains_find mapping, fun mapping owner =>
    Search.explains_find ⟨.owner, Pattern.escape owner, .full⟩ mapping, ?_⟩
  intro normalize meaning disk contents database table level search
  unfold Invocation.run
  rw [TableChoice.load_holding]
  cases table.load normalize disk <;> rfl

end EntryStore
