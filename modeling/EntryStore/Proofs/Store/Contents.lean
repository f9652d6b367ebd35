import EntryStore.Proofs.Interleaving
import EntryStore.Proofs.Regex.Limits
import EntryStore.Proofs.Sql.Rows
import EntryStore.Proofs.Store.Schema

/-!
# The contents of the table

The table of a store may hold any rows that its columns admit: several rows of one pair, and
rows that no call of the store has written.  `Store.Holds` names the rows that a connection
gives access to.  The filters of a store select by literals.  Where the patterns for these are
taken (`Regex.Takes`), the filters pick the rows of the owner or the pair that they name and no
others, and each statement of a store does to the rows what is said here.
-/

namespace EntryStore.Store

open Sql (Connection Database PatternMeaning Prepared Table)
open Regex (Takes)

/-- The entry of a row. -/
def entryOf (mapping : Mapping) (row : Row) : Entry :=
  let cells := mapping.layout.cells (freshTable mapping) row
  ⟨(cells .owner).getD "", (cells .key).getD "", cells .value⟩

/-- What the table of a mapping demands of a row: a cell for each column, and a text for each
field. -/
structure Admissible (mapping : Mapping) (row : Row) : Prop where
  length : row.length = (freshTable mapping).columns.length
  present : ∀ field, (mapping.layout.cells (freshTable mapping) row field).isSome = true

/-- A connection is open, and the table of a mapping holds these rows. -/
structure Holds (mapping : Mapping) (rows : List Row) (connection : Connection) : Prop where
  isOpen : connection.isOpen = true
  found : connection.database.find? mapping.table =
    some { freshTable mapping with rows := rows }
  admissible : ∀ row ∈ rows, Admissible mapping row

/-! ## Rows -/

section Rows

variable {mapping : Mapping} (usable : mapping.Usable)
include usable

theorem admissible_bindingRow (binding : Binding) :
    Admissible mapping (mapping.layout.bindingRow (freshTable mapping) binding) where
  length := Table.length_newRow _
  present := fun field => by
    rw [Layout.cells_bindingRow (placed_freshTable usable), Option.isSome_some]

theorem admissible_withValue {row : Row} (admissible : Admissible mapping row) (text : String) :
    Admissible mapping (mapping.layout.withValue (freshTable mapping) text row) where
  length := (List.length_set).trans admissible.length
  present := fun field => by
    have placed := placed_freshTable usable
    by_cases value : field = .value
    · rw [value, Layout.cells_withValue_value placed admissible.length, Option.isSome_some]
    · rw [Layout.cells_withValue_of_ne placed value]
      exact admissible.present field

/-- A projection of all columns shows the cell of a field where its primary column stands. -/
theorem getElem?_project_row (field : Field) (row : Row) :
    ((freshTable mapping).project mapping.layout.allColumns row)[mapping.layout.offsetOf field]? =
      some (mapping.layout.cells (freshTable mapping) row field) := by
  rw [Table.project, List.getElem?_map, Layout.getElem?_allColumns (usable.maps field)]
  rfl

/-- An entry is read off a row that has an owner and a key. -/
theorem entryOfRow_project_row {row : Row} (admissible : Admissible mapping row) :
    entryOfRow (mapping.layout.offsetOf .key) (mapping.layout.offsetOf .value)
        ((freshTable mapping).project mapping.layout.allColumns row) =
      .ok (entryOf mapping row) := by
  obtain ⟨owner, ownerCell⟩ := Option.isSome_iff_exists.mp (admissible.present .owner)
  obtain ⟨key, keyCell⟩ := Option.isSome_iff_exists.mp (admissible.present .key)
  have atOwner : ((freshTable mapping).project mapping.layout.allColumns row)[0]? =
      some (some owner) := ownerCell ▸ getElem?_project_row usable .owner row
  have atKey := getElem?_project_row usable .key row
  rw [keyCell] at atKey
  unfold entryOfRow requiredCell cell
  rw [atOwner, atKey, getElem?_project_row usable .value row, entryOf, ownerCell, keyCell]
  rfl

end Rows

/-- Where the columns of key and value are in a projection of all columns. -/
theorem offsets_eq {mapping : Mapping} (maps : ∀ field, mapping.layout.Maps field) :
    offsets mapping.layout =
      .ok (mapping.layout.offsetOf .key, mapping.layout.offsetOf .value) := by
  have resolved : ∀ field, mapping.layout.resolve field = .ok (mapping.layout.columnsOf field) :=
    fun field => (mapping.layout.resolve_yields field).eq_ok (maps field)
  unfold offsets
  rw [resolved, resolved]
  rfl

/-! ## Filters -/

/-- The filter for the entries of an owner. -/
def ownerFilter (owner : String) : Filter :=
  ⟨[⟨.owner, .text (Anchoring.full.anchor (Pattern.escape owner)), .init⟩]⟩

/-- The filter for the entry of an owner under a key. -/
def pairFilter (owner key : String) : Filter :=
  ⟨[⟨.owner, .text (Anchoring.full.anchor (Pattern.escape owner)), .init⟩,
    ⟨.key, .text (Anchoring.full.anchor (Pattern.escape key)), .and⟩]⟩

theorem linked_ownerFilter (owner : String) : Linked (ownerFilter owner).conditions :=
  ⟨rfl, List.forall_mem_nil _⟩

theorem linked_pairFilter (owner key : String) : Linked (pairFilter owner key).conditions :=
  ⟨rfl, List.forall_mem_singleton.mpr Link.noConfusion⟩

theorem ofOwner_eq (action : Action) (owner : String) :
    ofOwner action owner = .ok (.act action (ownerFilter owner)) := rfl

theorem ofPair_eq (action : Action) (owner key : String) :
    ofPair action owner key = .ok (.act action (pairFilter owner key)) := rfl

theorem find_eq (field : Field) (pattern : String) (anchoring : Anchoring) :
    Query.find field pattern anchoring =
      .ok (.act (.select Field.all) ⟨[⟨field, .text (anchoring.anchor pattern), .init⟩]⟩) := by
  cases field <;> rfl

/-- A filter that picks entries by their cells. -/
structure Selects (meaning : PatternMeaning) (filter : Filter)
    (picks : (Field → Option String) → Bool) : Prop where
  linked : Linked filter.conditions
  wellFormed : ∀ condition ∈ filter.conditions,
    (meaning condition.value.parameter).isSome = true
  admits : ∀ cells, filter.admits meaning cells = picks cells

section Literals

variable {meaning : PatternMeaning} {literal owner key : String}

/-- A condition on a literal accepts a cell that holds the literal, and no other. -/
theorem accepts_literal (taken : Takes meaning literal) (field : Field) (link : Link)
    (cell : Option String) :
    Condition.accepts meaning
      ⟨field, .text (Anchoring.full.anchor (Pattern.escape literal)), link⟩ cell =
      (cell == some literal) := by
  unfold Condition.accepts
  rw [Takes] at taken
  cases cell with
  | none => rfl
  | some text =>
      simp only [Value.parameter, taken]
      rfl

theorem isSome_of_takes (taken : Takes meaning literal) :
    (meaning (Anchoring.full.anchor (Pattern.escape literal))).isSome = true := by
  rw [taken]
  rfl

variable (ownerTaken : Takes meaning owner) (keyTaken : Takes meaning key)
include ownerTaken

theorem selects_owner :
    Selects meaning (ownerFilter owner) fun cells => cells .owner == some owner where
  linked := linked_ownerFilter owner
  wellFormed := List.forall_mem_singleton.mpr (isSome_of_takes ownerTaken)
  admits := fun cells => by
    have runs : (ownerFilter owner).runs = [(ownerFilter owner).conditions] := rfl
    rw [Filter.admits, runs]
    simp only [ownerFilter, List.any_cons, List.any_nil, List.all_cons, List.all_nil,
      accepts_literal ownerTaken, Bool.or_false, Bool.and_true]
    rfl

include keyTaken

theorem selects_pair :
    Selects meaning (pairFilter owner key) fun cells =>
      cells .owner == some owner && cells .key == some key where
  linked := linked_pairFilter owner key
  wellFormed := List.forall_mem_cons.mpr ⟨isSome_of_takes ownerTaken,
    List.forall_mem_singleton.mpr (isSome_of_takes keyTaken)⟩
  admits := fun cells => by
    have runs : (pairFilter owner key).runs = [(pairFilter owner key).conditions] := rfl
    rw [Filter.admits, runs]
    simp only [pairFilter, List.any_cons, List.any_nil, List.all_cons, List.all_nil,
      accepts_literal ownerTaken, accepts_literal keyTaken, Bool.or_false, Bool.and_true]
    rfl

/-- The rows of a pair are picked, in any table that has the columns of owner and key. -/
theorem picks_pair {layout : Layout} {table : Table}
    (has : ∀ term ∈ layout.terms (pairFilter owner key).conditions, table.Has term.column) :
    table.Picks meaning (layout.terms (pairFilter owner key).conditions)
      ((pairFilter owner key).conditions.map (·.value.parameter))
      (layout.isAt table owner key) := by
  rw [Layout.terms, List.forall_mem_map] at has
  have selects := selects_pair ownerTaken keyTaken
  have picks := Layout.picks_terms has fun _ _ => selects.wellFormed
  simp only [selects.admits] at picks
  exact picks

end Literals

/-! ## Programs of one statement -/

section Programs

variable {mapping : Mapping}

/-- A store sends the statement of its query's shape. -/
theorem prepare_eq_ok {query : Query} (complete : query.Complete mapping.layout) :
    (Store.mk mapping).prepare (.ok query) =
      .ok (.of (query.shape mapping.layout) query.params) := by
  have compiled := (Query.compile_yields query).eq_ok complete
  exact congrArg (Except.mapError Defect.toError) compiled

theorem rows_eq {query : Query} (complete : query.Complete mapping.layout) :
    (Store.mk mapping).rows (.ok query) =
      .rowsOf (.of (query.shape mapping.layout) query.params) := by
  rw [rows, prepare_eq_ok complete]

theorem affected_eq {query : Query} (complete : query.Complete mapping.layout) :
    (Store.mk mapping).affected (.ok query) =
      .countOf (.of (query.shape mapping.layout) query.params) := by
  rw [affected, prepare_eq_ok complete]

/-- A program that ends with a conversion of a result. -/
theorem run_finish {σ α β : Type} {executor : Executor σ} {program : Program α} {result : α}
    {state after : σ} (ran : program.run executor state = (.ok result, after)) (finish : α → β) :
    (program.bind fun a => .done (finish a)).run executor state = (.ok (finish result), after) := by
  rw [Program.run_bind, ran]
  rfl

end Programs

/-- A program is one statement, which answers a number and leaves a connection behind. -/
def Counts (meaning : PatternMeaning) (program : Program Nat) (before : Connection) (count : Nat)
    (after : Connection) : Prop :=
  ∃ prepared, program = .countOf prepared ∧
    (Connection.executor meaning).execute prepared before = (.ok count, after)

namespace Counts

variable {meaning : PatternMeaning} {program : Program Nat} {before after : Connection}
  {count : Nat}
  (counts : Counts meaning program before count after)
include counts

theorem run : program.run (Connection.executor meaning) before = (.ok count, after) := by
  obtain ⟨prepared, rfl, executed⟩ := counts
  rw [Program.run_countOf, executed]

/-- A program that begins with one statement goes on behind it. -/
theorem advance {α : Type} (next : Nat → Program α) :
    (program.bind next).advance (Connection.executor meaning) before = (next count, after) := by
  obtain ⟨prepared, rfl, executed⟩ := counts
  simp only [Program.countOf, Program.bind, Program.advance, executed]

/-- A program that begins with a statement has not failed. -/
theorem isFailed_bind {α : Type} (next : Nat → Program α) :
    (program.bind next).isFailed = false := by
  obtain ⟨prepared, rfl, _⟩ := counts
  rfl

end Counts

/-! ## Statements -/

/-- A connection to a database in which the table of a mapping has other rows. -/
def withRows (mapping : Mapping) (rows : List Row) (connection : Connection) : Connection :=
  { connection with
    database := connection.database.replace { freshTable mapping with rows := rows } }

theorem withRows_of (mapping : Mapping) (rows : List Row) (database : Database) :
    withRows mapping rows (.of database) =
      .of (database.replace { freshTable mapping with rows := rows }) := rfl

theorem withRows_withRows (mapping : Mapping) (rows others : List Row)
    (connection : Connection) :
    withRows mapping others (withRows mapping rows connection) =
      withRows mapping others connection :=
  congrArg (Connection.mk · connection.isOpen) (Database.replace_replace _ _ _ _)

namespace Holds

variable {meaning : PatternMeaning} {mapping : Mapping} {rows : List Row} {connection : Connection}
variable (sound : mapping.Sound) (usable : mapping.Usable)
  (holds : Holds mapping rows connection)
include holds

theorem withRows {others : List Row} (admissible : ∀ row ∈ others, Admissible mapping row) :
    Holds mapping others (withRows mapping others connection) where
  isOpen := holds.isOpen
  found := Database.find?_replace holds.found others
  admissible := admissible

theorem exists_database : ∃ database, connection = .of database := by
  obtain ⟨database, isOpen⟩ := connection
  exact ⟨database, congrArg (Connection.mk database) holds.isOpen⟩

include sound usable

/-- Whatever a store asks of the table of its mapping can be answered. -/
theorem ready {query : Query} (asks : query.Asks) (linked : Linked query.conditions)
    (wellFormed : ∀ row ∈ rows, ∀ condition ∈ query.conditions,
      (meaning condition.value.parameter).isSome = true) :
    query.Ready meaning mapping connection.database { freshTable mapping with rows := rows } where
  sound := sound
  linked := linked
  complete := Query.complete_of_maps usable.maps asks
  found := holds.found
  has := fun _ _ _ member => has_column usable member
  wellFormed := wellFormed

section Filter

variable {filter : Filter} {picks : (Field → Option String) → Bool}
  (selects : Selects meaning filter picks)
include selects

/-- A selection shows the rows that its filter picks. -/
theorem select {fields : List Field} (nonempty : fields ≠ []) :
    ((Store.mk mapping).rows (.ok (.act (.select fields) filter))).run
        (Connection.executor meaning) connection =
      (.ok ((rows.filter fun row => picks (mapping.layout.cells (freshTable mapping) row)).map
        ((freshTable mapping).project (fields.flatMap mapping.layout.columnsOf))), connection) := by
  obtain ⟨database, rfl⟩ := holds.exists_database
  have asked : Query.Ready meaning mapping database
      { freshTable mapping with rows := rows } (.act (.select fields) filter) :=
    holds.ready sound usable nonempty selects.linked fun _ _ => selects.wellFormed
  simp only [← selects.admits]
  rw [rows_eq asked.complete, Program.run_rowsOf]
  exact asked.fetch

/-- A deletion removes the rows that its filter picks. -/
theorem delete :
    Counts meaning ((Store.mk mapping).affected (.ok (.act .delete filter))) connection
      (rows.countP fun row => picks (mapping.layout.cells (freshTable mapping) row))
      (Store.withRows mapping
        (rows.filter fun row => !picks (mapping.layout.cells (freshTable mapping) row))
        connection) := by
  obtain ⟨database, rfl⟩ := holds.exists_database
  have asked : Query.Ready meaning mapping database
      { freshTable mapping with rows := rows } (.act .delete filter) :=
    holds.ready sound usable trivial selects.linked fun _ _ => selects.wellFormed
  simp only [← selects.admits]
  exact ⟨_, affected_eq asked.complete, asked.execute_delete⟩

/-- An update of the value gives the rows that its filter picks another text. -/
theorem update (value : Value) :
    Counts meaning ((Store.mk mapping).affected (.ok (.act (.update [⟨.value, value⟩]) filter)))
      connection
      (rows.countP fun row => picks (mapping.layout.cells (freshTable mapping) row))
      (Store.withRows mapping (rows.map fun row =>
        if picks (mapping.layout.cells (freshTable mapping) row) then
          mapping.layout.withValue (freshTable mapping) value.parameter row
        else row) connection) := by
  obtain ⟨database, rfl⟩ := holds.exists_database
  have asked : Query.Ready meaning mapping database
      { freshTable mapping with rows := rows } (.act (.update [⟨.value, value⟩]) filter) :=
    holds.ready sound usable (List.cons_ne_nil _ _) selects.linked fun _ _ => selects.wellFormed
  simp only [← selects.admits]
  exact ⟨_, affected_eq asked.complete,
    asked.execute_update fun assignment _ => plain_primaryOf usable assignment.field⟩

end Filter

/-- An insertion appends a row. -/
theorem insert (owner key : String) (value : Value) :
    Counts meaning ((Store.mk mapping).affected (.ok (.insert [⟨.owner, .text owner⟩,
        ⟨.key, .text key⟩, ⟨.value, value⟩]))) connection 1
      (Store.withRows mapping (rows ++
        [mapping.layout.bindingRow (freshTable mapping) ⟨owner, key, value.parameter⟩])
        connection) := by
  obtain ⟨database, rfl⟩ := holds.exists_database
  have asked : Query.Ready meaning mapping database
      { freshTable mapping with rows := rows }
      (.insert [⟨.owner, .text owner⟩, ⟨.key, .text key⟩, ⟨.value, value⟩]) :=
    holds.ready sound usable (List.cons_ne_nil _ _) trivial fun _ _ => List.forall_mem_nil _
  rw [withRows_of]
  exact ⟨_, affected_eq asked.complete, asked.execute_insert
    (fun assignment _ => plain_primaryOf usable assignment.field)
    (missing?_bindingRow usable ⟨owner, key, value.parameter⟩)⟩

end Holds

end EntryStore.Store
