import EntryStore.Proofs.Json.Document
import EntryStore.Proofs.Mapping

/-!
# Mappings read from JSON

A JSON text of a mapping binds fields to lists of columns, one after the other, as calls on a
draft do, and is accepted exactly if the draft is.  Which draft that is depends on the last list of
each field alone (`lastColumns`), and of the faults of a draft the first one is reported
(`firstFault?`): that of the table, or else the first one of a column in the order of the fields.
-/

namespace EntryStore.Mapping

open Json (Spelling Reader Holds Blanks)
open Outcome (Reports)

variable {normalize : String → String} {table : String} {entries : List (Field × List String)}

/-- The texts of a list of columns. -/
def columnsSpelling (columns : List String) : Spelling := .list (columns.map .string)

/-- The texts of a mapping: an object with the name of the table and an object of fields, each with
the list of its columns, in the given order. -/
def spelling (table : String) (entries : List (Field × List String)) : Spelling :=
  .object [("table", .string table),
    ("columns", .object (entries.map fun entry => (entry.1.name, columnsSpelling entry.2)))]

/-- The list that the last entry of a field binds it to. -/
def lastColumns (entries : List (Field × List String)) (field : Field) : Option (List String) :=
  (entries.reverse.find? (·.1 == field)).map (·.2)

/-- The fault of a name. -/
def nameFault? (normalize : String → String) (name : String) : Option Fault :=
  match Identifier.check normalize name with
  | .error fault => some (.name fault)
  | .ok _ => none

/-- The first fault of the columns of a field. -/
def columnsFault? (normalize : String → String) (table : String) (field : Field) :
    Option (List String) → Option Fault
  | none => none
  | some [] => some (.noColumn field (normalize table))
  | some columns => columns.findSome? (nameFault? normalize)

/-- The first fault of a table and the columns of its fields. -/
def firstFault? (normalize : String → String) (table : String)
    (columns : Field → Option (List String)) : Option Fault :=
  (nameFault? normalize table).or
    (Field.all.findSome? fun field => columnsFault? normalize table field (columns field))

/-! ## Last lists -/

theorem lastColumns_append (earlier later : List (Field × List String)) (field : Field) :
    lastColumns (earlier ++ later) field =
      (lastColumns later field).or (lastColumns earlier field) := by
  simp only [lastColumns, List.reverse_append, List.find?_append, Option.map_or]

theorem lastColumns_cons (field other : Field) (columns : List String)
    (later : List (Field × List String)) :
    lastColumns ((other, columns) :: later) field =
      (lastColumns later field).or (if other == field then some columns else none) := by
  rw [← List.singleton_append, lastColumns_append]
  cases field <;> cases other <;> rfl

/-- Entries of different fields may change places. -/
theorem lastColumns_of_filter {entries' : List (Field × List String)} {field : Field}
    (same : entries'.filter (·.1 == field) = entries.filter (·.1 == field)) :
    lastColumns entries' field = lastColumns entries field := by
  have filtered : ∀ entries : List (Field × List String),
      (entries.filter (·.1 == field)).find? (·.1 == field) = entries.find? (·.1 == field) := by
    intro entries
    simp only [List.find?_filter, Bool.decide_and, Bool.decide_eq_true,
      Bool.and_self]
  rw [lastColumns, lastColumns, ← filtered, ← filtered entries.reverse, List.filter_reverse,
    List.filter_reverse, same]

/-- A list that is replaced later makes no difference. -/
theorem lastColumns_replaced {earlier later : List (Field × List String)} {field : Field}
    (columns : List String) (replaced : field ∈ later.map (·.1)) (other : Field) :
    lastColumns (earlier ++ (field, columns) :: later) other =
      lastColumns (earlier ++ later) other := by
  rw [lastColumns_append, lastColumns_append, lastColumns_cons]
  by_cases same : field = other
  · obtain ⟨entry, member, rfl⟩ := List.mem_map.mp replaced
    have found : (lastColumns later other).isSome = true := by
      rw [lastColumns, Option.isSome_map, List.find?_isSome]
      exact ⟨entry, List.mem_reverse.mpr member, beq_iff_eq.mpr same⟩
    obtain ⟨names, present⟩ := Option.isSome_iff_exists.mp found
    rw [present]
    rfl
  · rw [beq_false_of_ne same, if_neg Bool.false_ne_true, Option.or_none]

/-! ## Drafts -/

namespace Draft

theorem table_mapAll (draft : Draft) (entries : List (Field × List String)) :
    (draft.mapAll entries).table = draft.table := by
  induction entries generalizing draft with
  | nil => rfl
  | cons entry entries ih => exact ih (draft.map entry.1 entry.2)

/-- Of the lists that a field is mapped to the last one counts. -/
theorem get_mapAll (draft : Draft) (entries : List (Field × List String)) (field : Field) :
    (draft.mapAll entries).columns.get field =
      (lastColumns entries field).or (draft.columns.get field) := by
  induction entries generalizing draft with
  | nil => rfl
  | cons entry entries ih =>
      obtain ⟨other, columns⟩ := entry
      have step : (draft.map other columns).columns.get field =
          (if other == field then some columns else none).or (draft.columns.get field) := by
        by_cases same : other = field
        · subst same
          rw [beq_self_eq_true, if_pos rfl]
          exact PerField.get_set_self _ other _
        · rw [beq_false_of_ne same, if_neg Bool.false_ne_true]
          exact PerField.get_set_of_ne _ _ (Ne.symm same)
      have first := ih (draft.map other columns)
      rw [step, ← Option.or_assoc, ← lastColumns_cons] at first
      exact first

/-- A draft depends on the last list of each field alone. -/
theorem mapAll_congr {entries' : List (Field × List String)}
    (same : ∀ field, lastColumns entries' field = lastColumns entries field) :
    (new table).mapAll entries' = (new table).mapAll entries := by
  have columns : ∀ field, ((new table).mapAll entries').columns.get field =
      ((new table).mapAll entries).columns.get field := by
    intro field
    rw [get_mapAll, get_mapAll, same]
  have parts : ∀ left right : Draft, left.table = right.table →
      (∀ field, left.columns.get field = right.columns.get field) → left = right := by
    rintro ⟨_, owner, key, value⟩ ⟨_, owner', key', value'⟩ rfl columns
    have owners : owner = owner' := columns .owner
    have keys : key = key' := columns .key
    have values : value = value' := columns .value
    rw [owners, keys, values]
  exact parts _ _ ((table_mapAll _ _).trans (table_mapAll _ _).symm) columns

theorem acceptName_reports (normalize : String → String) (name : String) :
    Reports (acceptName normalize name) (nameFault? normalize name) := by
  unfold acceptName Identifier.accept nameFault?
  cases Identifier.check normalize name with
  | error fault => exact .error _
  | ok _ => exact .ok _

theorem normalize_of_acceptName {name stored : String}
    (accepted : acceptName normalize name = .ok stored) : stored = normalize name := by
  have passed := Outcome.mapError_eq_ok_iff.mp accepted
  obtain ⟨_, _, same⟩ := Outcome.bind_eq_ok_iff.mp passed
  exact (Except.ok.inj same).symm

theorem acceptColumns_reports (normalize : String → String) (table : String) (field : Field)
    (columns? : Option (List String)) :
    Reports (acceptColumns normalize (normalize table) field columns?)
      (columnsFault? normalize table field columns?) := by
  cases columns? with
  | none => exact .ok none
  | some columns =>
      cases columns with
      | nil => exact .error _
      | cons first others =>
          exact (Reports.mapM (acceptName_reports normalize) (first :: others)).bind_pure some

/-- A draft is refused for its first fault. -/
theorem build_reports (normalize : String → String) (draft : Draft) :
    Reports (draft.build normalize) (firstFault? normalize draft.table draft.columns.get) := by
  have fields : (Field.all.findSome? fun field =>
      columnsFault? normalize draft.table field (draft.columns.get field)) =
      (columnsFault? normalize draft.table .owner draft.columns.owner).or
        ((columnsFault? normalize draft.table .key draft.columns.key).or
          (columnsFault? normalize draft.table .value draft.columns.value)) := by
    simp only [Field.all, List.findSome?_cons, List.findSome?_nil, PerField.get]
    cases columnsFault? normalize draft.table .owner draft.columns.owner <;>
      cases columnsFault? normalize draft.table .key draft.columns.key <;>
      cases columnsFault? normalize draft.table .value draft.columns.value <;> rfl
  have each := acceptColumns_reports normalize draft.table
  rw [firstFault?, fields]
  refine (acceptName_reports normalize draft.table).bind fun stored accepted => ?_
  rw [normalize_of_acceptName accepted]
  exact (each .owner _).bind fun _ _ => (each .key _).bind fun _ _ => (each .value _).bind_pure _

end Draft

/-! ## Reading -/

section Reading

variable {depth : Nat}

theorem reads_field (field : Field) :
    (Spelling.string field.name).ReadBy (Field.decoder.read depth) field := by
  intro text spelled rest _
  have key := Json.keyText_of_string spelled rest
  obtain ⟨body, _, rfl⟩ := spelled
  change Json.variantName _ ('"' :: (body ++ ['"']) ++ rest) = _
  rw [Json.variantName, key]
  cases field <;> rfl

theorem reads_columns (columns : List String) :
    (columnsSpelling columns).ReadBy ((Json.Decoder.list .string).read (depth + 2)) columns :=
  Json.listOf_list (fun column _ => Json.opens_string column)
    (fun column _ => Json.stringFor_string "a string" column)

/-- The entries of a mapping's text fill its record. -/
theorem fills_record (table : String) (entries : List (Field × List String)) :
    record.Fills (depth + 3) record.empty
      [("table", .string table),
        ("columns", .object (entries.map fun entry => (entry.1.name, columnsSpelling entry.2)))]
      ⟨some table, some entries⟩ := by
  have name : (Spelling.string table).padded.ReadBy (Json.Decoder.string.read (depth + 3)) table :=
    Json.readBy_padded (Json.stringFor_blanks "a string") (Json.stringFor_string _ table)
  have object : (Spelling.object (entries.map fun entry =>
      (entry.1.name, columnsSpelling entry.2))).ReadBy
      (Json.mapOf (Field.decoder.read (depth + 3)) (Json.Decoder.list .string).read (depth + 3))
      entries := Json.mapOf_object reads_field Json.listOf_blanks fun entry _ => reads_columns entry.2
  have columns := Json.readBy_padded Json.mapOf_blanks object
  exact .cons rfl rfl (name.map fun table (pieces : Pieces) => { pieces with table := some table })
    (.cons rfl rfl
      (columns.map fun columns (pieces : Pieces) => { pieces with columns := some columns }) .nil)

/-- A text of a mapping is read as the draft of its entries is built, and a refused draft is
reported in the words of the refusal. -/
theorem ofJson_eq_build {text : String} (holds : Holds (spelling table entries) text) :
    ofJson normalize text = (((Draft.new table).mapAll entries).build normalize).mapError
      fun fault => .deserialization fault.toError.message := by
  have reads : (spelling table entries).ReadBy (record.read Json.depthLimit)
      ((Draft.new table).mapAll entries) :=
    Json.RecordReader.read_object (fills_record table entries) rfl
  have decoded := @Json.decode_filterMap _ (.ofRecord record) _ _ Json.RecordReader.read_blanks
    reads _ (fun draft => (draft.build normalize).mapError fun fault => fault.toError.message) _ holds
  have reported : ofJson normalize text =
      ((((decoder normalize).decode text).mapError fun fault => fault.report text).mapError
        Error.deserialization) := by
    unfold ofJson
    cases (decoder normalize).decode text <;> rfl
  rw [reported, decoder, decoded]
  cases ((Draft.new table).mapAll entries).build normalize <;> rfl

end Reading

/-- Entries that lead to the same mapping as others, or to the same refusal, be it by calls or by a
text of theirs. -/
structure Interchangeable (normalize : String → String) (table : String)
    (entries entries' : List (Field × List String)) : Prop where
  built : ((Draft.new table).mapAll entries').build normalize =
    ((Draft.new table).mapAll entries).build normalize
  read : ∀ text text', Holds (spelling table entries) text → Holds (spelling table entries') text' →
    ofJson normalize text' = ofJson normalize text

theorem interchangeable {entries' : List (Field × List String)}
    (same : ∀ field, lastColumns entries' field = lastColumns entries field) :
    Interchangeable normalize table entries entries' where
  built := congrArg (Draft.build normalize) (Draft.mapAll_congr same)
  read := by
    intro text text' holds holds'
    rw [ofJson_eq_build holds, ofJson_eq_build holds', Draft.mapAll_congr same]

/-- A JSON text of a mapping, in whatever spelling, is accepted exactly if the draft of its entries
is built, and with the same mapping; a refusal is reported as one of the text.  Only the last list
of each field counts, and the first fault is reported. -/
theorem ofJson_agrees_with_build {text : String} (holds : Holds (spelling table entries) text) :
    (∀ mapping, ofJson normalize text = .ok mapping ↔
        ((Draft.new table).mapAll entries).build normalize = .ok mapping) ∧
      (∀ reason, (((Draft.new table).mapAll entries).build normalize).mapError Fault.toError =
          .error (.validation reason) →
        ofJson normalize text = .error (.deserialization ("Validation error: " ++ reason))) ∧
      (∀ fault, ((Draft.new table).mapAll entries).build normalize = .error fault ↔
        firstFault? normalize table (lastColumns entries) = some fault) ∧
      (∀ entries', (∀ field, lastColumns entries' field = lastColumns entries field) →
        Interchangeable normalize table entries entries') ∧
      (∀ entries', (∀ field, entries'.filter (·.1 == field) = entries.filter (·.1 == field)) →
        Interchangeable normalize table entries entries') ∧
      (∀ earlier field columns later, entries = earlier ++ (field, columns) :: later →
        field ∈ later.map (·.1) →
        Interchangeable normalize table entries (earlier ++ later)) := by
  refine ⟨?_, ?_, ?_, fun entries' => interchangeable, ?_, ?_⟩
  · intro mapping
    rw [ofJson_eq_build holds, Outcome.mapError_eq_ok_iff]
  · intro reason refused
    obtain ⟨fault, failed, same⟩ := Outcome.mapError_eq_error_iff.mp refused
    cases same
    rw [ofJson_eq_build holds, failed]
    rfl
  · intro fault
    have columns : ((Draft.new table).mapAll entries).columns.get = lastColumns entries := by
      funext field
      rw [Draft.get_mapAll]
      exact (congrArg _ (PerField.get_replicate none field)).trans (Option.or_none)
    have reported := Draft.build_reports normalize ((Draft.new table).mapAll entries) fault
    rw [Draft.table_mapAll, columns] at reported
    exact reported
  · intro entries' same
    exact interchangeable fun field => lastColumns_of_filter (same field)
  · rintro earlier field columns later rfl replaced
    exact interchangeable fun other => (lastColumns_replaced columns replaced other).symm

/-- A text with blanks, an escape, and an empty list that is replaced later. -/
theorem ofJson_agrees_with_build_sample :
    ofJson id " \x7b\"table\" : \"m\\u0065ta\",\"columns\":\x7b\"key\":[],\"value\":[\"v\"] , \"key\":[ \"k\"]\x7d\x7d\n" =
      .ok ⟨"meta", ⟨none, some ["k"], some ["v"]⟩⟩ := by
  have plain : ∀ content, Spelling.string content (Json.stringChars content) := Json.string_written
  have blanks : ∀ text, text.all Json.isSpace = true → Blanks text := by
    intro text blank
    exact List.all_eq_true.mp blank
  have escaped : Json.SpellsChar 'e' ['\\', 'u', '0', '0', '6', '5'] :=
    @Json.SpellsChar.code '0' '0' '6' '5' 0x65 rfl rfl rfl
  have chars : Json.SpellsChars "meta".toList ['m', '\\', 'u', '0', '0', '6', '5', 't', 'a'] :=
    .cons (Json.spellsChar_escapeChar 'm')
      (.cons escaped (Json.spellsChars_flatMap_escapeChar ['t', 'a']))
  have name : Spelling.string "meta" ['"', 'm', '\\', 'u', '0', '0', '6', '5', 't', 'a', '"'] :=
    ⟨_, chars, rfl⟩
  have columns : Spelling.object
      ([(Field.key, []), (Field.value, ["v"]), (Field.key, ["k"])].map fun entry =>
        (entry.1.name, columnsSpelling entry.2))
      "\x7b\"key\":[],\"value\":[\"v\"] , \"key\":[ \"k\"]\x7d".toList :=
    ⟨_, .cons (blanks [] rfl)
        ⟨_, [], _, plain "key", blanks [] rfl, ⟨[], _, blanks [] rfl,
          ⟨_, .nil (blanks [] rfl), rfl⟩, rfl⟩, rfl⟩
        (.cons (blanks [] rfl) (blanks [] rfl)
          ⟨_, [], _, plain "value", blanks [] rfl, ⟨[], _, blanks [] rfl,
            ⟨_, .cons (blanks [] rfl) (plain "v") (.nil (blanks [] rfl)), rfl⟩, rfl⟩, rfl⟩
          (.cons (blanks [' '] rfl) (blanks [' '] rfl)
            ⟨_, [], _, plain "key", blanks [] rfl, ⟨[], _, blanks [] rfl,
              ⟨_, .cons (blanks [' '] rfl) (plain "k") (.nil (blanks [] rfl)), rfl⟩, rfl⟩, rfl⟩
            (.nil (blanks [] rfl)))), rfl⟩
  have holds : Holds (spelling "meta" [(.key, []), (.value, ["v"]), (.key, ["k"])])
      " \x7b\"table\" : \"m\\u0065ta\",\"columns\":\x7b\"key\":[],\"value\":[\"v\"] , \"key\":[ \"k\"]\x7d\x7d\n" :=
    ⟨[' '], _, ['\n'], blanks [' '] rfl,
      ⟨_, .cons (blanks [] rfl)
        ⟨_, [' '], _, plain "table", blanks [' '] rfl, ⟨[' '], _, blanks [' '] rfl, name, rfl⟩, rfl⟩
        (.cons (blanks [] rfl) (blanks [] rfl)
          ⟨_, [], _, plain "columns", blanks [] rfl, ⟨[], _, blanks [] rfl, columns, rfl⟩, rfl⟩
          (.nil (blanks [] rfl))), rfl⟩, blanks ['\n'] rfl, rfl⟩
  exact ((ofJson_agrees_with_build holds).1 _).mpr rfl

end EntryStore.Mapping
