import EntryStore.Home
import EntryStore.Proofs.Json.Document
import EntryStore.Proofs.Outcome

/-!
# Typed values read back

The kinds of values that a store is asked for, each with its documents and its decoder.  A
value is decoded from the text of its document; that the text may look like another kind of
JSON makes no difference, since each decoder reads the documents of its own kind.
-/

namespace EntryStore.Json

/-- A kind of value. -/
inductive Kind where
  | int64
  | bool
  | string
  /-- an integer of 64 bits, or `null` -/
  | optionalInt64
  | home
  /-- a document of any form -/
  | json
  | list (element : Kind)
  deriving DecidableEq, Repr

namespace Kind

/-- The values of a kind. -/
abbrev Carrier : Kind → Type
  | int64 => Int64
  | bool => Bool
  | string => String
  | optionalInt64 => Option Int64
  | home => Home
  | json => Json
  | list element => List element.Carrier

/-- The document of a value. -/
def toJson : (kind : Kind) → kind.Carrier → Json
  | int64, n => .integer n.toInt
  | bool, truth => .bool truth
  | string, text => .string text
  | optionalInt64, none => .null
  | optionalInt64, some n => .integer n.toInt
  | home, place => Home.toJson place
  | json, document => document
  | list element, values => .array (values.map element.toJson)

/-- How values of a kind are read. -/
def decoder : (kind : Kind) → Decoder kind.Carrier
  | int64 => .int64
  | bool => .bool
  | string => .string
  | optionalInt64 => .option .int64
  | home => Home.decoder
  | json => .json
  | list element => .list element.decoder

/-- The lists and objects of a value are nested at most `depth` deep, and the documents in it
are of integers of 64 bits and sorted objects. -/
def Fits : (kind : Kind) → (depth : Nat) → kind.Carrier → Prop
  | int64, _, _ | bool, _, _ | string, _, _ | optionalInt64, _, _ => True
  | home, depth, _ => 1 ≤ depth
  | json, depth, document => document.Within depth
  | list element, depth, values =>
      1 ≤ depth ∧ ∀ value ∈ values, element.Fits (depth - 1) value

end Kind

variable {α : Type} {depth : Nat}

/-- A list of values that fit takes one level more. -/
theorem Kind.fits_list {kind : Kind} {values : List kind.Carrier}
    (inside : ∀ value ∈ values, kind.Fits depth value) :
    (Kind.list kind).Fits (depth + 1) values :=
  ⟨Nat.le_add_left 1 depth, inside⟩

/-- A value is decoded from the text of the document that it is read from. -/
theorem decode_print_of_reads {decoder : Decoder α} {document : Json} {value : α}
    (reads : Reads (decoder.read depthLimit) document value) :
    decoder.decode document.print = .ok value := by
  have read := reads [] endsNumber_nil
  rw [List.append_nil] at read
  rw [Decoder.decode, readAll, print, String.toList_ofList, read]
  rfl

theorem reads_string (text : String) : Reads (Decoder.string.read depth) (.string text) text := by
  exact fun rest _ => keyText_of_string (string_written text) rest

theorem reads_bool (truth : Bool) : Reads (Decoder.bool.read depth) (.bool truth) truth := by
  intro rest _
  cases truth <;> rfl

theorem signedWord_toInt (n : Int64) : signedWord (.integer n.toInt) = .ok n.toInt :=
  if_pos ⟨n.minValue_le_toInt, n.toInt_le⟩

/-- A number that is read and accepted is what a reader of numbers gives. -/
theorem numberFor_of_number {accept : Numeral → Except Cause α} {numeral : Numeral} {value : α}
    {text rest : List Char} (expected : String) (read : number text = .ok (numeral, rest))
    (accepted : accept numeral = .ok value) :
    numberFor expected accept text = .ok (value, rest) := by
  cases text with
  | nil => cases read
  | cons c text =>
      have starts := startsNumber_of_number read
      rw [numberFor, skipSpace_cons (visible_of_startsNumber starts)]
      simp only [starts, if_true, bind, Except.bind, read, accepted]
      rfl

theorem reads_int64 (n : Int64) : Reads (Decoder.int64.read depth) (.integer n.toInt) n := by
  intro rest ends
  have accepted := numberFor_of_number "i64" (number_integerChars (.of_int64 n) ends)
    (signedWord_toInt n)
  change (numberFor "i64" signedWord (integerChars n.toInt ++ rest) >>= _) = _
  rw [accepted]
  exact congrArg (fun n => Except.ok (n, rest)) (Int64.ofInt_toInt n)

/-- Where no `null` stands, a value that might be missing is there. -/
theorem reads_option {decoder : Decoder α} {document : Json} {value : α} {first : Char}
    {others : List Char} (written : document.chars = first :: others)
    (visible : isSpace first = false) (differs : first ≠ 'n')
    (reads : Reads (decoder.read depth) document value) :
    Reads (decoder.option.read depth) document (some value) := by
  intro rest ends
  have read := reads rest ends
  rw [written, List.cons_append] at read ⊢
  simp only [Decoder.option, skipSpace_cons visible]
  split
  case h_1 same => exact absurd (List.cons.inj same).1 differs
  case h_2 =>
    simp only [bind, Except.bind, read]
    rfl

theorem reads_optionalInt64 (n? : Option Int64) :
    Reads (Decoder.int64.option.read depth) (Kind.optionalInt64.toJson n?) n? := by
  cases n? with
  | none => exact fun _ _ => rfl
  | some n =>
      obtain ⟨first, others, written, starts⟩ := exists_integerChars n.toInt
      exact reads_option written (visible_of_startsNumber starts) (ne_of_startsNumber starts rfl)
        (reads_int64 n)

/-- A list is read back if its elements are. -/
theorem reads_list {decoder : Decoder α} {form : α → Json} {values : List α}
    (opens : ∀ value ∈ values, (written (form value)).Opens)
    (reads : ∀ value ∈ values, Reads (decoder.read (depth + 1)) (form value) value) :
    Reads (decoder.list.read (depth + 2)) (.array (values.map form)) values := by
  have spelled := list_written (values.map form)
  rw [List.map_map] at spelled
  exact listOf_list opens (fun value member => (reads value member).readBy) _ spelled

theorem int64_blanks (blank text : List Char) (blanks : Blanks blank) :
    Decoder.int64.read depth (blank ++ text) = Decoder.int64.read depth text := by
  simp only [Decoder.int64, numberFor, skipSpace_append blanks]

/-- The entries of a home fill its record. -/
theorem fills_home (place : Home) :
    Home.record.Fills depth Home.record.empty
      [("world", written (.string place.world)), ("x", written (.integer place.x.toInt)),
        ("z", written (.integer place.z.toInt))]
      ⟨some place.world, some place.x, some place.z⟩ := by
  have integer : ∀ n : Int64,
      (written (.integer n.toInt)).padded.ReadBy (Decoder.int64.read depth) n :=
    fun n => readBy_padded int64_blanks (reads_int64 n).readBy
  have string : (written (.string place.world)).padded.ReadBy (Decoder.string.read depth)
      place.world := readBy_padded (stringFor_blanks "a string") (reads_string place.world).readBy
  have world := string.map fun world (pieces : Home.Pieces) => { pieces with world := some world }
  have x := (integer place.x).map fun x (pieces : Home.Pieces) => { pieces with x := some x }
  have z := (integer place.z).map fun z (pieces : Home.Pieces) => { pieces with z := some z }
  exact .cons rfl rfl world (.cons rfl rfl x (.cons rfl rfl z .nil))

theorem reads_home (place : Home) :
    Reads (Home.decoder.read (depth + 2)) place.toJson place := by
  have spelled := object_written [("world", .string place.world),
    ("x", .integer place.x.toInt), ("z", .integer place.z.toInt)]
  exact RecordReader.read_object (fills_home place) rfl _ spelled

/-! ## Values of every kind -/

/-- The document of a value is nested like the value. -/
theorem Kind.within_toJson {kind : Kind} {value : kind.Carrier} (fits : kind.Fits depth value) :
    Within depth (kind.toJson value) := by
  induction kind generalizing depth with
  | int64 => exact within_integer.mpr (.of_int64 value)
  | bool => cases depth <;> trivial
  | string => cases depth <;> trivial
  | optionalInt64 =>
      cases value with
      | none => cases depth <;> trivial
      | some n => exact within_integer.mpr (.of_int64 n)
  | home =>
      obtain ⟨depth, rfl⟩ := Nat.exists_eq_add_one_of_ne_zero (Nat.ne_zero_of_lt fits)
      exact within_ofEntries (by simp [Within, IsWordSized.of_int64])
  | json => exact fits
  | list element ih =>
      obtain ⟨positive, inside⟩ := fits
      obtain ⟨depth, rfl⟩ := Nat.exists_eq_add_one_of_ne_zero (Nat.ne_zero_of_lt positive)
      exact List.forall_mem_map.mpr fun value member => ih (inside value member)

/-- A value is read back. -/
theorem Kind.reads (kind : Kind) {value : kind.Carrier} (fits : kind.Fits depth value) :
    Reads (kind.decoder.read (depth + 1)) (kind.toJson value) value := by
  induction kind generalizing depth with
  | int64 => exact reads_int64 value
  | bool => exact reads_bool value
  | string => exact reads_string value
  | optionalInt64 => exact reads_optionalInt64 value
  | home =>
      obtain ⟨depth, rfl⟩ := Nat.exists_eq_add_one_of_ne_zero (Nat.ne_zero_of_lt fits)
      exact reads_home value
  | json => exact reads_document fits
  | list element ih =>
      obtain ⟨positive, inside⟩ := fits
      obtain ⟨depth, rfl⟩ := Nat.exists_eq_add_one_of_ne_zero (Nat.ne_zero_of_lt positive)
      exact reads_list (fun value member => opens_of_within (within_toJson (inside value member)))
        (fun value member => ih (inside value member))

/-- A value is decoded from the text of its document. -/
theorem Kind.decode_print (kind : Kind) (value : kind.Carrier) (fits : kind.Fits 127 value) :
    kind.decoder.decode (kind.toJson value).print = .ok value :=
  decode_print_of_reads (kind.reads fits)

end EntryStore.Json
