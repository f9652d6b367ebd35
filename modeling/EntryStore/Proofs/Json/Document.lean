import EntryStore.Proofs.Json.Spelling

/-!
# Documents read back

What is written for a document is one of its texts.  A document without floating-point numbers is
read as it was written, as long as it is not nested too deep: by induction on the depth, a list
from the readings of its elements and an object from those of its entries.
-/

namespace EntryStore.Json

variable {α : Type} {rest : List Char} {fuel depth : Nat}

/-- A document whose numbers are integers of 64 bits and whose lists and objects are nested at most
`depth` deep.  The entries of its objects are in the order that `insert` keeps. -/
def Within : (depth : Nat) → Json → Prop
  | _, .null | _, .bool _ | _, .string _ => True
  | _, .integer n => IsWordSized n
  | _, .float _ => False
  | 0, .array _ | 0, .object _ => False
  | depth + 1, .array elements => ∀ element ∈ elements, Within depth element
  | depth + 1, .object entries =>
      entries.Pairwise (·.1 < ·.1) ∧ ∀ entry ∈ entries, Within depth entry.2

instance decidableWithin : (depth : Nat) → (document : Json) → Decidable (Within depth document)
  | 0, .null | 0, .bool _ | 0, .string _ => .isTrue trivial
  | _ + 1, .null | _ + 1, .bool _ | _ + 1, .string _ => .isTrue trivial
  | 0, .integer n | _ + 1, .integer n => inferInstanceAs (Decidable (IsWordSized n))
  | 0, .float _ | _ + 1, .float _ | 0, .array _ | 0, .object _ => .isFalse not_false
  | depth + 1, .array elements =>
      have := decidableWithin depth
      inferInstanceAs (Decidable (∀ element ∈ elements, Within depth element))
  | depth + 1, .object entries =>
      have := decidableWithin depth
      inferInstanceAs (Decidable (entries.Pairwise (·.1 < ·.1) ∧
        ∀ entry ∈ entries, Within depth entry.2))

@[simp] theorem within_integer {n : Int} : Within depth (.integer n) ↔ IsWordSized n := by
  cases depth <;> exact Iff.rfl

@[simp] theorem not_within_float {x : Double} : ¬ Within depth (.float x) := by
  cases depth <;> exact not_false

/-- The text that is written for a document. -/
def written (document : Json) : Spelling := fun text => text = document.chars

/-- A reader gives a value where its document is written and no number continues. -/
def Reads (reader : Reader α) (document : Json) (value : α) : Prop :=
  ∀ rest, EndsNumber rest → reader (document.chars ++ rest) = .ok (value, rest)

theorem Reads.readBy {reader : Reader α} {document : Json} {value : α}
    (reads : Reads reader document value) : (written document).ReadBy reader value := by
  rintro text rfl
  exact reads

/-! ## Scalars -/

theorem ne_of_startsNumber {c other : Char} (starts : startsNumber c = true)
    (differs : startsNumber other = false) : c ≠ other := by
  rintro rfl
  rw [starts] at differs
  cases differs

theorem visible_of_startsNumber {c : Char} (starts : startsNumber c = true) :
    isSpace c = false := by
  have blank : ∀ other, startsNumber other = false → (c == other) = false :=
    fun other differs => beq_false_of_ne (ne_of_startsNumber starts differs)
  rw [isSpace, blank ' ' rfl, blank '\n' rfl, blank '\t' rfl, blank '\r' rfl]
  rfl

theorem document_of_startsNumber {c : Char} (starts : startsNumber c = true) :
    document (depth + 1) (c :: rest) =
      (number (c :: rest)).map fun (numeral, rest) => (numeral.toJson, rest) := by
  rw [document, skipSpace_cons (visible_of_startsNumber starts)]
  split
  case h_1 same => cases same
  case h_8 same =>
    obtain ⟨rfl, rfl⟩ := List.cons.inj same
    rw [if_pos starts]
    rfl
  all_goals
    next same => exact absurd (List.cons.inj same).1 (ne_of_startsNumber starts rfl)

theorem string_written (text : String) : Spelling.string text (stringChars text) :=
  ⟨_, spellsChars_flatMap_escapeChar text.toList, rfl⟩

theorem document_string (text : String) (rest : List Char) :
    document (depth + 1) (stringChars text ++ rest) = .ok (.string text, rest) := by
  have same : document (depth + 1) (stringChars text ++ rest) =
      (keyText (stringChars text ++ rest)).map fun read => (.string read.1, read.2) := rfl
  rw [same, keyText_of_string (string_written text)]
  rfl

/-! ## Lists and objects -/

theorem exists_later_elements (elements : List Json) :
    ∃ text, elementChars elements = text ++ [']'] ∧
      Spelling.Later (elements.map written) text := by
  induction elements with
  | nil => exact ⟨[], rfl, .nil blanks_nil⟩
  | cons element elements ih =>
      obtain ⟨text, others, later⟩ := ih
      refine ⟨_, ?_, .cons blanks_nil blanks_nil (rfl : written element _) later⟩
      rw [elementChars, others]
      simp only [List.nil_append, List.cons_append, List.append_assoc]

/-- What is written for a list is one of its texts. -/
theorem list_written (elements : List Json) :
    Spelling.list (elements.map written) (array elements).chars := by
  cases elements with
  | nil => exact ⟨[], .nil blanks_nil, rfl⟩
  | cons element elements =>
      obtain ⟨text, others, later⟩ := exists_later_elements elements
      refine ⟨_, .cons blanks_nil (rfl : written element _) later, ?_⟩
      rw [chars, others]
      simp only [List.nil_append, List.cons_append, List.append_assoc]

theorem entry_written (key : String) (value : Json) :
    Spelling.entry key (written value).padded (stringChars key ++ ':' :: value.chars) :=
  ⟨_, [], _, string_written key, blanks_nil, ⟨[], _, blanks_nil, rfl, rfl⟩, rfl⟩

theorem exists_later_entries (bindings : List (String × Json)) :
    ∃ text, entryChars bindings = text ++ ['\x7d'] ∧
      Spelling.Later ((bindings.map fun entry => (entry.1, written entry.2)).map
        fun (key, value) => Spelling.entry key value.padded) text := by
  induction bindings with
  | nil => exact ⟨[], rfl, .nil blanks_nil⟩
  | cons entry bindings ih =>
      obtain ⟨key, value⟩ := entry
      obtain ⟨text, others, later⟩ := ih
      refine ⟨_, ?_, .cons blanks_nil blanks_nil (entry_written key value) later⟩
      rw [entryChars, others]
      simp only [List.nil_append, List.cons_append, List.append_assoc]

/-- What is written for an object is one of its texts. -/
theorem object_written (bindings : List (String × Json)) :
    Spelling.object (bindings.map fun entry => (entry.1, written entry.2))
      (object bindings).chars := by
  cases bindings with
  | nil => exact ⟨[], .nil blanks_nil, rfl⟩
  | cons entry bindings =>
      obtain ⟨key, value⟩ := entry
      obtain ⟨text, others, later⟩ := exists_later_entries bindings
      refine ⟨_, .cons blanks_nil (entry_written key value) later, ?_⟩
      rw [chars, others]
      simp only [List.nil_append, List.cons_append, List.append_assoc]

/-- What is bound after an insertion has been bound before or is inserted. -/
theorem mem_insert {key : String} {value : Json} {sorted : List (String × Json)}
    {entry : String × Json} (member : entry ∈ insert key value sorted) :
    entry = (key, value) ∨ entry ∈ sorted := by
  induction sorted with
  | nil => exact Or.inl (List.mem_singleton.mp member)
  | cons first sorted ih =>
      rw [insert] at member
      split at member
      · exact List.mem_cons.mp member
      · split at member
        · exact (List.mem_cons.mp member).imp_right (List.mem_cons_of_mem _)
        · rcases List.mem_cons.mp member with same | later
          · exact Or.inr (same ▸ List.mem_cons_self)
          · exact (ih later).imp_right (List.mem_cons_of_mem _)

/-- An insertion keeps entries sorted. -/
theorem sorted_insert {sorted : List (String × Json)} (key : String) (value : Json)
    (before : sorted.Pairwise (·.1 < ·.1)) : (insert key value sorted).Pairwise (·.1 < ·.1) := by
  induction sorted with
  | nil => exact List.pairwise_singleton _ _
  | cons first sorted ih =>
      obtain ⟨least, others⟩ := List.pairwise_cons.mp before
      rw [insert]
      split
      · next less =>
          refine List.pairwise_cons.mpr ⟨List.forall_mem_cons.mpr ⟨less, ?_⟩, before⟩
          exact fun entry member => String.lt_trans less (least entry member)
      · next notLess =>
          split
          · next same => exact List.pairwise_cons.mpr ⟨same ▸ least, others⟩
          · next differs =>
              have behind : first.1 < key :=
                Std.lt_of_le_of_ne (String.not_lt.mp notLess) (Ne.symm differs)
              refine List.pairwise_cons.mpr ⟨fun entry member => ?_, ih others⟩
              rcases mem_insert member with rfl | earlier
              · exact behind
              · exact least entry earlier

/-- The entries of an object are sorted, and each of them has been given. -/
theorem exists_ofEntries (bindings : List (String × Json)) :
    ∃ sorted, ofEntries bindings = .object sorted ∧ sorted.Pairwise (·.1 < ·.1) ∧
      ∀ entry ∈ sorted, entry ∈ bindings := by
  have kept : ∀ sorted : List (String × Json), sorted.Pairwise (·.1 < ·.1) →
      (bindings.foldl (fun sorted entry => insert entry.1 entry.2 sorted) sorted).Pairwise
          (·.1 < ·.1) ∧
        ∀ entry ∈ bindings.foldl (fun sorted entry => insert entry.1 entry.2 sorted) sorted,
          entry ∈ sorted ∨ entry ∈ bindings := by
    induction bindings with
    | nil => exact fun sorted before => ⟨before, fun entry member => Or.inl member⟩
    | cons first bindings ih =>
        intro sorted before
        obtain ⟨after, given⟩ := ih _ (sorted_insert first.1 first.2 before)
        refine ⟨after, fun entry member => ?_⟩
        rcases given entry member with earlier | later
        · rcases mem_insert earlier with rfl | earlier
          · exact Or.inr List.mem_cons_self
          · exact Or.inl earlier
        · exact Or.inr (List.mem_cons_of_mem _ later)
  obtain ⟨sorted, given⟩ := kept [] List.Pairwise.nil
  exact ⟨_, rfl, sorted, fun entry member =>
    (given entry member).resolve_left (List.not_mem_nil)⟩

/-- An object of documents takes one level more than they do. -/
theorem within_ofEntries {bindings : List (String × Json)}
    (inside : ∀ entry ∈ bindings, Within depth entry.2) :
    Within (depth + 1) (ofEntries bindings) := by
  obtain ⟨sorted, same, before, given⟩ := exists_ofEntries bindings
  rw [same]
  exact ⟨before, fun entry member => inside entry (given entry member)⟩

/-- A key behind all others is put at the end. -/
theorem insert_of_last {key : String} {value : Json} {sorted : List (String × Json)}
    (last : ∀ entry ∈ sorted, entry.1 < key) :
    insert key value sorted = sorted ++ [(key, value)] := by
  induction sorted with
  | nil => rfl
  | cons entry sorted ih =>
      have before := last entry List.mem_cons_self
      rw [insert, if_neg (String.lt_asymm before), if_neg (String.ne_of_lt before).symm,
        ih fun other member => last other (List.mem_cons_of_mem _ member)]
      rfl

/-- Sorted entries are the entries of their object. -/
theorem ofEntries_of_sorted {bindings : List (String × Json)}
    (sorted : bindings.Pairwise (·.1 < ·.1)) : ofEntries bindings = .object bindings := by
  have appended : ∀ earlier later : List (String × Json),
      (earlier ++ later).Pairwise (·.1 < ·.1) →
      later.foldl (fun sorted entry => insert entry.1 entry.2 sorted) earlier =
        earlier ++ later := by
    intro earlier later
    induction later generalizing earlier with
    | nil => exact fun _ => (List.append_nil earlier).symm
    | cons entry later ih =>
        intro sorted
        obtain ⟨key, value⟩ := entry
        have last : ∀ other ∈ earlier, other.1 < key :=
          fun other member => (List.pairwise_append.mp sorted).2.2 other member (key, value)
            List.mem_cons_self
        rw [List.append_cons] at sorted ⊢
        rw [List.foldl_cons]
        exact (congrArg (List.foldl _ · later) (insert_of_last last)).trans (ih _ sorted)
  exact congrArg Json.object (appended [] bindings sorted)

/-! ## Documents -/

theorem opens_of_within {document : Json} (within : Within depth document) :
    (written document).Opens := by
  rintro text rfl
  cases document with
  | null => exact ⟨'n', _, rfl, rfl, by decide⟩
  | bool value => cases value <;> exact ⟨_, _, rfl, rfl, by decide⟩
  | integer n =>
      obtain ⟨first, others, written, starts⟩ := exists_integerChars n
      exact ⟨first, others, written, visible_of_startsNumber starts,
        ne_of_startsNumber starts rfl⟩
  | float x => exact absurd within not_within_float
  | string text => exact ⟨'"', _, rfl, rfl, by decide⟩
  | array elements => cases elements <;> exact ⟨'[', _, rfl, rfl, by decide⟩
  | object entries => cases entries <;> exact ⟨'\x7b', _, rfl, rfl, by decide⟩

theorem document_blanks (blank text : List Char) (blanks : Blanks blank) :
    document (depth + 1) (blank ++ text) = document (depth + 1) text := by
  rw [document, document, skipSpace_append blanks]

theorem document_array (elements : List Json) (rest : List Char) :
    document (depth + 2) ((array elements).chars ++ rest) =
      (listOf document (depth + 2) ((array elements).chars ++ rest)).map
        fun (values, rest) => (.array values, rest) := by
  cases elements <;> rfl

theorem document_object (bindings : List (String × Json)) (rest : List Char) :
    document (depth + 2) ((object bindings).chars ++ rest) =
      (mapOf keyText document (depth + 2) ((object bindings).chars ++ rest)).map
        fun (bindings, rest) => (ofEntries bindings, rest) := by
  cases bindings <;> rfl

theorem reads_integer {n : Int} (sized : IsWordSized n) :
    Reads (document (depth + 1)) (.integer n) (.integer n) := by
  intro rest ends
  obtain ⟨first, others, written, starts⟩ := exists_integerChars n
  have read := number_integerChars sized ends
  rw [written, List.cons_append] at read
  rw [chars, written, List.cons_append, document_of_startsNumber starts, read]
  rfl

/-- A document is read back if the documents in it are. -/
theorem reads_of_parts {document : Json} (within : Within depth document)
    (parts : ∀ less, depth = less + 1 → ∀ part, Within less part →
      Reads (Json.document depth) part part) :
    Reads (Json.document (depth + 1)) document document := by
  cases document with
  | null => exact fun _ _ => rfl
  | bool value => cases value <;> exact fun _ _ => rfl
  | integer n => exact reads_integer (within_integer.mp within)
  | float x => exact absurd within not_within_float
  | string text => exact fun rest _ => document_string text rest
  | array elements =>
      cases depth with
      | zero => exact within.elim
      | succ depth =>
          intro rest ends
          have read := listOf_list (fun element member => opens_of_within (within element member))
            (fun element member => (parts depth rfl element (within element member)).readBy) _
            (list_written elements) rest ends
          rw [document_array, read]
          rfl
  | object entries =>
      cases depth with
      | zero => exact within.elim
      | succ depth =>
          intro rest ends
          obtain ⟨sorted, inside⟩ := within
          have read := mapOf_object (fun key text spelled rest _ => keyText_of_string spelled rest)
            document_blanks
            (fun entry member => (parts depth rfl entry.2 (inside entry member)).readBy) _
            (object_written entries) rest ends
          rw [document_object, read]
          exact congrArg (fun object => Except.ok (object, rest)) (ofEntries_of_sorted sorted)

/-- A document is read back. -/
theorem reads_document {document : Json} (within : Within depth document) :
    Reads (Json.document (depth + 1)) document document := by
  induction depth generalizing document with
  | zero => exact reads_of_parts within nofun
  | succ depth ih =>
      refine reads_of_parts within fun less same part inside => ?_
      cases same
      exact ih inside

end EntryStore.Json
