import EntryStore.Json.Decoder
import EntryStore.Proofs.Json.Number
import EntryStore.Proofs.Json.Strings
import EntryStore.Proofs.Outcome
import Mathlib.Data.List.TakeWhile

/-!
# Texts of JSON values

A value has many texts: blanks may stand between its tokens, and the characters of strings may be
escaped.  A `Spelling` is the set of the texts of a value.  Lists and objects are read as what
they hold if their elements and entries are, in whatever way all of them are spelled.
-/

namespace EntryStore.Json

variable {α κ : Type} {text blank rest : List Char}

/-- Blanks, as they may stand between tokens. -/
def Blanks (text : List Char) : Prop := ∀ c ∈ text, isSpace c = true

/-- The texts of a value. -/
abbrev Spelling := List Char → Prop

namespace Spelling

/-- The texts of a string. -/
def string (content : String) : Spelling := fun text =>
  ∃ body, SpellsChars content.toList body ∧ text = '"' :: (body ++ ['"'])

/-- The texts of a value with blanks in front. -/
def padded (value : Spelling) : Spelling := fun text =>
  ∃ blank body, Blanks blank ∧ value body ∧ text = blank ++ body

/-- The texts of a key and its value, which may have blanks in front. -/
def entry (key : String) (value : Spelling) : Spelling := fun text =>
  ∃ name blank body, string key name ∧ Blanks blank ∧ value body ∧
    text = name ++ (blank ++ ':' :: body)

/-- The texts of the items behind the first one, up to the closing bracket. -/
inductive Later : List Spelling → Spelling where
  | nil {blank : List Char} : Blanks blank → Later [] blank
  | cons {item : Spelling} {items : List Spelling} {before behind text others : List Char} :
      Blanks before → Blanks behind → item text → Later items others →
      Later (item :: items) (before ++ ',' :: (behind ++ (text ++ others)))

/-- The texts of what a pair of brackets encloses. -/
inductive Items : List Spelling → Spelling where
  | nil {blank : List Char} : Blanks blank → Items [] blank
  | cons {item : Spelling} {items : List Spelling} {blank text others : List Char} :
      Blanks blank → item text → Later items others →
        Items (item :: items) (blank ++ (text ++ others))

/-- The texts of a list. -/
def list (elements : List Spelling) : Spelling := fun text =>
  ∃ body, Items elements body ∧ text = '[' :: (body ++ [']'])

/-- The texts of an object with its entries in the given order. -/
def object (entries : List (String × Spelling)) : Spelling := fun text =>
  ∃ body, Items (entries.map fun (key, value) => entry key value.padded) body ∧
    text = '\x7b' :: (body ++ ['\x7d'])

/-- A reader gives a value for all of its texts, where no number continues. -/
def ReadBy (spelling : Spelling) (reader : Reader α) (value : α) : Prop :=
  ∀ text, spelling text → ∀ rest, EndsNumber rest → reader (text ++ rest) = .ok (value, rest)

/-- The texts of a value begin with neither a blank nor a closing bracket. -/
def Opens (spelling : Spelling) : Prop :=
  ∀ text, spelling text → ∃ first others, text = first :: others ∧ isSpace first = false ∧
    first ≠ ']'

end Spelling

open Spelling (Later Items ReadBy Opens)

/-! ## Blanks -/

theorem blanks_nil : Blanks [] := List.forall_mem_nil _

theorem skipSpace_cons {c : Char} (visible : isSpace c = false) :
    skipSpace (c :: rest) = c :: rest := List.dropWhile_cons_of_neg (Bool.eq_false_iff.mp visible)

theorem skipSpace_append (blanks : Blanks blank) (text : List Char) :
    skipSpace (blank ++ text) = skipSpace text := List.dropWhile_append_of_pos blanks

theorem nextElement_blanks (first : Bool) (blanks : Blanks blank) (text : List Char) :
    nextElement first (blank ++ text) = nextElement first text := by
  rw [nextElement, nextElement, skipSpace_append blanks]

theorem nextKey_blanks (first : Bool) (blanks : Blanks blank) (text : List Char) :
    nextKey first (blank ++ text) = nextKey first text := by
  rw [nextKey, nextKey, skipSpace_append blanks]

theorem colon_blanks (blanks : Blanks blank) (text : List Char) :
    colon (blank ++ ':' :: text) = .ok text := by
  rw [colon, skipSpace_append blanks]
  rfl

/-- A reader that skips blanks reads a value behind them. -/
theorem readBy_padded {spelling : Spelling} {reader : Reader α} {value : α}
    (skips : ∀ blank text, Blanks blank → reader (blank ++ text) = reader text)
    (reads : spelling.ReadBy reader value) : spelling.padded.ReadBy reader value := by
  rintro text ⟨blank, body, blanks, spelled, rfl⟩ rest ends
  rw [List.append_assoc, skips blank _ blanks]
  exact reads body spelled rest ends

theorem endsNumber_cons {c : Char} (sign : c ∈ [',', ':', ']', '\x7d']) :
    EndsNumber (c :: rest) := by
  rintro d ⟨⟩
  simp only [List.mem_cons, List.not_mem_nil, or_false] at sign
  rcases sign with rfl | rfl | rfl | rfl
  all_goals decide

theorem endsNumber_blanks (blanks : Blanks blank) (ends : EndsNumber rest) :
    EndsNumber (blank ++ rest) := by
  cases blank with
  | nil => exact ends
  | cons c blank =>
      rintro d ⟨⟩
      have space := blanks c List.mem_cons_self
      simp only [isSpace, Bool.or_eq_true, beq_iff_eq] at space
      rcases space with ((rfl | rfl) | rfl) | rfl <;> decide

/-- A reader whose results are changed reads the same texts. -/
theorem Spelling.ReadBy.map {β : Type} {spelling : Spelling} {reader : Reader α} {value : α}
    (reads : spelling.ReadBy reader value) (finish : α → β) :
    spelling.ReadBy (fun text => do
      let (value, rest) ← reader text
      return (finish value, rest)) (finish value) := by
  intro text spelled rest ends
  simp only [reads text spelled rest ends]
  rfl

/-- Where an item ends, no number continues. -/
theorem endsNumber_later {items : List Spelling} (later : Later items text)
    (ends : EndsNumber rest) : EndsNumber (text ++ rest) := by
  cases later with
  | nil blanks => exact endsNumber_blanks blanks ends
  | cons before behind spelled others =>
      rw [List.append_assoc]
      exact endsNumber_blanks before (endsNumber_cons (by decide))

theorem length_le_of_later {items : List Spelling} (later : Later items text) :
    items.length ≤ text.length := by
  induction later with
  | nil => exact Nat.zero_le _
  | cons _ _ _ _ ih =>
      simp only [List.length_append, List.length_cons]
      omega

theorem length_le_of_items {items : List Spelling} (spelled : Items items text) :
    items.length ≤ text.length + 1 := by
  cases spelled with
  | nil => exact Nat.zero_le _
  | cons _ _ later =>
      have others := length_le_of_later later
      simp only [List.length_append, List.length_cons]
      omega

/-! ## Strings -/

theorem keyText_of_string {key : String} (spelled : Spelling.string key text) (rest : List Char) :
    keyText (text ++ rest) = .ok (key, rest) := by
  obtain ⟨body, chars, rfl⟩ := spelled
  have body := stringBody_of_spellsChars chars rest
  rw [List.cons_append, List.append_assoc]
  exact body

theorem opens_string (content : String) : (Spelling.string content).Opens := by
  rintro text ⟨body, _, rfl⟩
  exact ⟨'"', _, rfl, rfl, by decide⟩

theorem stringFor_string (expected content : String) :
    (Spelling.string content).ReadBy (stringFor expected) content := by
  rintro text ⟨body, chars, rfl⟩ rest _
  have body := stringBody_of_spellsChars chars rest
  rw [List.cons_append, List.append_assoc]
  exact body

theorem stringFor_blanks (expected : String) (blank text : List Char) (blanks : Blanks blank) :
    stringFor expected (blank ++ text) = stringFor expected text := by
  rw [stringFor, stringFor, skipSpace_append blanks]

/-! ## Lists -/

theorem nextElement_first {item : Spelling} (opens : item.Opens) (spelled : item text)
    (rest : List Char) : nextElement true (text ++ rest) = .ok (true, text ++ rest) := by
  obtain ⟨first, others, rfl, visible, bracket⟩ := opens text spelled
  rw [List.cons_append, nextElement, skipSpace_cons visible]
  split
  case h_1 same => cases same
  case h_2 same => exact absurd (List.cons.inj same).1 bracket
  case h_3 same => rw [same]; rfl
  case h_4 => rfl

theorem nextElement_later {item : Spelling} (opens : item.Opens) (spelled : item text)
    {before behind : List Char} (blanks : Blanks before) (blanks' : Blanks behind)
    (rest : List Char) :
    nextElement false (before ++ ',' :: (behind ++ (text ++ rest))) =
      .ok (true, text ++ rest) := by
  obtain ⟨first, others, rfl, visible, bracket⟩ := opens text spelled
  have comma : skipSpace (',' :: (behind ++ (first :: others ++ rest))) =
      ',' :: (behind ++ (first :: others ++ rest)) := skipSpace_cons rfl
  rw [nextElement_blanks false blanks, nextElement, comma]
  simp only [Bool.false_eq_true, if_false, skipSpace_append blanks', List.cons_append,
    skipSpace_cons visible]
  split
  case h_1 same => cases same
  case h_2 same => exact absurd (List.cons.inj same).1 bracket
  case h_3 => rfl

section Lists

variable {reader : Reader α} {form : α → Spelling} {values : List α}

/-- The elements after the first are read. -/
theorem elements_later (opens : ∀ value ∈ values, (form value).Opens)
    (reads : ∀ value ∈ values, (form value).ReadBy reader value)
    (spelled : Later (values.map form) text) (rest : List Char) {fuel : Nat}
    (enough : values.length < fuel) :
    elements reader fuel false (text ++ ']' :: rest) = .ok (values, ']' :: rest) := by
  induction values generalizing text fuel with
  | nil =>
      obtain ⟨fuel, rfl⟩ := Nat.exists_eq_add_one_of_ne_zero (Nat.ne_zero_of_lt enough)
      cases spelled with
      | nil blanks =>
          rw [elements, nextElement_blanks false blanks]
          rfl
  | cons value values ih =>
      obtain ⟨fuel, rfl⟩ := Nat.exists_eq_add_one_of_ne_zero (Nat.ne_zero_of_lt enough)
      cases spelled with
      | cons before behind spelled later =>
          have first := reads value List.mem_cons_self _ spelled (_ ++ ']' :: rest)
            (endsNumber_later later (endsNumber_cons (by decide)))
          have others := ih (fun other member => opens other (List.mem_cons_of_mem _ member))
            (fun other member => reads other (List.mem_cons_of_mem _ member)) later
            (Nat.lt_of_succ_lt_succ enough)
          simp only [List.append_assoc, List.cons_append]
          rw [elements, nextElement_later (opens value List.mem_cons_self) spelled before behind]
          simp only [bind, Except.bind, first, others]
          rfl

/-- What stands between the brackets of a list is read, and its closing bracket. -/
theorem enclosed_elements (opens : ∀ value ∈ values, (form value).Opens)
    (reads : ∀ value ∈ values, (form value).ReadBy reader value) {body : List Char}
    (spelled : Items (values.map form) body) (rest : List Char) :
    enclosed closeList (elements reader ((body ++ ']' :: rest).length + 1) true)
      (body ++ ']' :: rest) = .ok (values, rest) := by
  have enough : values.length < (body ++ ']' :: rest).length + 1 := by
    have short := length_le_of_items spelled
    rw [List.length_map] at short
    rw [List.length_append, List.length_cons]
    omega
  have inside : elements reader ((body ++ ']' :: rest).length + 1) true (body ++ ']' :: rest) =
      .ok (values, ']' :: rest) := by
    cases values with
    | nil =>
        cases spelled with
        | nil blanks =>
            rw [elements, nextElement_blanks true blanks]
            rfl
    | cons value values =>
        cases spelled with
        | cons blanks spelled later =>
            have first := reads value List.mem_cons_self _ spelled (_ ++ ']' :: rest)
              (endsNumber_later later (endsNumber_cons (by decide)))
            have others := elements_later
              (fun other member => opens other (List.mem_cons_of_mem _ member))
              (fun other member => reads other (List.mem_cons_of_mem _ member)) later rest
              (Nat.lt_of_succ_lt_succ enough)
            rw [elements]
            simp only [List.append_assoc, nextElement_blanks true blanks,
              nextElement_first (opens value List.mem_cons_self) spelled] at others ⊢
            simp only [bind, Except.bind, first, others]
            rfl
  rw [enclosed, inside]
  rfl

/-- A list is read if its elements are. -/
theorem listOf_list {element : Nat → Reader α} {depth : Nat}
    (opens : ∀ value ∈ values, (form value).Opens)
    (reads : ∀ value ∈ values, (form value).ReadBy (element (depth + 1)) value) :
    (Spelling.list (values.map form)).ReadBy (listOf element (depth + 2)) values := by
  rintro text ⟨body, spelled, rfl⟩ rest _
  rw [List.cons_append, List.append_assoc]
  exact enclosed_elements opens reads spelled rest

end Lists

theorem listOf_blanks {element : Nat → Reader α} {depth : Nat} (blank text : List Char)
    (blanks : Blanks blank) : listOf element depth (blank ++ text) = listOf element depth text := by
  rw [listOf, listOf, skipSpace_append blanks]

/-! ## Objects -/

theorem nextKey_first {key : String} {value : Spelling} (spelled : Spelling.entry key value text)
    (rest : List Char) : nextKey true (text ++ rest) = .ok (true, text ++ rest) := by
  obtain ⟨name, blank, body, ⟨chars, _, rfl⟩, _, _, rfl⟩ := spelled
  rfl

theorem nextKey_later {key : String} {value : Spelling} (spelled : Spelling.entry key value text)
    {before behind : List Char} (blanks : Blanks before) (blanks' : Blanks behind)
    (rest : List Char) :
    nextKey false (before ++ ',' :: (behind ++ (text ++ rest))) = .ok (true, text ++ rest) := by
  obtain ⟨name, blank, body, ⟨chars, _, rfl⟩, _, _, rfl⟩ := spelled
  have comma : ∀ text, skipSpace (',' :: text) = ',' :: text := fun text => skipSpace_cons rfl
  rw [nextKey_blanks false blanks, nextKey, comma]
  simp only [Bool.false_eq_true, if_false, skipSpace_append blanks']
  rfl

section Objects

variable {key : Reader κ} {value : κ → Reader α} {name : κ → String} {form : α → Spelling}
  {bindings : List (κ × α)}

/-- One entry is read, and what follows it. -/
theorem entries_entry (keys : ∀ k, (Spelling.string (name k)).ReadBy key k) {k : κ} {content : α}
    (reads : (form content).ReadBy (value k) content)
    (spelled : Spelling.entry (name k) (form content) text) {later : List Char}
    (ends : EndsNumber later) {first : Bool} {source : List Char}
    (next : nextKey first source = .ok (true, text ++ later)) {fuel : Nat}
    (others : entries key value fuel false later = .ok (bindings, rest)) :
    entries key value (fuel + 1) first source = .ok ((k, content) :: bindings, rest) := by
  obtain ⟨written, blank, body, named, blanks, spelled, rfl⟩ := spelled
  rw [List.append_assoc, List.append_assoc, List.cons_append] at next
  have colonEnds : EndsNumber (blank ++ ':' :: (body ++ later)) :=
    endsNumber_blanks blanks (endsNumber_cons (by decide))
  have keyRead := keys k written named _ colonEnds
  have contentRead := reads body spelled later ends
  rw [entries, next]
  simp only [bind, Except.bind, keyRead, colon_blanks blanks, contentRead, others]
  rfl

/-- The entries after the first are read. -/
theorem entries_later (keys : ∀ k, (Spelling.string (name k)).ReadBy key k)
    (reads : ∀ entry ∈ bindings, (form entry.2).ReadBy (value entry.1) entry.2)
    (spelled : Later (bindings.map fun entry => Spelling.entry (name entry.1) (form entry.2)) text)
    (rest : List Char) {fuel : Nat} (enough : bindings.length < fuel) :
    entries key value fuel false (text ++ '\x7d' :: rest) = .ok (bindings, '\x7d' :: rest) := by
  induction bindings generalizing text fuel with
  | nil =>
      obtain ⟨fuel, rfl⟩ := Nat.exists_eq_add_one_of_ne_zero (Nat.ne_zero_of_lt enough)
      cases spelled with
      | nil blanks =>
          rw [entries, nextKey_blanks false blanks]
          rfl
  | cons entry bindings ih =>
      obtain ⟨fuel, rfl⟩ := Nat.exists_eq_add_one_of_ne_zero (Nat.ne_zero_of_lt enough)
      cases spelled with
      | cons before behind spelled later =>
          have others := ih (fun other member => reads other (List.mem_cons_of_mem _ member)) later
            (Nat.lt_of_succ_lt_succ enough)
          simp only [List.append_assoc, List.cons_append]
          exact entries_entry keys (reads entry List.mem_cons_self) spelled
            (endsNumber_later later (endsNumber_cons (by decide)))
            (nextKey_later spelled before behind _) others

/-- What stands between the braces of an object is read, and its closing brace. -/
theorem enclosed_entries (keys : ∀ k, (Spelling.string (name k)).ReadBy key k)
    (reads : ∀ entry ∈ bindings, (form entry.2).ReadBy (value entry.1) entry.2)
    {body : List Char}
    (spelled : Items (bindings.map fun entry => Spelling.entry (name entry.1) (form entry.2)) body)
    (rest : List Char) :
    enclosed closeObject (entries key value ((body ++ '\x7d' :: rest).length + 1) true)
      (body ++ '\x7d' :: rest) = .ok (bindings, rest) := by
  have enough : bindings.length < (body ++ '\x7d' :: rest).length + 1 := by
    have short := length_le_of_items spelled
    rw [List.length_map] at short
    rw [List.length_append, List.length_cons]
    omega
  have inside : entries key value ((body ++ '\x7d' :: rest).length + 1) true
      (body ++ '\x7d' :: rest) = .ok (bindings, '\x7d' :: rest) := by
    cases bindings with
    | nil =>
        cases spelled with
        | nil blanks =>
            rw [entries, nextKey_blanks true blanks]
            rfl
    | cons entry bindings =>
        cases spelled with
        | cons blanks spelled later =>
            have others := entries_later keys
              (fun other member => reads other (List.mem_cons_of_mem _ member)) later rest
              (Nat.lt_of_succ_lt_succ enough)
            refine entries_entry keys (reads entry List.mem_cons_self) spelled
              (endsNumber_later later (endsNumber_cons (by decide))) ?_ others
            rw [List.append_assoc, List.append_assoc, nextKey_blanks true blanks]
            exact nextKey_first spelled _
  rw [enclosed, inside]
  rfl

/-- An object is read as the list of its entries if its keys and values are read. -/
theorem mapOf_object {element : Nat → Reader α} {depth : Nat}
    (keys : ∀ k, (Spelling.string (name k)).ReadBy key k)
    (skips : ∀ blank text, Blanks blank →
      element (depth + 1) (blank ++ text) = element (depth + 1) text)
    (reads : ∀ entry ∈ bindings, (form entry.2).ReadBy (element (depth + 1)) entry.2) :
    (Spelling.object (bindings.map fun entry => (name entry.1, form entry.2))).ReadBy
      (mapOf key element (depth + 2)) bindings := by
  rintro text ⟨body, spelled, rfl⟩ rest _
  rw [List.map_map] at spelled
  rw [List.cons_append, List.append_assoc]
  exact @enclosed_entries _ _ key _ name (fun content => (form content).padded) bindings keys
    (fun entry member => readBy_padded skips (reads entry member)) body spelled rest

end Objects

theorem mapOf_blanks {key : Reader κ} {element : Nat → Reader α} {depth : Nat}
    (blank text : List Char) (blanks : Blanks blank) :
    mapOf key element depth (blank ++ text) = mapOf key element depth text := by
  rw [mapOf, mapOf, skipSpace_append blanks]

/-! ## Records -/

namespace RecordReader

variable {σ : Type} {record : RecordReader σ α} {depth : Nat}

/-- Entries whose values, one after the other, take the state of a record to another one. -/
inductive Fills (record : RecordReader σ α) (depth : Nat) : σ → List (String × Spelling) → σ → Prop
    where
  | nil {state : σ} : Fills record depth state [] state
  | cons {state after : σ} {name : String} {field : FieldReader σ} {value : Spelling}
      {update : σ → σ} {others : List (String × Spelling)} :
      record.fields.find? (·.name == name) = some field → field.bound state = false →
      value.padded.ReadBy (field.read depth) update →
        Fills record depth (update state) others after →
      Fills record depth state ((name, value) :: others) after

/-- One entry is put into the state. -/
theorem named_entry {field : FieldReader σ} {name : String} {value : Spelling} {update : σ → σ}
    {state : σ} (found : record.fields.find? (·.name == name) = some field)
    (free : field.bound state = false) (reads : value.ReadBy (field.read depth) update)
    (spelled : Spelling.entry name value text) (ends : EndsNumber rest) {first : Bool}
    {source : List Char} (next : nextKey first source = .ok (true, text ++ rest)) (fuel : Nat) :
    record.named depth (fuel + 1) first state source =
      record.named depth fuel false (update state) rest := by
  obtain ⟨written, blank, body, named, blanks, spelled, rfl⟩ := spelled
  rw [List.append_assoc, List.append_assoc, List.cons_append] at next
  rw [RecordReader.named, next]
  simp only [bind, Except.bind, keyText_of_string named, found, free, Bool.false_eq_true,
    if_false, colon_blanks blanks, reads body spelled rest ends]

/-- The entries after the first are put into the state. -/
theorem named_later {entries : List (String × Spelling)} {state after : σ}
    (fills : record.Fills depth state entries after)
    (spelled : Later (entries.map fun (key, value) => Spelling.entry key value.padded) text)
    (rest : List Char) {fuel : Nat} (enough : entries.length < fuel) :
    record.named depth fuel false state (text ++ '\x7d' :: rest) = .ok (after, '\x7d' :: rest) := by
  induction fills generalizing text fuel with
  | nil =>
      obtain ⟨fuel, rfl⟩ := Nat.exists_eq_add_one_of_ne_zero (Nat.ne_zero_of_lt enough)
      cases spelled with
      | nil blanks =>
          rw [named, nextKey_blanks false blanks]
          rfl
  | cons found free reads fills ih =>
      obtain ⟨fuel, rfl⟩ := Nat.exists_eq_add_one_of_ne_zero (Nat.ne_zero_of_lt enough)
      cases spelled with
      | cons before behind spelled later =>
          simp only [List.append_assoc, List.cons_append]
          rw [named_entry found free reads spelled (endsNumber_later later
            (endsNumber_cons (by decide))) (nextKey_later spelled before behind _)]
          exact ih later (Nat.lt_of_succ_lt_succ enough)

/-- A record is read from an object of entries that fill its state. -/
theorem read_object {entries : List (String × Spelling)} {state : σ} {value : α}
    (fills : record.Fills (depth + 1) record.empty entries state)
    (complete : record.finish state = .ok value) :
    (Spelling.object entries).ReadBy (record.read (depth + 2)) value := by
  rintro text ⟨body, spelled, rfl⟩ rest _
  have enough : entries.length < (body ++ '\x7d' :: rest).length + 1 := by
    have short := length_le_of_items spelled
    rw [List.length_map] at short
    rw [List.length_append, List.length_cons]
    omega
  have inside : record.named (depth + 1) ((body ++ '\x7d' :: rest).length + 1) true record.empty
      (body ++ '\x7d' :: rest) = .ok (state, '\x7d' :: rest) := by
    cases fills with
    | nil =>
        cases spelled with
        | nil blanks =>
            rw [named, nextKey_blanks true blanks]
            rfl
    | cons found free reads fills =>
        cases spelled with
        | cons blanks spelled later =>
            refine (named_entry found free reads spelled
              (endsNumber_later later (endsNumber_cons (by decide))) ?_ _).trans
              (named_later fills later rest (Nat.lt_of_succ_lt_succ enough))
            rw [List.append_assoc, List.append_assoc, nextKey_blanks true blanks]
            exact nextKey_first spelled _
  rw [List.cons_append, List.append_assoc]
  change enclosed closeObject (record.complete (record.named (depth + 1)
    ((body ++ '\x7d' :: rest).length + 1) true record.empty)) (body ++ '\x7d' :: rest) = _
  simp only [enclosed, RecordReader.complete, inside, bind, Except.bind, complete]
  rfl

theorem read_blanks (blank text : List Char) (blanks : Blanks blank) :
    record.read depth (blank ++ text) = record.read depth text := by
  rw [RecordReader.read, RecordReader.read, skipSpace_append blanks]

end RecordReader

/-! ## Whole texts -/

/-- A text holds one value, in some spelling, with blanks around it. -/
def Holds (spelling : Spelling) (text : String) : Prop :=
  ∃ before body behind, Blanks before ∧ spelling body ∧ Blanks behind ∧
    text.toList = before ++ (body ++ behind)

section Decoder

variable {decoder : Decoder α} {spelling : Spelling} {value : α}
variable (skips : ∀ blank text, Blanks blank →
    decoder.read depthLimit (blank ++ text) = decoder.read depthLimit text)
  (reads : spelling.ReadBy (decoder.read depthLimit) value)
include skips reads

/-- A value is read off a text that holds it, and blanks are left. -/
theorem read_of_holds {text : String} (holds : Holds spelling text) :
    ∃ behind, decoder.read depthLimit text.toList = .ok (value, behind) ∧
      skipSpace behind = [] := by
  obtain ⟨before, body, behind, blanks, spelled, blanks', written⟩ := holds
  refine ⟨behind, ?_, ?_⟩
  · have ends := endsNumber_blanks blanks' endsNumber_nil
    rw [List.append_nil] at ends
    rw [written, skips before _ blanks]
    exact reads body spelled behind ends
  · have skipped := skipSpace_append blanks' []
    rwa [List.append_nil] at skipped

/-- A value is decoded from a text that holds it. -/
theorem decode_of_holds {text : String} (holds : Holds spelling text) :
    decoder.decode text = .ok value := by
  obtain ⟨behind, read, nothing⟩ := read_of_holds skips reads holds
  simp only [Decoder.decode, readAll, read, Outcome.ok_bind, nothing]
  rfl

/-- A value that a rule may refuse is read off a text that holds it, and is reported in the words
of the rule. -/
theorem decode_filterMap {β : Type} (accept : α → Except String β) {text : String}
    (holds : Holds spelling text) :
    ((decoder.filterMap accept).decode text).mapError (fun fault => fault.report text) =
      accept value := by
  obtain ⟨behind, read, nothing⟩ := read_of_holds skips reads holds
  cases accepted : accept value with
  | ok result =>
      simp only [Decoder.decode, readAll, Decoder.filterMap, read, bind, Except.bind, accepted,
        pure, Except.pure, nothing]
      rfl
  | error reason =>
      simp only [Decoder.decode, readAll, Decoder.filterMap, read, bind, Except.bind, accepted]
      rfl

end Decoder

/-! ## Texts that are no string -/

theorem mismatch_ne_ok {α : Type} (expected : String) (text : List Char) (value : α) :
    mismatch expected text ≠ .ok value := by
  intro read
  unfold mismatch at read
  simp only at read
  split at read
  · cases read
  · obtain ⟨_, _, read⟩ := Outcome.bind_eq_ok_iff.mp read
    cases read
  · obtain ⟨_, _, read⟩ := Outcome.bind_eq_ok_iff.mp read
    cases read
  · obtain ⟨_, _, read⟩ := Outcome.bind_eq_ok_iff.mp read
    cases read
  · obtain ⟨_, _, read⟩ := Outcome.bind_eq_ok_iff.mp read
    cases read
  · cases read
  · cases read
  · split at read
    · obtain ⟨_, _, read⟩ := Outcome.bind_eq_ok_iff.mp read
      cases read
    · cases read

/-- A string is decoded from the texts that hold it, and from no others. -/
theorem decode_string_iff {text content : String} :
    Decoder.string.decode text = .ok content ↔ Holds (.string content) text := by
  constructor
  · intro decoded
    obtain ⟨⟨value, behind⟩, read, decoded⟩ := Outcome.bind_eq_ok_iff.mp decoded
    simp only at decoded
    split at decoded
    · next nothing =>
        cases decoded
        let before := text.toList.takeWhile isSpace
        have blanks : Blanks before := fun c member => List.mem_takeWhile_imp member
        have split : text.toList = before ++ skipSpace text.toList :=
          List.takeWhile_append_dropWhile.symm
        change stringFor _ _ = _ at read
        unfold stringFor at read
        split at read
        · next opened quoted =>
            obtain ⟨body, rfl, spelled⟩ := spellsChars_of_stringBody read
            refine ⟨before, _, behind, blanks, ⟨body, spelled, rfl⟩,
              List.dropWhile_eq_nil_iff.mp nothing, ?_⟩
            rw [List.cons_append, List.append_assoc, List.singleton_append, ← quoted]
            exact split
        · exact absurd read (mismatch_ne_ok _ _ _)
    · cases decoded
  · intro holds
    exact decode_of_holds (stringFor_blanks _) (stringFor_string _ content) holds

/-- A text that holds a string begins with a quote, behind blanks. -/
theorem head?_of_holds_string {text content : String} (holds : Holds (.string content) text) :
    (skipSpace text.toList).head? = some '"' := by
  obtain ⟨before, _, behind, blanks, ⟨body, _, rfl⟩, _, written⟩ := holds
  rw [written, skipSpace_append blanks, List.cons_append, skipSpace_cons rfl, List.head?_cons]

/-- A text that holds a string is longer than the string. -/
theorem length_lt_of_holds_string {text content : String} (holds : Holds (.string content) text) :
    content.length < text.length := by
  obtain ⟨before, _, behind, _, ⟨body, spelled, rfl⟩, _, written⟩ := holds
  have short := length_le_of_spellsChars spelled
  rw [← String.length_toList, ← String.length_toList, written]
  simp only [List.length_append, List.length_cons]
  omega

end EntryStore.Json
