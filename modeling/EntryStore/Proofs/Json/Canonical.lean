import EntryStore.Proofs.Json.Typed

/-!
# Documents that have been read

What is read from a text is nested no deeper than the reader admits, has sorted objects, and its
integers are of 64 bits.  Where no floating-point number occurs in it, it is therefore read back
from the text that is printed for it: this text is canonical for the document, whatever the text
looked like that it was read from.
-/

namespace EntryStore.Json

variable {α κ : Type} {text rest : List Char} {negative : Bool} {significand : Nat} {depth : Nat}

/-- A floating-point number occurs in a document, at any depth. -/
inductive HasFloat : Json → Prop where
  | float (x : Double) : HasFloat (.float x)
  | element {element : Json} {elements : List Json} :
      element ∈ elements → HasFloat element → HasFloat (.array elements)
  | entry {entry : String × Json} {entries : List (String × Json)} :
      entry ∈ entries → HasFloat entry.2 → HasFloat (.object entries)

theorem Within.not_hasFloat {document : Json} (within : document.Within depth) :
    ¬ document.HasFloat := by
  intro float
  induction float generalizing depth with
  | float x => exact not_within_float within
  | element member _ ih =>
      cases depth with
      | zero => exact within
      | succ depth => exact ih (within _ member)
  | entry member _ ih =>
      cases depth with
      | zero => exact within
      | succ depth => exact ih (within.2 _ member)

/-! ## Numbers -/

/-- What has been read is no integer. -/
def Fractional (outcome : Except Fault (Numeral × List Char)) : Prop :=
  ∀ n rest, outcome ≠ .ok (.integer n, rest)

theorem fractional_error (fault : Fault) : Fractional (.error fault) := nofun

theorem fractional_float (x : Double) (rest : List Char) :
    Fractional (.ok (.float x, rest)) := by
  intro n rest same
  cases same

theorem fractional_floatOfParts (exponent : Int) (rest : List Char) :
    Fractional (floatOfParts negative significand exponent rest) := by
  unfold floatOfParts
  split
  · exact fractional_float _ _
  · exact fractional_error _

theorem fractional_exponentPart (exponent : Int) (text : List Char) :
    Fractional (exponentPart negative significand exponent text) := by
  unfold exponentPart
  simp only
  split
  · exact fractional_error _
  · split
    · exact fractional_error _
    · split
      · exact fractional_floatOfParts _ _
      · split
        · exact fractional_error _
        · exact fractional_float _ _

theorem fractional_exponentOrEnd (exponent : Int) (text : List Char) :
    Fractional (exponentOrEnd negative significand exponent text) := by
  unfold exponentOrEnd
  split
  · exact fractional_exponentPart _ _
  · exact fractional_exponentPart _ _
  · exact fractional_floatOfParts _ _

theorem fractional_fractionPart (exponent : Int) (text : List Char) :
    Fractional (fractionPart negative significand exponent text) := by
  unfold fractionPart
  simp only
  split
  · exact fractional_exponentOrEnd _ _
  · split
    · split
      · exact fractional_error _
      · exact fractional_error _
    · exact fractional_exponentOrEnd _ _

theorem fractional_longInteger (dropped : Nat) (text : List Char) :
    Fractional (longInteger negative significand dropped text) := by
  unfold longInteger
  split
  · exact fractional_fractionPart _ _
  · exact fractional_exponentOrEnd _ _

theorem digit?_lt {c : Char} {digit : Nat} (known : digit? c = some digit) : digit < 10 := by
  unfold digit? at known
  split at known
  · next range =>
      cases known
      have high : c.toNat ≤ '9'.toNat := range.2
      change c.toNat - 48 < 10
      change c.toNat ≤ 57 at high
      omega
  · cases known

theorem significand_appendDigits_le (count : Nat) (text : List Char)
    (small : significand ≤ maxSignificand) :
    (appendDigits significand count text).significand ≤ maxSignificand := by
  induction text generalizing significand count with
  | nil => exact small
  | cons c text ih =>
      rw [appendDigits]
      split
      · exact small
      · split
        · exact small
        · next fits => exact ih _ (Nat.not_lt.mp fits)

theorem isWordSized_of_shortInteger {n : Int} (small : significand ≤ maxSignificand)
    (read : shortInteger negative significand text = .ok (.integer n, rest)) : IsWordSized n := by
  unfold shortInteger at read
  split at read
  · exact absurd read (fractional_fractionPart _ _ _ _)
  · exact absurd read (fractional_exponentPart _ _ _ _)
  · exact absurd read (fractional_exponentPart _ _ _ _)
  · have bound : maxSignificand = 0xFFFFFFFFFFFFFFFF := rfl
    split at read
    · split at read
      · cases read
        constructor <;> omega
      · cases read
    · cases read
      constructor <;> omega

theorem isWordSized_of_unsignedNumber {n : Int}
    (read : unsignedNumber negative text = .ok (.integer n, rest)) : IsWordSized n := by
  unfold unsignedNumber at read
  split at read
  · cases read
  · split at read
    · split at read
      · cases read
      · exact isWordSized_of_shortInteger (Nat.zero_le _) read
    · exact isWordSized_of_shortInteger (Nat.zero_le _) read
  · split at read
    · cases read
    · next digit known =>
        have small : digit ≤ maxSignificand :=
          Nat.le_trans (Nat.le_of_lt (digit?_lt known)) (by decide)
        simp only at read
        split at read
        · exact absurd read (fractional_longInteger _ _ _ _)
        · exact isWordSized_of_shortInteger (significand_appendDigits_le 0 _ small) read

/-- An integer that has been read is one of 64 bits. -/
theorem isWordSized_of_number {n : Int} (read : number text = .ok (.integer n, rest)) :
    IsWordSized n := by
  unfold number at read
  split at read
  · exact isWordSized_of_unsignedNumber read
  · exact isWordSized_of_unsignedNumber read

/-! ## Lists and objects -/

theorem content_of_enclosed {close : List Char → Except Fault (List Char)} {content : Reader α}
    {value : α} (read : enclosed close content text = .ok (value, rest)) :
    ∃ behind, content text = .ok (value, behind) := by
  unfold enclosed at read
  split at read
  · next result behind inside =>
      split at read
      · cases read
        exact ⟨behind, inside⟩
      · cases read
  · split at read <;> cases read

/-- Each element of a list has been read. -/
theorem exists_of_mem_elements {reader : Reader α} {fuel : Nat} {first : Bool} {values : List α}
    (read : elements reader fuel first text = .ok (values, rest)) {value : α}
    (member : value ∈ values) : ∃ source behind, reader source = .ok (value, behind) := by
  induction fuel generalizing first text values rest with
  | zero => cases read
  | succ fuel ih =>
      obtain ⟨⟨follows, source⟩, _, read⟩ := Outcome.bind_eq_ok_iff.mp read
      cases follows with
      | false =>
          cases read
          cases member
      | true =>
          obtain ⟨⟨other, behind⟩, one, read⟩ := Outcome.bind_eq_ok_iff.mp read
          obtain ⟨⟨others, last⟩, later, read⟩ := Outcome.bind_eq_ok_iff.mp read
          cases read
          rcases List.mem_cons.mp member with rfl | member
          · exact ⟨source, behind, one⟩
          · exact ih later member

/-- The value of each entry of an object has been read. -/
theorem exists_of_mem_entries {key : Reader κ} {value : κ → Reader α} {fuel : Nat} {first : Bool}
    {bindings : List (κ × α)} (read : entries key value fuel first text = .ok (bindings, rest))
    {entry : κ × α} (member : entry ∈ bindings) :
    ∃ source behind, value entry.1 source = .ok (entry.2, behind) := by
  induction fuel generalizing first text bindings rest with
  | zero => cases read
  | succ fuel ih =>
      obtain ⟨⟨follows, source⟩, _, read⟩ := Outcome.bind_eq_ok_iff.mp read
      cases follows with
      | false =>
          cases read
          cases member
      | true =>
          obtain ⟨⟨name, named⟩, _, read⟩ := Outcome.bind_eq_ok_iff.mp read
          obtain ⟨opened, _, read⟩ := Outcome.bind_eq_ok_iff.mp read
          obtain ⟨⟨content, behind⟩, one, read⟩ := Outcome.bind_eq_ok_iff.mp read
          obtain ⟨⟨others, last⟩, later, read⟩ := Outcome.bind_eq_ok_iff.mp read
          cases read
          rcases List.mem_cons.mp member with rfl | member
          · exact ⟨opened, behind, one⟩
          · exact ih later member

/-! ## Documents -/

/-- A document that has been read is regular if the documents in it are. -/
theorem within_of_parts {value : Json}
    (read : document (depth + 1) text = .ok (value, rest)) (plain : ¬ value.HasFloat)
    (parts : ∀ less, depth = less + 1 → ∀ source part behind,
      document depth source = .ok (part, behind) → ¬ part.HasFloat → Within less part) :
    Within depth value := by
  rw [document] at read
  split at read
  case h_1 => cases read
  case h_2 =>
    obtain ⟨_, _, read⟩ := Outcome.bind_eq_ok_iff.mp read
    cases read
    cases depth <;> trivial
  case h_3 =>
    obtain ⟨_, _, read⟩ := Outcome.bind_eq_ok_iff.mp read
    cases read
    cases depth <;> trivial
  case h_4 =>
    obtain ⟨_, _, read⟩ := Outcome.bind_eq_ok_iff.mp read
    cases read
    cases depth <;> trivial
  case h_5 =>
    obtain ⟨_, _, read⟩ := Outcome.bind_eq_ok_iff.mp read
    cases read
    cases depth <;> trivial
  case h_6 =>
    cases depth with
    | zero => cases read
    | succ less =>
        obtain ⟨⟨elements, _⟩, enclosed, read⟩ := Outcome.bind_eq_ok_iff.mp read
        cases read
        obtain ⟨_, inside⟩ := content_of_enclosed enclosed
        intro element member
        obtain ⟨source, behind, one⟩ := exists_of_mem_elements inside member
        exact parts less rfl source element behind one fun float => plain (.element member float)
  case h_7 =>
    cases depth with
    | zero => cases read
    | succ less =>
        obtain ⟨⟨bindings, _⟩, enclosed, read⟩ := Outcome.bind_eq_ok_iff.mp read
        cases read
        obtain ⟨_, inside⟩ := content_of_enclosed enclosed
        obtain ⟨sorted, same, before, given⟩ := exists_ofEntries bindings
        rw [same] at plain ⊢
        refine ⟨before, fun entry member => ?_⟩
        obtain ⟨source, behind, one⟩ := exists_of_mem_entries inside (given entry member)
        exact parts less rfl source entry.2 behind one fun float => plain (.entry member float)
  case h_8 =>
    split at read
    · obtain ⟨⟨numeral, _⟩, one, read⟩ := Outcome.bind_eq_ok_iff.mp read
      cases read
      cases numeral with
      | integer n => exact within_integer.mpr (isWordSized_of_number one)
      | float x => exact absurd (.float x) plain
    · cases read

/-- A document that has been read is nested as deep as the reader admits. -/
theorem within_of_document {value : Json}
    (read : document (depth + 1) text = .ok (value, rest)) (plain : ¬ value.HasFloat) :
    Within depth value := by
  induction depth generalizing text value rest with
  | zero => exact within_of_parts read plain nofun
  | succ depth ih =>
      refine within_of_parts read plain fun less same source part behind one float => ?_
      cases same
      exact ih one float

/-- What has been read from a text is read again from the text that is printed for it. -/
theorem parse_print_of_parse {text : String} {value : Json} (read : parse text = .ok value)
    (plain : ¬ value.HasFloat) : parse value.print = .ok value := by
  obtain ⟨⟨result, rest⟩, front, ending⟩ := Outcome.bind_eq_ok_iff.mp read
  have same : result = value := by
    simp only at ending
    split at ending
    · exact Except.ok.inj ending
    · cases ending
  subst same
  exact Kind.json.decode_print result (within_of_document front plain)

end EntryStore.Json
