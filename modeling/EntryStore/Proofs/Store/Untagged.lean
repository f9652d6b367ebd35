import EntryStore.Proofs.Json.Canonical
import EntryStore.Proofs.Store.Stored

/-!
# Values read by the form of their document

Strings, truth values and integers of 64 bits have kinds of their own, and `json` is left for
documents of other forms.  A value in which no floating-point number occurs is the value of one
document, so that the texts that are printed, stored and shown for it agree, and each of them is
read as the value again.  Of a text value this holds for the printed text alone: it is stored and
shown without its quotes.
-/

namespace EntryStore

open Sql (Connection)
open Regex (matcher?)

namespace Value

variable {text : String} {value : Value} {document : Json}

/-- The integers that have a kind of their own are those of 64 bits. -/
theorem ofJson_integer {n : Int} (plain : ¬ (ofJson (.integer n)).toJson.HasFloat) :
    ofJson (.integer n) = .integer (Int64.ofInt n) ∧ (Int64.ofInt n).toInt = n := by
  have least : Int64.minValue.toInt = -2 ^ 63 := rfl
  have greatest : Int64.maxValue.toInt = 2 ^ 63 - 1 := rfl
  by_cases range : Int64.minValue.toInt ≤ n ∧ n ≤ Int64.maxValue.toInt
  · refine ⟨if_pos range, Int64.toInt_ofInt_of_le ?_ ?_⟩ <;> omega
  · have float : ofJson (.integer n) = .float (Double.ofInt n) := if_neg range
    rw [float] at plain
    exact absurd (.float _) plain

/-- The document of a value without floating-point numbers is the one that the value stands for. -/
theorem toJson_ofJson (plain : ¬ (ofJson document).toJson.HasFloat) :
    (ofJson document).toJson = document := by
  cases document with
  | integer n =>
      obtain ⟨same, number⟩ := ofJson_integer plain
      rw [same]
      exact congrArg Json.integer number
  | _ => rfl

/-- The kind `json` is left for `null`, lists and objects. -/
theorem kind_ofJson (plain : ¬ (ofJson document).toJson.HasFloat) :
    (ofJson document).kind = "json" ↔
      document = .null ∨ (∃ elements, document = .array elements) ∨
        ∃ entries, document = .object entries := by
  cases document with
  | integer n =>
      rw [(ofJson_integer plain).1]
      simp [kind]
  | _ => simp [kind, ofJson]

/-- Only texts are stored without quotes. -/
theorem parameter_eq_print (untexted : ∀ content, value ≠ .text content) :
    value.parameter = value.toJson.print := by
  cases value with
  | text content => exact absurd rfl (untexted content)
  | _ => rfl

/-- Only floating-point numbers are shown otherwise than they are stored. -/
theorem display_eq_parameter (plain : ¬ value.toJson.HasFloat) :
    value.display = value.parameter := by
  cases value with
  | float x => exact absurd (.float x) plain
  | _ => rfl

/-- A value is read from a text if it is the one that the document of the text stands for. -/
theorem decode_eq_ok_iff :
    decoder.decode text = .ok value ↔
      ∃ document, Json.parse text = .ok document ∧ ofJson document = value := by
  have same : decoder.decode text = (Json.parse text).map ofJson := by
    unfold Json.parse Json.Decoder.decode Json.readAll
    change (Json.document Json.depthLimit text.toList >>= fun read =>
      pure (ofJson read.1, read.2)) >>= _ = _
    cases Json.document Json.depthLimit text.toList with
    | error fault => rfl
    | ok read =>
        simp only [bind, Except.bind, pure, Except.pure]
        split <;> rfl
  rw [same, Outcome.map_eq_ok_iff]

/-- A value without floating-point numbers that has been read is read again from the text that is
printed for it. -/
theorem decode_print_of_decode (decoded : decoder.decode text = .ok value)
    (plain : ¬ value.toJson.HasFloat) : decoder.decode value.toJson.print = .ok value := by
  obtain ⟨document, read, rfl⟩ := decode_eq_ok_iff.mp decoded
  have same := toJson_ofJson plain
  rw [same] at plain ⊢
  exact decode_eq_ok_iff.mpr ⟨document, Json.parse_print_of_parse read plain, rfl⟩

/-- A value without floating-point numbers that has been read from a text is read again from the
text that is printed for it, is of kind `json` for `null`, lists and objects only, and is shown as
it is stored.  A text is stored as its content, the string that was read; any other value as the
printed text, so that whoever reads this text under a pair reads the value, as does a store in
which the value has been stored. -/
theorem untagged_canonical (decoded : decoder.decode text = .ok value)
    (plain : ¬ value.toJson.HasFloat) :
    decoder.decode value.toJson.print = .ok value ∧
      (value.kind = "json" ↔ value.toJson = .null ∨
        (∃ elements, value.toJson = .array elements) ∨ ∃ entries, value.toJson = .object entries) ∧
      value.display = value.parameter ∧
      (∀ content, value = .text content →
        Json.parse text = .ok (.string content) ∧ value.parameter = content) ∧
      ((∀ content, value ≠ .text content) →
        value.parameter = value.toJson.print ∧
        (∀ {σ : Type} (executor : Executor σ) (store : Store) (owner key : String)
            (state after : σ),
          (store.getString owner key).run executor state = (.ok (some value.parameter), after) →
          (store.getValue decoder owner key).run executor state = (.ok (some value), after)) ∧
        Store.Recalls value (fun store => store.getValue decoder) (.ok (some value))) := by
  have again := decode_print_of_decode decoded plain
  obtain ⟨document, read, rfl⟩ := decode_eq_ok_iff.mp decoded
  have same := toJson_ofJson plain
  refine ⟨again, ?_, display_eq_parameter plain, ?_, fun untexted => ?_⟩
  · rw [same]
    exact kind_ofJson plain
  · intro content texted
    refine ⟨?_, by rw [texted]; rfl⟩
    rw [read, ← same, texted]
    rfl
  · have stored := parameter_eq_print untexted
    have recalled :
        Store.decodeStored decoder (ofJson document).parameter = .ok (ofJson document) :=
      Store.decodeStored_of_decode (stored ▸ again)
    refine ⟨stored, ?_, Store.recalls_of_decodeStored recalled⟩
    intro σ executor store owner key state after shown
    rw [Store.run_getValue_of_text shown, recalled]
    rfl

/-- A text with blanks, in which a floating-point number is replaced later. -/
def replacedFloat : String :=
  " \x7b\"b\":1.5,\"b\" : [-1,\x7b\"a\":\"x\"\x7d],\"\":18446744073709551615\x7d\n"

/-- The document of `replacedFloat`. -/
def replacedFloatDocument : Json :=
  .object [("", .integer 18446744073709551615),
    ("b", .array [.integer (-1), .object [("a", .string "x")]])]

theorem untagged_canonical_sample :
    decoder.decode replacedFloat = .ok (.json replacedFloatDocument) ∧
      decoder.decode replacedFloatDocument.print = .ok (.json replacedFloatDocument) ∧
      (Store.storeSample (.json replacedFloatDocument)).1 = .ok () ∧
      ((Store.mk Mapping.sample).getValue decoder "u1" "k1").run (Connection.executor matcher?)
          (Store.storeSample (.json replacedFloatDocument)).2 =
        (.ok (some (.json replacedFloatDocument)),
          (Store.storeSample (.json replacedFloatDocument)).2) := by
  have decoded : decoder.decode replacedFloat = .ok (.json replacedFloatDocument) := rfl
  have plain : ¬ replacedFloatDocument.HasFloat :=
    Json.Within.not_hasFloat (by decide : replacedFloatDocument.Within 3)
  have stored : (Store.storeSample (.json replacedFloatDocument)).1 = .ok () := by
    decide +kernel
  obtain ⟨again, _, _, _, untexted⟩ := untagged_canonical decoded plain
  obtain ⟨_, _, recalls⟩ := untexted nofun
  exact ⟨decoded, again, stored, recalls.on_sample stored⟩

end Value

end EntryStore
