import EntryStore.Proofs.Json.Float
import EntryStore.Proofs.Store.Stored

/-!
# Numbers and truth values recalled

An integer or a truth value that has been stored is recalled as it is, and of a finite double some
double is recalled.  The infinities and NaN have no JSON text: they are stored as `null`, which is
no double to a reader.
-/

namespace EntryStore.Store

open Json (Decoder)
open Sql (Connection)
open Regex (matcher?)

/-- What is reported where a double is asked for and `null` is stored. -/
def nullForDouble : Error :=
  .deserialization "invalid type: null, expected f64 at line 1 column 4"

theorem parameter_float (x : Double) : (Value.float x).parameter = x.toJsonText :=
  String.ofList_toList

theorem decodeStored_float {x : Double} (finite : x.isFinite = true) :
    ∃ y, decodeStored .double (Value.float x).parameter = .ok y := by
  obtain ⟨y, decoded⟩ := Json.exists_decode_toJsonText finite
  exact ⟨y, decodeStored_of_decode (parameter_float x ▸ decoded)⟩

theorem decodeStored_notFinite {x : Double} (special : x.isFinite = false) :
    decodeStored .double (Value.float x).parameter = .error nullForDouble := by
  have text : x.toJsonText = "null" := by
    unfold Double.toJsonText
    rw [special]
    rfl
  rw [parameter_float, text]
  rfl

/-- Integers, truth values and finite doubles that are stored are recalled, and the former two as
they are; any other double is stored, but not recalled. -/
theorem numbers_recalled (n : Int64) (truth : Bool) (x : Double) :
    Recalls (.integer n) getInt64 (.ok (some n)) ∧
      Recalls (.bool truth) getBool (.ok (some truth)) ∧
      (x.isFinite = true → ∃ y, Recalls (.float x) getDouble (.ok (some y))) ∧
      (x.isFinite = false → Recalls (.float x) getDouble (.error nullForDouble)) := by
  refine ⟨?_, ?_, fun finite => ?_, fun special => ?_⟩
  · have decoded : Decoder.int64.decode (Value.integer n).parameter = .ok n :=
      Json.decode_print_of_reads (Json.reads_int64 n)
    exact recalls_of_decodeStored (decodeStored_of_decode decoded)
  · have decoded : Decoder.bool.decode (Value.bool truth).parameter = .ok truth :=
      Json.decode_print_of_reads (Json.reads_bool truth)
    exact recalls_of_decodeStored (decodeStored_of_decode decoded)
  · obtain ⟨y, decoded⟩ := decodeStored_float finite
    exact ⟨y, recalls_of_decodeStored decoded⟩
  · exact recalls_of_decodeStored (decodeStored_notFinite special)

theorem numbers_recalled_sample :
    ((storeSample (.integer (-7))).1 = .ok () ∧
      ((Store.mk Mapping.sample).getInt64 "u1" "k1").run (Connection.executor matcher?)
        (storeSample (.integer (-7))).2 = (.ok (some (-7)), (storeSample (.integer (-7))).2)) ∧
    ((storeSample (.bool true)).1 = .ok () ∧
      ((Store.mk Mapping.sample).getBool "u1" "k1").run (Connection.executor matcher?)
        (storeSample (.bool true)).2 = (.ok (some true), (storeSample (.bool true)).2)) ∧
    ((storeSample (.float ⟨0x7FEFFFFFFFFFFFFF⟩)).1 = .ok () ∧
      ∃ y, ((Store.mk Mapping.sample).getDouble "u1" "k1").run (Connection.executor matcher?)
        (storeSample (.float ⟨0x7FEFFFFFFFFFFFFF⟩)).2 =
          (.ok (some y), (storeSample (.float ⟨0x7FEFFFFFFFFFFFFF⟩)).2)) ∧
    ((storeSample (.float ⟨0xFFF0000000000000⟩)).1 = .ok () ∧
      ((Store.mk Mapping.sample).getDouble "u1" "k1").run (Connection.executor matcher?)
        (storeSample (.float ⟨0xFFF0000000000000⟩)).2 =
          (.error nullForDouble, (storeSample (.float ⟨0xFFF0000000000000⟩)).2)) := by
  obtain ⟨integer, truth, finite, _⟩ := numbers_recalled (-7) true ⟨0x7FEFFFFFFFFFFFFF⟩
  obtain ⟨y, finite⟩ := finite (by decide)
  obtain ⟨_, _, _, special⟩ := numbers_recalled 0 false ⟨0xFFF0000000000000⟩
  have storedInteger : (storeSample (.integer (-7))).1 = .ok () := by decide +kernel
  have storedTruth : (storeSample (.bool true)).1 = .ok () := by decide +kernel
  have storedFinite : (storeSample (.float ⟨0x7FEFFFFFFFFFFFFF⟩)).1 = .ok () := by
    decide +kernel
  have storedSpecial : (storeSample (.float ⟨0xFFF0000000000000⟩)).1 = .ok () := by
    decide +kernel
  exact ⟨⟨storedInteger, integer.on_sample storedInteger⟩,
    ⟨storedTruth, truth.on_sample storedTruth⟩,
    ⟨storedFinite, y, finite.on_sample storedFinite⟩,
    ⟨storedSpecial, (special (by decide)).on_sample storedSpecial⟩⟩

/-- NaN is stored, and cannot be read then. -/
theorem nan_not_recalled :
    (storeSample (.float ⟨0x7FF8000000000000⟩)).1 = .ok () ∧
      (((Store.mk Mapping.sample).getDouble "u1" "k1").run (Connection.executor matcher?)
        (storeSample (.float ⟨0x7FF8000000000000⟩)).2).1 = .error nullForDouble := by
  decide +kernel

end EntryStore.Store
