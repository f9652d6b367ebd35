import EntryStore.Proofs.Store.Bindings

/-!
# Calls

A call is a request to a store.  `Store.answers` runs calls one after the other, each from the
state that the one before has left; `Bindings.answers` is what a finite map answers to the
same calls.
-/

namespace EntryStore

/-- A request to a store. -/
inductive Call where
  | ensureTable
  | setString (owner key : String) (text? : Option String)
  | setValue (owner key : String) (value : Value)
  | setObject (owner key : String) (document : Json)
  | setList (owner key : String) (elements? : Option (List Json))
  | getString (owner key : String)
  | contains (owner key : String)
  | keys (owner : String)
  | delete (owner key : String)
  | purge (owner : String)
  | entries (owner : String)

/-- What a call answers. -/
inductive Answer where
  | done
  | text (text? : Option String)
  | truth (holds : Bool)
  | count (count : Nat)
  | keys (keys : List String)
  | entries (entries : List Entry)
  deriving DecidableEq, Repr

namespace Store

variable (store : Store)

/-- The program of a call. -/
def perform : Call → Program Answer
  | .ensureTable => do
      store.ensureTable
      return .done
  | .setString owner key text? => do
      store.setString owner key text?
      return .done
  | .setValue owner key value => do
      store.setValue owner key value
      return .done
  | .setObject owner key document => do
      store.setObject owner key document
      return .done
  | .setList owner key elements? => do
      store.setList owner key elements?
      return .done
  | .getString owner key => return .text (← store.getString owner key)
  | .contains owner key => return .truth (← store.contains owner key)
  | .keys owner => return .keys (← store.keys owner)
  | .delete owner key => return .count (← store.delete owner key)
  | .purge owner => return .count (← store.purge owner)
  | .entries owner => return .entries (← store.entries owner)

/-- Runs calls one after the other, also after one that has failed. -/
def answers {σ : Type} (executor : Executor σ) : List Call → σ → List (Except Error Answer)
  | [], _ => []
  | call :: calls, state =>
      let (answer, after) := (store.perform call).run executor state
      answer :: answers executor calls after

end Store

namespace Bindings

/-- The entries of an owner. -/
def entries (bindings : Bindings) (owner : String) : List Entry :=
  (bindings.ofOwner owner).map fun binding => ⟨binding.owner, binding.key, some binding.text⟩

/-- What a map answers to a call, and the map after it. -/
def apply (bindings : Bindings) : Call → Answer × Bindings
  | .ensureTable => (.done, bindings)
  | .setString owner key (some text) => (.done, bindings.bind owner key text)
  | .setString owner key none => (.done, bindings.unbind owner key)
  | .setValue owner key value => (.done, bindings.bind owner key value.parameter)
  | .setObject owner key document =>
      (.done, bindings.bind owner key (Value.json document).parameter)
  | .setList owner key (some elements) =>
      (.done, bindings.bind owner key (Value.json (.array elements)).parameter)
  | .setList owner key none => (.done, bindings.unbind owner key)
  | .getString owner key => (.text (bindings.lookup owner key), bindings)
  | .contains owner key => (.truth (bindings.lookup owner key).isSome, bindings)
  | .keys owner => (.keys ((bindings.ofOwner owner).map (·.key)), bindings)
  | .delete owner key =>
      (.count (if (bindings.lookup owner key).isSome then 1 else 0), bindings.unbind owner key)
  | .purge owner => (.count (bindings.ofOwner owner).length, bindings.purge owner)
  | .entries owner => (.entries (bindings.entries owner), bindings)

/-- What a map answers to calls, one after the other. -/
def answers (bindings : Bindings) : List Call → List Answer
  | [] => []
  | call :: calls => (bindings.apply call).1 :: (bindings.apply call).2.answers calls

end Bindings

end EntryStore
