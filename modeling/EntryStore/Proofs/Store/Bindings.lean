import EntryStore.Store.Basic
import Mathlib.Data.List.Nodup

/-!
# Finite maps from pairs to texts

`Bindings` is what a store is meant to be: a finite map from pairs of an owner and a key to
texts, which remembers in which order the pairs were bound.  The laws of `lookup` say what each
change does to every pair.
-/

namespace EntryStore

/-- A text bound to an owner and a key. -/
structure Binding where
  owner : String
  key : String
  text : String
  deriving DecidableEq, Repr

namespace Binding

/-- The text that the cell of a field holds. -/
def get (binding : Binding) : Field → String
  | .owner => binding.owner
  | .key => binding.key
  | .value => binding.text

/-- What a text is bound to. -/
def pair (binding : Binding) : String × String := (binding.owner, binding.key)

/-- Whether a binding is that of an owner and a key. -/
def isAt (owner key : String) (binding : Binding) : Bool :=
  binding.owner == owner && binding.key == key

/-- Binds the text anew. -/
def withText (text : String) (binding : Binding) : Binding := { binding with text := text }

theorem isAt_iff {owner key : String} {binding : Binding} :
    binding.isAt owner key = true ↔ binding.pair = (owner, key) := by
  rw [isAt, Bool.and_eq_true, beq_iff_eq, beq_iff_eq, pair, Prod.mk.injEq]

end Binding

/-- A finite map: bindings of different pairs, in the order in which the pairs were bound. -/
structure Bindings where
  list : List Binding
  distinct : (list.map Binding.pair).Nodup

namespace Bindings

/-- The map that binds nothing. -/
def empty : Bindings := ⟨[], List.nodup_nil⟩

/-- The text of an owner and a key. -/
def lookup (bindings : Bindings) (owner key : String) : Option String :=
  (bindings.list.find? (·.isAt owner key)).map (·.text)

/-- Whether an owner and a key are bound. -/
def binds (bindings : Bindings) (owner key : String) : Bool :=
  bindings.list.any (·.isAt owner key)

/-- The bindings of an owner. -/
def ofOwner (bindings : Bindings) (owner : String) : List Binding :=
  bindings.list.filter (·.owner == owner)

/-- Gives the binding of a pair another text. -/
def rebind (bindings : Bindings) (owner key text : String) : Bindings where
  list := bindings.list.map fun binding =>
    if binding.isAt owner key then binding.withText text else binding
  distinct := by
    have pairs : (Binding.pair ∘ fun binding : Binding =>
        if binding.isAt owner key then binding.withText text else binding) = Binding.pair := by
      funext binding
      rw [Function.comp_apply]
      split <;> rfl
    rw [List.map_map, pairs]
    exact bindings.distinct

/-- Appends a binding of a pair that is not bound. -/
def append (bindings : Bindings) (owner key text : String)
    (unbound : bindings.binds owner key = false) : Bindings where
  list := bindings.list ++ [⟨owner, key, text⟩]
  distinct := by
    rw [List.map_append, List.map_singleton, List.nodup_append]
    refine ⟨bindings.distinct, List.nodup_singleton _, ?_⟩
    rintro pair member _ last rfl
    obtain ⟨binding, bound, same⟩ := List.mem_map.mp member
    rw [List.mem_singleton.mp last] at same
    exact List.any_eq_false.mp unbound binding bound (Binding.isAt_iff.mpr same)

/-- Keeps some of the bindings. -/
def keep (bindings : Bindings) (kept : Binding → Bool) : Bindings where
  list := bindings.list.filter kept
  distinct := bindings.distinct.sublist (List.filter_sublist.map _)

/-- Binds a pair to a text: in its place if it is bound, else behind all others. -/
def bind (bindings : Bindings) (owner key text : String) : Bindings :=
  match bound : bindings.binds owner key with
  | true => bindings.rebind owner key text
  | false => bindings.append owner key text bound

/-- The bindings after one has been made. -/
theorem list_bind (bindings : Bindings) (owner key text : String) :
    (bindings.bind owner key text).list =
      if bindings.binds owner key = true then
        bindings.list.map fun binding =>
          if binding.isAt owner key then binding.withText text else binding
      else bindings.list ++ [⟨owner, key, text⟩] := by
  unfold bind
  split
  · next bound =>
      rw [if_pos bound]
      rfl
  · next unbound =>
      rw [if_neg (Bool.eq_false_iff.mp unbound)]
      rfl

/-- Removes the binding of a pair. -/
def unbind (bindings : Bindings) (owner key : String) : Bindings :=
  bindings.keep fun binding => !binding.isAt owner key

/-- Removes the bindings of an owner. -/
def purge (bindings : Bindings) (owner : String) : Bindings :=
  bindings.keep fun binding => !(binding.owner == owner)

/-! ## Looking up -/

theorem isSome_lookup (bindings : Bindings) (owner key : String) :
    (bindings.lookup owner key).isSome = bindings.binds owner key := by
  rw [lookup, Option.isSome_map, List.isSome_find?, binds]

theorem lookup_empty (owner key : String) : empty.lookup owner key = none := rfl

/-- A binding is that of one pair only. -/
theorem isAt_of_isAt {binding : Binding} {owner key owner' key' : String}
    (found : binding.isAt owner' key' = true) :
    binding.isAt owner key = decide ((owner', key') = (owner, key)) := by
  rw [Bool.eq_iff_iff, decide_eq_true_eq, Binding.isAt_iff, Binding.isAt_iff.mp found]

theorem lookup_rebind (bindings : Bindings) (owner key text owner' key' : String) :
    (bindings.rebind owner key text).lookup owner' key' =
      if (owner', key') = (owner, key) then (bindings.lookup owner' key').map fun _ => text
      else bindings.lookup owner' key' := by
  have moved : ((·.isAt owner' key') ∘ fun binding : Binding =>
      if binding.isAt owner key then binding.withText text else binding) =
      (·.isAt owner' key') := by
    funext binding
    rw [Function.comp_apply]
    split <;> rfl
  unfold lookup rebind
  rw [List.find?_map, moved]
  cases found : bindings.list.find? (·.isAt owner' key') with
  | none => simp
  | some binding =>
      have here := @isAt_of_isAt binding owner key _ _ (List.find?_some found)
      by_cases same : (owner', key') = (owner, key)
      · simp [here, same, Binding.withText]
      · simp [here, same]

theorem lookup_append (bindings : Bindings) {owner key : String} (text owner' key' : String)
    (unbound : bindings.binds owner key = false) :
    (bindings.append owner key text unbound).lookup owner' key' =
      if (owner', key') = (owner, key) then some text else bindings.lookup owner' key' := by
  have last : Binding.isAt owner' key' ⟨owner, key, text⟩ =
      decide ((owner, key) = (owner', key')) := isAt_of_isAt (Binding.isAt_iff.mpr rfl)
  unfold lookup append
  rw [List.find?_append, List.find?_singleton, last]
  by_cases same : (owner', key') = (owner, key)
  · obtain ⟨rfl, rfl⟩ := Prod.mk.inj same
    have none : bindings.list.find? (·.isAt owner' key') = none := by
      rw [List.find?_eq_none]
      exact fun binding member => by simpa using List.any_eq_false.mp unbound binding member
    simp [none]
  · simp [same, Ne.symm same]

/-- What is kept of a pair, if all its bindings meet the same verdict. -/
theorem lookup_keep (bindings : Bindings) {kept : Binding → Bool} {owner key : String}
    {verdict : Bool}
    (decided : ∀ binding : Binding, binding.isAt owner key = true → kept binding = verdict) :
    (bindings.keep kept).lookup owner key =
      if verdict then bindings.lookup owner key else none := by
  have narrowed : (fun binding : Binding =>
      decide (kept binding = true ∧ binding.isAt owner key = true)) =
      fun binding => verdict && binding.isAt owner key := by
    funext binding
    cases here : binding.isAt owner key with
    | false => simp
    | true => simp [decided binding here]
  unfold lookup keep
  rw [List.find?_filter, narrowed]
  cases verdict <;> simp

/-- After a pair has been bound it has the text, and all others have theirs. -/
theorem lookup_bind (bindings : Bindings) (owner key text owner' key' : String) :
    (bindings.bind owner key text).lookup owner' key' =
      if (owner', key') = (owner, key) then some text else bindings.lookup owner' key' := by
  unfold bind
  split
  · next bound =>
      rw [lookup_rebind]
      split
      · next same =>
          obtain ⟨rfl, rfl⟩ := Prod.mk.inj same
          rw [← isSome_lookup] at bound
          obtain ⟨old, found⟩ := Option.isSome_iff_exists.mp bound
          rw [found]
          rfl
      · rfl
  · next unbound => exact lookup_append bindings text owner' key' unbound

/-- After a pair has been unbound it has no text, and all others have theirs. -/
theorem lookup_unbind (bindings : Bindings) (owner key owner' key' : String) :
    (bindings.unbind owner key).lookup owner' key' =
      if (owner', key') = (owner, key) then none else bindings.lookup owner' key' := by
  unfold unbind
  rw [lookup_keep bindings fun binding here => congrArg not (isAt_of_isAt here)]
  by_cases same : (owner', key') = (owner, key)
  · simp [same]
  · simp [same]

/-- After an owner has been purged its pairs have no text, and all others have theirs. -/
theorem lookup_purge (bindings : Bindings) (owner owner' key' : String) :
    (bindings.purge owner).lookup owner' key' =
      if owner' = owner then none else bindings.lookup owner' key' := by
  have decided : ∀ binding : Binding, binding.isAt owner' key' = true →
      (!(binding.owner == owner)) = !(owner' == owner) := by
    intro binding here
    rw [(Prod.mk.inj (Binding.isAt_iff.mp here)).1]
  unfold purge
  rw [lookup_keep bindings decided]
  by_cases same : owner' = owner
  · simp [same]
  · simp [same]

/-- At most one binding is that of a pair. -/
theorem countP_isAt (bindings : Bindings) (owner key : String) :
    bindings.list.countP (·.isAt owner key) = (bindings.binds owner key).toNat := by
  have counted : bindings.list.countP (·.isAt owner key) =
      (bindings.list.map Binding.pair).count (owner, key) := by
    rw [List.count, List.countP_map]
    rfl
  have bound : (owner, key) ∈ bindings.list.map Binding.pair ↔
      bindings.binds owner key = true := by
    rw [List.mem_map, binds, List.any_eq_true]
    simp only [Binding.isAt_iff]
  rw [counted, bindings.distinct.count]
  cases binds : bindings.binds owner key with
  | true =>
      rw [if_pos (bound.mpr binds)]
      rfl
  | false =>
      rw [if_neg fun member => Bool.noConfusion (binds.symm.trans (bound.mp member))]
      rfl

end Bindings

end EntryStore
