import EntryStore.Text.Span
import Std.Data.HashMap

/-!
# Automata under construction

An expression is prepared for matching as an automaton over bytes.  Only the size of the automaton
is followed here: how many states it has, which are numbered in the order in which they are made,
and how many bytes they take.  States that would be the same are shared; they are looked up in a
table of a fixed number of slots, in which a later state crowds out an earlier one.
-/

namespace EntryStore

open Text (ByteSpan)

/-- The size of an automaton. -/
structure Growth where
  states : Nat
  bytes : Nat
  deriving DecidableEq, Repr

namespace Growth

/-- The greatest size of an automaton in bytes. -/
def maxBytes : Nat := 10 * 1024 * 1024

/-- The size of a state that leads to one state or to none. -/
def stateBytes : Nat := 32

/-- What a state takes for each transition by its own bytes. -/
def transitionBytes : Nat := 8

/-- What a state takes for each state to which it leads without reading. -/
def branchBytes : Nat := 4

/-- No states. -/
def zero : Growth := ⟨0, 0⟩

/-- Makes a state that takes some bytes more than the least. -/
def add (growth : Growth) (more : Nat) : Option Growth :=
  let bytes := growth.bytes + stateBytes + more
  if bytes ≤ maxBytes then some ⟨growth.states + 1, bytes⟩ else none

/-- Makes a state that leads to one state. -/
def addState (growth : Growth) : Option Growth := growth.add 0

/-- Makes a state with transitions by bytes. -/
def addTable (growth : Growth) (transitions : Nat) : Option Growth :=
  growth.add (transitionBytes * transitions)

/-- Makes a state that leads to several states without reading. -/
def addBranch (growth : Growth) (branches : Nat) : Option Growth :=
  growth.add (branchBytes * branches)

/-- Makes the same states again and again. -/
def repeated (step : Growth → Option Growth) : (count : Nat) → Growth → Option Growth
  | 0, growth => some growth
  | count + 1, growth =>
      match step growth with
      | some growth => repeated step count growth
      | none => none

end Growth

/-- A transition by the bytes of a span to the state of a number. -/
structure ByteStep where
  span : ByteSpan
  target : Nat
  deriving DecidableEq, Repr

namespace ByteStep

/-- Mixes a number into a hash. -/
def mix (hash : UInt64) (value : UInt64) : UInt64 := (hash ^^^ value) * 1099511628211

/-- The hash of nothing. -/
def basis : UInt64 := 14695981039346656037

/-- The slot of a span that follows a state. -/
def slotBehind (slots : Nat) (step : ByteStep) : Nat :=
  let hash := mix (mix (mix basis step.target.toUInt64) step.span.first.toUInt64)
    step.span.last.toUInt64
  hash.toNat % slots

/-- The slot of a state with some transitions. -/
def slotOf (slots : Nat) (steps : List ByteStep) : Nat :=
  let hash := steps.foldl (fun hash step =>
    mix (mix (mix hash step.span.first.toUInt64) step.span.last.toUInt64)
      step.target.toUInt64) basis
  hash.toNat % slots

end ByteStep

/-- States by what they are looked up for, one to a slot. -/
abbrev SlotTable (κ : Type) := Std.HashMap Nat (κ × Nat)

namespace SlotTable

variable {κ : Type} [DecidableEq κ]

/-- The state that is known under a key. -/
def find? (table : SlotTable κ) (slot : Nat) (key : κ) : Option Nat :=
  match table[slot]? with
  | some (known, state) => if known = key then some state else none
  | none => none

end SlotTable

namespace Growth

/-- How many states are known for the sets of a forward automaton. -/
def forwardSlots : Nat := 10000

/-- How many states are known for the sets of a backward automaton. -/
def backwardSlots : Nat := 1000

/-- A set under construction: the size so far, the states that may be shared, and the state that
was made or found last. -/
structure Sharing (κ : Type) where
  growth : Growth
  known : SlotTable κ
  state : Nat

/-- Finds the state of a key, or makes one with some transitions. -/
def Sharing.share {κ : Type} [DecidableEq κ] (sharing : Sharing κ) (slot : Nat) (key : κ)
    (make : Growth → Option Growth) : Option (Sharing κ) :=
  match sharing.known.find? slot key with
  | some state => some { sharing with state := state }
  | none => do
      let state := sharing.growth.states
      return ⟨← make sharing.growth, sharing.known.insert slot (key, state), state⟩

/-- Makes the states for the bytes of a run from its first byte on, each leading to the one
before. -/
def addChain (sharing : Sharing ByteStep) (run : List ByteSpan) : Option (Sharing ByteStep) :=
  run.foldlM (fun sharing span =>
    let step : ByteStep := ⟨span, sharing.state⟩
    sharing.share (step.slotBehind backwardSlots) step addState) sharing

/-- Makes the states of a set that is read backwards: one chain for each run, all of which end in
one state. -/
def addSetBackward (runs : List (List ByteSpan)) (growth : Growth) : Option Growth := do
  let growth ← growth.addBranch runs.length
  let stop := growth.states
  let growth ← growth.addState
  let sharing ← runs.foldlM (fun (sharing : Sharing ByteStep) run =>
    addChain { sharing with state := stop } run) ⟨growth, ∅, stop⟩
  return sharing.growth

/-- Makes the state from which the given runs are read, after the states behind it.  The fuel
bounds the length of the runs. -/
def addTree (stop : Nat) :
    (fuel : Nat) → List (List ByteSpan) → Sharing (List ByteStep) →
      Option (Sharing (List ByteStep))
  | 0, _, sharing => some { sharing with state := stop }
  | fuel + 1, runs, sharing => do
      if runs.all List.isEmpty then return { sharing with state := stop }
      let groups := runs.splitBy fun left right => left.head? == right.head?
      let (sharing, steps) ← groups.foldlM (fun (sharing, steps) group => do
        let sharing ← addTree stop fuel (group.map List.tail) sharing
        let span? := group.head?.bind List.head?
        return (sharing, steps ++ (span?.map fun span => ⟨span, sharing.state⟩).toList))
        (sharing, ([] : List ByteStep))
      sharing.share (ByteStep.slotOf forwardSlots steps) steps (·.addTable steps.length)

/-- The greatest number of bytes of a character. -/
def maxEncoding : Nat := 4

/-- Makes the states of a set that is read forwards. -/
def addSetForward (runs : List (List ByteSpan)) (growth : Growth) : Option Growth := do
  let stop := growth.states
  let growth ← growth.addState
  let sharing ← addTree stop (maxEncoding + 1) runs ⟨growth, ∅, stop⟩
  return sharing.growth

end Growth

end EntryStore
