import Mathlib.Logic.Relation
import EntryStore.Proofs.Store.Refinement

/-!
# Clients that share a table

Several clients store and remove values in one table.  Each value takes a statement that
updates, and, where that has changed no row, another one that inserts; between the two other
clients have their turns.  A pair has at most one row as long as one client alone sets it, or
if it has its row from the start and no client removes it.  Otherwise it has at most a row for
each client that sets it, and there may be as many.
-/

namespace EntryStore.Store

open Sql (Connection Database PatternMeaning)
open Regex (Takes matcher? takes_meaning?)
open Identifier (NormalForm)
open Relation (ReflTransGen)

/-! ## Requests -/

/-- A request that stores a value for a pair or removes the pair. -/
inductive Setting where
  | setValue (owner key : String) (value : Value)
  | setString (owner key : String) (text? : Option String)
  deriving Repr

namespace Setting

/-- The program of a request. -/
def program (store : Store) : Setting → Program Unit
  | setValue owner key value => store.setValue owner key value
  | setString owner key text? => store.setString owner key text?

/-- The owner and the key of a request. -/
def pair : Setting → String × String
  | setValue owner key _ | setString owner key _ => (owner, key)

/-- The value that a request stores, if it does not remove the pair. -/
def value? : Setting → Option Value
  | setValue _ _ value => some value
  | setString _ _ text? => text?.map .text

/-- Whether a request stores a value for a pair. -/
def sets (pair : String × String) (setting : Setting) : Bool :=
  setting.pair == pair && setting.value?.isSome

/-- A meaning takes the texts of the pair of a request. -/
def Taken (meaning : PatternMeaning) (setting : Setting) : Prop :=
  Takes meaning setting.pair.1 ∧ Takes meaning setting.pair.2

/-- Whether a request removes a pair. -/
def removes (pair : String × String) (setting : Setting) : Bool :=
  setting.pair == pair && setting.value?.isNone

end Setting

/-- The program of requests, one after the other. -/
def settle (store : Store) : List Setting → Program Unit
  | [] => .done ()
  | setting :: settings => (setting.program store).bind fun _ => settle store settings

/-- The number of rows at a pair. -/
abbrev rowsAt (mapping : Mapping) (pair : String × String) (rows : List Row) : Nat :=
  rows.countP (mapping.layout.isAt (freshTable mapping) pair.1 pair.2)

/-! ## Turns of a client -/

/-- A client between two turns. -/
structure Client where
  /-- the insertion that is left of the request that the client has begun -/
  pending : Option (String × String × Value)
  /-- the requests that the client has not begun -/
  rest : List Setting
  deriving Repr

namespace Client

/-- A client that has begun nothing. -/
def idle (settings : List Setting) : Client := ⟨none, settings⟩

/-- What a client has still to run. -/
def program (store : Store) (client : Client) : Program Unit :=
  match client.pending with
  | none => settle store client.rest
  | some (owner, key, value) =>
      (store.affected (insertQuery owner key value)).bind fun _ => settle store client.rest

/-- Whether a client has an insertion for a pair to make. -/
def waits (pair : String × String) (client : Client) : Bool :=
  client.pending.any fun (owner, key, _) => (owner, key) == pair

/-- Whether a client has still to store a value for a pair. -/
def sets (pair : String × String) (client : Client) : Bool :=
  client.waits pair || client.rest.any (·.sets pair)

/-- Whether a client has still to remove a pair. -/
def removes (pair : String × String) (client : Client) : Bool :=
  client.rest.any (·.removes pair)

theorem sets_idle (pair : String × String) (settings : List Setting) :
    (idle settings).sets pair = settings.any (·.sets pair) := Bool.false_or _

/-- What a turn makes of a client and of the rows of the table. -/
inductive Turn (mapping : Mapping) (rows : List Row) : Client → Client → List Row → Prop where
  | stay : Turn mapping rows (idle []) (idle []) rows
  | insert {owner key : String} {value : Value} {rest : List Setting} :
      Turn mapping rows ⟨some (owner, key, value), rest⟩ (idle rest)
        (rows ++ [mapping.layout.bindingRow (freshTable mapping) ⟨owner, key, value.parameter⟩])
  | remove {setting : Setting} {rest : List Setting} (removal : setting.value? = none) :
      Turn mapping rows (idle (setting :: rest)) (idle rest)
        (rows.filter fun row =>
          !mapping.layout.isAt (freshTable mapping) setting.pair.1 setting.pair.2 row)
  | update {setting : Setting} {rest : List Setting} {value : Value}
      (storage : setting.value? = some value)
      (present : rowsAt mapping setting.pair rows ≠ 0) :
      Turn mapping rows (idle (setting :: rest)) (idle rest)
        (mapping.layout.rewriteRows (freshTable mapping) setting.pair.1 setting.pair.2
          value.parameter rows)
  | miss {setting : Setting} {rest : List Setting} {value : Value}
      (storage : setting.value? = some value)
      (absent : rowsAt mapping setting.pair rows = 0) :
      Turn mapping rows (idle (setting :: rest))
        ⟨some (setting.pair.1, setting.pair.2, value), rest⟩ rows

end Client

section Turns

variable {mapping : Mapping} {rows : List Row} {connection : Connection} {meaning : PatternMeaning}
variable (sound : mapping.Sound) (separate : mapping.Separate)
  (holds : Holds mapping rows connection)
include sound separate holds

/-- Removing a pair takes one turn. -/
theorem Holds.advance_removal {owner key : String} (ownerTaken : Takes meaning owner)
    (keyTaken : Takes meaning key) (rest : List Setting) :
    ∃ after, (((Store.mk mapping).setString owner key none).bind fun _ =>
        settle (Store.mk mapping) rest).advance (Connection.executor meaning) connection =
        ((Client.idle rest).program (Store.mk mapping), after) ∧
      Holds mapping
        (rows.filter fun row => !mapping.layout.isAt (freshTable mapping) owner key row) after := by
  obtain ⟨counts, held⟩ := holds.delete_pair sound separate ownerTaken keyTaken
  refine ⟨_, ?_, held⟩
  change ((((Store.mk mapping).delete owner key).bind _).bind _).advance _ _ = _
  rw [Program.bind_assoc, counts.advance]
  rfl

/-- The first turn of a request that stores a value. -/
theorem Holds.advance_storage {setting : Setting} (taken : setting.Taken meaning) {value : Value}
    (storage : setting.value? = some value) (rest : List Setting) :
    ∃ client others after, Client.Turn mapping rows (.idle (setting :: rest)) client others ∧
      (settle (Store.mk mapping) (setting :: rest)).advance (Connection.executor meaning)
        connection = (client.program (Store.mk mapping), after) ∧
      Holds mapping others after := by
  have program : setting.program (Store.mk mapping) =
      (Store.mk mapping).setValue setting.pair.1 setting.pair.2 value := by
    cases setting with
    | setValue owner key value => cases storage; rfl
    | setString owner key text? =>
        cases text? with
        | none => cases storage
        | some text => cases storage; rfl
  obtain ⟨after, advanced, held⟩ :=
    holds.advance_setValue sound separate taken.1 taken.2 value
      fun _ => settle (Store.mk mapping) rest
  rw [settle, program]
  by_cases absent : rowsAt mapping setting.pair rows = 0
  · rw [if_pos absent] at advanced
    rw [Layout.rewriteRows_of_absent _ absent] at held
    exact ⟨_, _, after, .miss storage absent, advanced, held⟩
  · rw [if_neg absent] at advanced
    exact ⟨_, _, after, .update storage absent, advanced, held⟩

/-- When a client has its turn, its program runs on and the table holds the rows after the
turn. -/
theorem Holds.advance_client {client : Client}
    (taken : ∀ setting ∈ client.rest, setting.Taken meaning) :
    ∃ next others after, Client.Turn mapping rows client next others ∧
      (client.program (Store.mk mapping)).advance (Connection.executor meaning) connection =
        (next.program (Store.mk mapping), after) ∧
      Holds mapping others after := by
  obtain ⟨pending, rest⟩ := client
  cases pending with
  | some insertion =>
      obtain ⟨owner, key, value⟩ := insertion
      obtain ⟨counts, held⟩ := holds.insert_pair meaning sound separate owner key value
      exact ⟨_, _, _, .insert, counts.advance _, held⟩
  | none =>
      cases rest with
      | nil => exact ⟨_, _, connection, .stay, rfl, holds⟩
      | cons setting rest =>
          cases content : setting.value? with
          | some value =>
              exact holds.advance_storage sound separate (taken setting List.mem_cons_self) content
                rest
          | none =>
              cases setting with
              | setValue owner key value => cases content
              | setString owner key text? =>
                  cases text? with
                  | some text => cases content
                  | none =>
                      obtain ⟨ownerTaken, keyTaken⟩ := taken _ List.mem_cons_self
                      obtain ⟨after, advanced, held⟩ :=
                        holds.advance_removal sound separate ownerTaken keyTaken rest
                      exact ⟨_, _, after, .remove content, advanced, held⟩

/-- A client between two turns has not failed. -/
theorem Holds.isFailed_program (client : Client) :
    (client.program (Store.mk mapping)).isFailed = false := by
  obtain ⟨pending, rest⟩ := client
  cases pending with
  | some insertion =>
      obtain ⟨owner, key, value⟩ := insertion
      obtain ⟨counts, _⟩ := holds.insert_pair Regex.meaning? sound separate owner key value
      exact counts.isFailed_bind _
  | none =>
      have stored : ∀ (owner key : String) (value : Value) (next : Unit → Program Unit),
          (((Store.mk mapping).setValue owner key value).bind next).isFailed = false := by
        intro owner key value next
        obtain ⟨counts, _⟩ := holds.update_pair sound separate (takes_meaning? owner)
          (takes_meaning? key) value
        exact (congrArg Program.isFailed (Program.bind_assoc _ _ next)).trans
          (counts.isFailed_bind _)
      cases rest with
      | nil => rfl
      | cons setting rest =>
          cases setting with
          | setValue owner key value => exact stored owner key value _
          | setString owner key text? =>
              cases text? with
              | some text => exact stored owner key (.text text) _
              | none =>
                  obtain ⟨counts, _⟩ := holds.delete_pair sound separate (takes_meaning? owner)
                    (takes_meaning? key)
                  exact (congrArg Program.isFailed (Program.bind_assoc _ _ _)).trans
                    (counts.isFailed_bind _)

end Turns

/-! ## What a turn does to a pair -/

section Counting

variable {mapping : Mapping} {rows others : List Row} {client next : Client}

/-- A row is at one pair only. -/
theorem eq_of_isAt {pair : String × String} {owner key : String} {row : Row}
    (here : mapping.layout.isAt (freshTable mapping) owner key row = true)
    (there : mapping.layout.isAt (freshTable mapping) pair.1 pair.2 row = true) :
    (owner, key) = pair := by
  obtain ⟨hereOwner, hereKey⟩ := Layout.isAt_iff.mp here
  obtain ⟨thereOwner, thereKey⟩ := Layout.isAt_iff.mp there
  rw [hereOwner] at thereOwner
  rw [hereKey] at thereKey
  exact Prod.ext (Option.some.inj thereOwner) (Option.some.inj thereKey)

/-- Other values leave as many rows at each pair. -/
theorem countP_rewrite (separate : mapping.Separate) (owner key text : String)
    (pair : String × String) :
    rowsAt mapping pair (mapping.layout.rewriteRows (freshTable mapping) owner key text rows) =
      rowsAt mapping pair rows := by
  rw [rowsAt, Layout.rewriteRows, List.countP_map]
  congr 1
  funext row
  rw [Function.comp_apply]
  split
  · exact Layout.isAt_withValue (placed_freshTable separate.usable) pair.1 pair.2 text
  · rfl

/-- A row that is inserted is one more at its pair. -/
theorem countP_insert (separate : mapping.Separate) (owner key text : String)
    (pair : String × String) :
    rowsAt mapping pair
        (rows ++ [mapping.layout.bindingRow (freshTable mapping) ⟨owner, key, text⟩]) =
      rowsAt mapping pair rows + ((owner, key) == pair).toNat := by
  have here : mapping.layout.isAt (freshTable mapping) pair.1 pair.2
      (mapping.layout.bindingRow (freshTable mapping) ⟨owner, key, text⟩) =
        ((owner, key) == pair) :=
    Layout.isAt_bindingRow (placed_freshTable separate.usable) _ _ _
  rw [rowsAt, List.countP_append, List.countP_singleton, here]
  cases (owner, key) == pair <;> rfl

/-- After a removal no row is at the pair, and as many as before at any other. -/
theorem countP_remove (owner key : String) (pair : String × String) :
    rowsAt mapping pair
        (rows.filter fun row => !mapping.layout.isAt (freshTable mapping) owner key row) =
      if (owner, key) = pair then 0 else rowsAt mapping pair rows := by
  rw [rowsAt, List.countP_filter]
  split
  · next same =>
      rw [← same, List.countP_eq_zero]
      intro row _ both
      cases here : mapping.layout.isAt (freshTable mapping) owner key row <;> simp [here] at both
  · next differs =>
      congr 1
      funext row
      cases there : mapping.layout.isAt (freshTable mapping) pair.1 pair.2 row with
      | false => rfl
      | true =>
          cases here : mapping.layout.isAt (freshTable mapping) owner key row with
          | false => rfl
          | true => exact absurd (eq_of_isAt here there) differs

namespace Client.Turn

/-- A turn leaves no request to a client that was not there before. -/
theorem rest_subset (turn : Turn mapping rows client next others) : next.rest ⊆ client.rest := by
  cases turn with
  | stay => exact List.Subset.refl _
  | insert => exact List.Subset.refl _
  | remove => exact List.subset_cons_self _ _
  | update => exact List.subset_cons_self _ _
  | miss => exact List.subset_cons_self _ _

/-- A turn leaves no row at a pair, or brings no row to it that was not waited for. -/
theorem rows_le (separate : mapping.Separate) (turn : Turn mapping rows client next others)
    (pair : String × String) :
    rowsAt mapping pair others = 0 ∨
      rowsAt mapping pair others + (next.waits pair).toNat ≤
        rowsAt mapping pair rows + (client.waits pair).toNat := by
  cases turn with
  | stay => exact Or.inr (Nat.le_refl _)
  | insert =>
      rw [countP_insert separate]
      exact Or.inr (Nat.le_refl _)
  | remove removal =>
      rw [countP_remove]
      split
      · exact Or.inl rfl
      · exact Or.inr (Nat.le_refl _)
  | update storage present =>
      rw [countP_rewrite separate]
      exact Or.inr (Nat.le_refl _)
  | @miss setting rest value storage absent =>
      by_cases same : setting.pair = pair
      · exact Or.inl (same ▸ absent)
      · have elsewhere : (Client.mk (some (setting.pair.1, setting.pair.2, value)) rest).waits
            pair = false := beq_false_of_ne same
        rw [elsewhere]
        exact Or.inr (Nat.le_refl _)

/-- A turn leaves a client with no more values to store than before. -/
theorem sets_of_sets (turn : Turn mapping rows client next others) {pair : String × String}
    (sets : next.sets pair = true) : client.sets pair = true := by
  cases turn with
  | stay => exact sets
  | insert =>
      rw [sets_idle] at sets
      exact Bool.or_eq_true_iff.mpr (Or.inr sets)
  | remove removal =>
      rw [sets_idle] at sets ⊢
      exact Bool.or_eq_true_iff.mpr (Or.inr sets)
  | update storage present =>
      rw [sets_idle] at sets ⊢
      exact Bool.or_eq_true_iff.mpr (Or.inr sets)
  | miss storage absent =>
      rw [sets_idle, List.any_cons, Setting.sets, storage, Option.isSome_some, Bool.and_true]
      exact sets

/-- A turn of a client that neither waits to insert a row of a pair nor removes the pair keeps
the rows of the pair. -/
theorem kept (separate : mapping.Separate) (turn : Turn mapping rows client next others)
    {pair : String × String} (present : rowsAt mapping pair rows ≠ 0)
    (settled : client.waits pair = false) (keeps : client.removes pair = false) :
    rowsAt mapping pair others = rowsAt mapping pair rows ∧
      next.waits pair = false ∧ next.removes pair = false := by
  cases turn with
  | stay => exact ⟨rfl, rfl, rfl⟩
  | @insert owner key value rest =>
      have elsewhere : ((owner, key) == pair) = false := settled
      rw [countP_insert separate, elsewhere]
      exact ⟨rfl, rfl, keeps⟩
  | @remove setting rest removal =>
      obtain ⟨first, later⟩ := Bool.or_eq_false_iff.mp keeps
      have elsewhere : (setting.pair == pair) = false := by
        change (setting.pair == pair && setting.value?.isNone) = false at first
        rwa [removal, Option.isNone_none, Bool.and_true] at first
      rw [countP_remove, if_neg (beq_eq_false_iff_ne.mp elsewhere)]
      exact ⟨rfl, rfl, later⟩
  | update storage _ =>
      rw [countP_rewrite separate]
      exact ⟨rfl, rfl, (Bool.or_eq_false_iff.mp keeps).2⟩
  | miss storage absent =>
      refine ⟨rfl, beq_false_of_ne fun same => ?_, (Bool.or_eq_false_iff.mp keeps).2⟩
      exact present (same ▸ absent)

end Client.Turn

end Counting

/-! ## Schedules -/

section Schedules

variable {mapping : Mapping} {meaning : PatternMeaning}

/-- Clients and the rows of their table, before and after a turn of one of the clients. -/
inductive Step (mapping : Mapping) : List Client × List Row → List Client × List Row → Prop where
  | turn {clients : List Client} {rows others : List Row} {client next : Client} {index : Nat}
      (found : clients[index]? = some client)
      (turn : Client.Turn mapping rows client next others) :
      Step mapping (clients, rows) (clients.set index next, others)

/-- Programs are those of clients between turns, whose requests are taken, and the table they share
holds rows. -/
structure Stage (mapping : Mapping) (meaning : PatternMeaning) (shared : Shared Connection Unit)
    (stage : List Client × List Row) : Prop where
  programs : shared.programs = stage.1.map (Client.program (Store.mk mapping))
  taken : ∀ client ∈ stage.1, ∀ setting ∈ client.rest, setting.Taken meaning
  holds : Holds mapping stage.2 shared.state

/-- What a turn does to the programs and the table is a step of the clients, if one has a turn. -/
theorem Stage.turn (sound : mapping.Sound) (separate : mapping.Separate)
    {shared : Shared Connection Unit} {before : List Client × List Row}
    (stage : Stage mapping meaning shared before) (index : Nat) :
    ∃ after, ReflTransGen (Step mapping) before after ∧
      Stage mapping meaning (shared.turn (Connection.executor meaning) index) after := by
  obtain ⟨clients, rows⟩ := before
  obtain ⟨programs, taken, holds⟩ := stage
  cases found : clients[index]? with
  | none =>
      have absent : shared.programs[index]? = none := by
        rw [programs, List.getElem?_map, found]
        rfl
      rw [Shared.turn, absent]
      exact ⟨_, .refl, programs, taken, holds⟩
  | some client =>
      have here : shared.programs[index]? = some (client.program (Store.mk mapping)) := by
        rw [programs, List.getElem?_map, found]
        rfl
      obtain ⟨next, others, after, turn, advanced, held⟩ :=
        holds.advance_client sound separate (taken client (List.mem_of_getElem? found))
      refine ⟨(clients.set index next, others), .single (.turn found turn), ?_⟩
      rw [Shared.turn, here]
      simp only [advanced]
      refine ⟨by rw [programs, List.map_set], fun other member setting settingMember => ?_, held⟩
      rcases List.mem_or_eq_of_mem_set member with earlier | rfl
      · exact taken other earlier setting settingMember
      · exact taken client (List.mem_of_getElem? found) setting (turn.rest_subset settingMember)

/-- A run under a schedule is a run of the clients. -/
theorem Stage.run (sound : mapping.Sound) (separate : mapping.Separate)
    {shared : Shared Connection Unit} {before : List Client × List Row}
    (stage : Stage mapping meaning shared before) (schedule : List Nat) :
    ∃ after, ReflTransGen (Step mapping) before after ∧
      Stage mapping meaning (shared.run (Connection.executor meaning) schedule) after := by
  induction schedule generalizing shared before with
  | nil => exact ⟨before, .refl, stage⟩
  | cons index schedule ih =>
      obtain ⟨between, first, stage⟩ := stage.turn sound separate index
      obtain ⟨after, others, stage⟩ := ih stage
      exact ⟨after, first.trans others, stage⟩

theorem countP_set_add {α : Type} (counted : α → Bool) {list : List α} {index : Nat} {old : α}
    (found : list[index]? = some old) (new : α) :
    (list.set index new).countP counted + (counted old).toNat =
      list.countP counted + (counted new).toNat := by
  obtain ⟨inside, rfl⟩ := List.getElem?_eq_some_iff.mp found
  have positive := List.boole_getElem_le_countP (p := counted) inside
  rw [List.countP_set inside]
  generalize counted list[index] = was at positive ⊢
  cases was <;> cases counted new <;>
    simp only [if_true, Bool.false_eq_true, if_false, Bool.toNat_true, Bool.toNat_false]
      at positive ⊢ <;>
    omega

/-- The rows that a pair has or will get are bounded by the clients that set it. -/
structure Bounded (mapping : Mapping) (pair : String × String) (limit : Nat)
    (stage : List Client × List Row) : Prop where
  clients : stage.1.countP (Client.sets pair) ≤ limit
  rows : rowsAt mapping pair stage.2 + stage.1.countP (Client.waits pair) ≤ max 1 limit

/-- A pair has a row, and no client is about to give it another one or removes it. -/
structure Kept (mapping : Mapping) (pair : String × String)
    (stage : List Client × List Row) : Prop where
  row : rowsAt mapping pair stage.2 = 1
  settled : ∀ client ∈ stage.1, client.waits pair = false ∧ client.removes pair = false

/-- A step keeps the bound: a pair that has rows gets none that was not waited for, and one that
has none is waited for only by clients that set it. -/
theorem Bounded.step (separate : mapping.Separate) {pair : String × String} {limit : Nat}
    {before after : List Client × List Row} (bounded : Bounded mapping pair limit before)
    (step : Step mapping before after) : Bounded mapping pair limit after := by
  obtain ⟨found, turn⟩ := step
  rename_i clients rows others client next index
  have fewer : (clients.set index next).countP (Client.sets pair) ≤ limit := by
    have changed := countP_set_add (Client.sets pair) found next
    have less : (next.sets pair).toNat ≤ (client.sets pair).toNat :=
      Bool.toNat_le_toNat turn.sets_of_sets
    have bound : clients.countP (Client.sets pair) ≤ limit := bounded.clients
    omega
  have changed := countP_set_add (Client.waits pair) found next
  have bound : rowsAt mapping pair rows + clients.countP (Client.waits pair) ≤ max 1 limit :=
    bounded.rows
  refine ⟨fewer, ?_⟩
  change rowsAt mapping pair others + (clients.set index next).countP (Client.waits pair) ≤
    max 1 limit
  rcases turn.rows_le separate pair with none | less
  · have waiting : (clients.set index next).countP (Client.waits pair) ≤
        (clients.set index next).countP (Client.sets pair) :=
      List.countP_mono_left fun client _ waits => Bool.or_eq_true_iff.mpr (Or.inl waits)
    omega
  · omega

theorem Bounded.steps (separate : mapping.Separate) {pair : String × String} {limit : Nat}
    {before after : List Client × List Row} (bounded : Bounded mapping pair limit before)
    (steps : ReflTransGen (Step mapping) before after) : Bounded mapping pair limit after := by
  induction steps with
  | refl => exact bounded
  | tail _ step ih => exact ih.step separate step

/-- A step keeps the row of a pair that no client removes. -/
theorem Kept.step (separate : mapping.Separate) {pair : String × String}
    {before after : List Client × List Row} (kept : Kept mapping pair before)
    (step : Step mapping before after) : Kept mapping pair after := by
  obtain ⟨found, turn⟩ := step
  rename_i clients rows others client next index
  have present : rowsAt mapping pair rows ≠ 0 := kept.row ▸ Nat.one_ne_zero
  obtain ⟨settled, keeps⟩ := kept.settled client (List.mem_of_getElem? found)
  obtain ⟨same, settled, keeps⟩ := turn.kept separate present settled keeps
  refine ⟨same.trans kept.row, fun other member => ?_⟩
  rcases List.mem_or_eq_of_mem_set member with earlier | rfl
  · exact kept.settled other earlier
  · exact ⟨settled, keeps⟩

theorem Kept.steps (separate : mapping.Separate) {pair : String × String}
    {before after : List Client × List Row} (kept : Kept mapping pair before)
    (steps : ReflTransGen (Step mapping) before after) : Kept mapping pair after := by
  induction steps with
  | refl => exact kept
  | tail _ step ih => exact ih.step separate step

end Schedules

/-- Whatever turns the clients take, none of them fails.  A pair that has at most one row at first
has at most a row for each client that sets it, one at most if no more than one client does, and
exactly one if it has its row from the start and no client removes it; and it is shown once for
each row.  Patterns may be refused, but not those of the pairs that are set, removed or shown. -/
theorem rows_bounded_by_clients {normalize : String → String} (laws : NormalForm normalize)
    {mapping : Mapping} (checked : mapping.Checked normalize) {store : Store}
    (made : ofMapping mapping = .ok store)
    (plain : ∀ column ∈ mapping.layout.allColumns, Sql.isQualified column = false)
    (distinct : (mapping.layout.allColumns.map Sql.foldName).Nodup)
    (here : Database.IsHere mapping.table) {rows : List Row} {connection : Connection}
    (holds : Holds mapping rows connection)
    (single : ∀ owner key, rows.countP (mapping.layout.isAt (freshTable mapping) owner key) ≤ 1)
    {meaning : PatternMeaning} (requests : List (List Setting))
    (taken : ∀ settings ∈ requests, ∀ setting ∈ settings, setting.Taken meaning)
    (schedule : List Nat) :
    let final := Shared.run (Connection.executor meaning)
      ⟨requests.map (settle store), connection⟩ schedule
    (∀ program ∈ final.programs, program.isFailed = false) ∧
      ∃ after, Holds mapping after final.state ∧ ∀ owner key,
        (Takes meaning owner → Takes meaning key → Shows meaning store final.state owner key
          (after.countP (mapping.layout.isAt (freshTable mapping) owner key))) ∧
        after.countP (mapping.layout.isAt (freshTable mapping) owner key) ≤
          max 1 (requests.countP fun settings => settings.any (·.sets (owner, key))) ∧
        (rows.countP (mapping.layout.isAt (freshTable mapping) owner key) = 1 →
          (∀ settings ∈ requests, ∀ setting ∈ settings,
            setting.removes (owner, key) = false) →
          after.countP (mapping.layout.isAt (freshTable mapping) owner key) = 1) := by
  intro final
  obtain ⟨maps, rfl⟩ := (ofMapping_yields mapping).of_ok made
  have sound := checked.sound laws
  have separate : mapping.Separate := ⟨maps, plain, distinct, here⟩
  have programs : requests.map (settle (Store.mk mapping)) =
      (requests.map Client.idle).map (Client.program (Store.mk mapping)) := by
    rw [List.map_map]
    rfl
  have start : Stage mapping meaning ⟨requests.map (settle (Store.mk mapping)), connection⟩
      (requests.map Client.idle, rows) := ⟨programs, List.forall_mem_map.mpr taken, holds⟩
  obtain ⟨⟨clients, after⟩, steps, stage⟩ := start.run sound separate schedule
  refine ⟨fun program member => ?_, after, stage.holds, fun owner key => ⟨?_, ?_, ?_⟩⟩
  · rw [stage.programs] at member
    obtain ⟨client, _, rfl⟩ := List.mem_map.mp member
    exact stage.holds.isFailed_program sound separate client
  · exact fun ownerTaken keyTaken => stage.holds.shows sound separate ownerTaken keyTaken
  · have nobody : (requests.map Client.idle).countP (Client.waits (owner, key)) = 0 := by
      rw [List.countP_map, List.countP_eq_zero]
      exact fun _ _ => Bool.false_ne_true
    have setters : (requests.map Client.idle).countP (Client.sets (owner, key)) =
        requests.countP fun settings => settings.any (·.sets (owner, key)) := by
      rw [List.countP_map]
      rfl
    have bounded : Bounded mapping (owner, key)
        (requests.countP fun settings => settings.any (·.sets (owner, key)))
        (requests.map Client.idle, rows) :=
      ⟨Nat.le_of_eq setters, by
        change rows.countP _ + (requests.map Client.idle).countP _ ≤ _
        rw [nobody]
        exact (single owner key).trans (Nat.le_max_left _ _)⟩
    exact (Nat.le_add_right _ _).trans (bounded.steps separate steps).rows
  · intro one keeps
    have kept : Kept mapping (owner, key) (requests.map Client.idle, rows) :=
      ⟨one, List.forall_mem_map.mpr fun settings member =>
        ⟨rfl, List.any_eq_false.mpr fun setting settingMember =>
          Bool.eq_false_iff.mp (keeps settings member setting settingMember)⟩⟩
    exact (kept.steps separate steps).row

theorem rows_bounded_by_clients_sample :
    let final := Shared.run (Connection.executor matcher?)
      ⟨[[.setString "u" "k" (some "1"), .setString "u" "new" (some "2")],
        [.setValue "u" "k" (.integer 3)]].map (settle (Store.mk Mapping.sample)),
        stored Mapping.sample [⟨"u", "k", "old"⟩]⟩ [0, 1, 0, 0]
    Shows matcher? (Store.mk Mapping.sample) final.state "u" "k" 1 ∧
      ∃ count, Shows matcher? (Store.mk Mapping.sample) final.state "u" "new" count ∧
        count ≤ 1 := by
  intro final
  have separate := Mapping.separate_sample
  have short : ∀ literal ∈ ["u", "k", "new"], Takes matcher? literal :=
    fun literal member => Regex.takes_matcher?
      ((by decide : ∀ literal ∈ ["u", "k", "new"], literal.utf8ByteSize ≤ Regex.maxLiteral) literal
        member)
  have taken : ∀ settings ∈ [[Setting.setString "u" "k" (some "1"),
        .setString "u" "new" (some "2")], [.setValue "u" "k" (.integer 3)]],
      ∀ setting ∈ settings, setting.Taken matcher? := by
    simp only [List.forall_mem_cons, List.not_mem_nil, false_imp_iff, implies_true, and_true]
    exact ⟨⟨⟨short _ (by decide), short _ (by decide)⟩, short _ (by decide), short _ (by decide)⟩,
      short _ (by decide), short _ (by decide)⟩
  obtain ⟨_, after, _, facts⟩ := rows_bounded_by_clients Identifier.normalForm_id
    Mapping.checked_sample rfl separate.plain separate.distinct separate.here
    (holds_stored separate [⟨"u", "k", "old"⟩]) (fun _ _ => List.countP_le_length)
    [[.setString "u" "k" (some "1"), .setString "u" "new" (some "2")],
      [.setValue "u" "k" (.integer 3)]] taken [0, 1, 0, 0]
  obtain ⟨shows, _, kept⟩ := facts "u" "k"
  obtain ⟨shown, bound, _⟩ := facts "u" "new"
  rw [kept (by decide) (by decide)] at shows
  exact ⟨shows (short "u" (by decide)) (short "k" (by decide)), _,
    shown (short "u" (by decide)) (short "new" (by decide)), bound⟩

/-- Two clients that both find no row of a pair insert one each. -/
theorem clients_duplicate_pair :
    let final := Shared.run (Connection.executor matcher?)
      ⟨[[.setString "u" "k" (some "1")], [.setString "u" "k" (some "1")]].map
        (settle (Store.mk Mapping.sample)), stored Mapping.sample []⟩ [0, 1, 0, 1]
    final.programs.all Program.isDone = true ∧
      (((Store.mk Mapping.sample).keys "u").run (Connection.executor matcher?) final.state).1 =
        .ok ["k", "k"] ∧
      (((Store.mk Mapping.sample).delete "u" "k").run (Connection.executor matcher?)
        final.state).1 = .ok 2 := by
  decide +kernel

end EntryStore.Store
