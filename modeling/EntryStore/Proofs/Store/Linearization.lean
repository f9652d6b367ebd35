import EntryStore.Proofs.History
import EntryStore.Proofs.Store.Refinement

/-!
# The value of a pair is a linearizable cell

Clients that set, remove and read the value of one owner and key see a cell that holds a text or
nothing.  Two of them that find no row insert one each, and the second row stands behind the
first, where no call shows it.  The call that has inserted it is then put in the order right
before the one that set the text for the first time after the last removal: it began before that
text was there to be read, and is overwritten at once.
-/

namespace EntryStore

open Sql (Connection PatternMeaning)
open Regex (Takes matcher?)
open Identifier (NormalForm)

/-- A call for the value of one owner and key. -/
inductive Access where
  | set (text? : Option String)
  | get
  | contains
  deriving DecidableEq, Repr

namespace Access

/-- The call to a store. -/
def call (owner key : String) : Access → Call
  | set text? => .setString owner key text?
  | get => .getString owner key
  | contains => .contains owner key

/-- What is answered where a text, or none, has been set last, and what has been set after it. -/
def apply (held : Option String) : Access → Answer × Option String
  | set text? => (.done, text?)
  | get => (.text held, held)
  | contains => (.truth held.isSome, held)

end Access

/-! ## Orders -/

/-- An order of calls that have ended after some turns, with what it leaves held and the turns in
which the calls that have still to insert a row have begun.  Where a text is held, there is a call
that set one and from which on all calls ended after those had begun. -/
structure Ordered (held : Option String) (clock : Nat) (pending : List Nat)
    (order : List (Record Access Answer)) : Prop where
  replays : Replays Access.apply none order held
  timely : Timely order
  past : ∀ record ∈ order, record.began < clock
  begun : ∀ began ∈ pending, began < clock
  slot : held ≠ none → ∃ early first late, order = early ++ first :: late ∧
    (∃ text, first.call = .set (some text)) ∧
    ∀ began ∈ pending, ∀ record ∈ first :: late, began ≤ record.ended

namespace Ordered

variable {held : Option String} {clock : Nat} {pending : List Nat}
variable {order : List (Record Access Answer)}

theorem start : Ordered none 0 [] [] where
  replays := .nil
  timely := .nil
  past := List.forall_mem_nil _
  begun := List.forall_mem_nil _
  slot := fun some => absurd rfl some

variable (ordered : Ordered held clock pending order)
include ordered

theorem pass : Ordered held (clock + 1) pending order where
  replays := ordered.replays
  timely := ordered.timely
  past := fun record member => Nat.lt_succ_of_lt (ordered.past record member)
  begun := fun began member => Nat.lt_succ_of_lt (ordered.begun began member)
  slot := ordered.slot

theorem fewer {others : List Nat} (subset : ∀ began ∈ others, began ∈ pending) :
    Ordered held clock others order where
  replays := ordered.replays
  timely := ordered.timely
  past := ordered.past
  begun := fun began member => ordered.begun began (subset began member)
  slot := by
    intro some
    obtain ⟨early, first, late, split, sets, behind⟩ := ordered.slot some
    exact ⟨early, first, late, split, sets, fun began member => behind began (subset began member)⟩

/-- A call begins to insert where nothing is held. -/
theorem begin (nothing : held = none) : Ordered held (clock + 1) (clock :: pending) order where
  replays := ordered.replays
  timely := ordered.timely
  past := ordered.pass.past
  begun := List.forall_mem_cons.mpr ⟨Nat.lt_succ_self clock, ordered.pass.begun⟩
  slot := fun some => absurd nothing some

/-- A call of one turn comes last. -/
theorem append (record : Record Access Answer)
    (answered : record.outcome = .ok (Access.apply held record.call).1)
    (began : record.began = clock) (ended : record.ended = clock) :
    Ordered (Access.apply held record.call).2 (clock + 1) pending (order ++ [record]) where
  replays := ordered.replays.append (.singleton answered)
  timely := ordered.timely.append fun earlier member =>
    ended ▸ Nat.le_of_lt (ordered.past earlier member)
  past := List.forall_mem_append.mpr
    ⟨ordered.pass.past, List.forall_mem_singleton.mpr (began ▸ Nat.lt_succ_self clock)⟩
  begun := ordered.pass.begun
  slot := by
    intro some
    have last : ∀ began ∈ pending, began ≤ record.ended :=
      fun began member => ended ▸ Nat.le_of_lt (ordered.begun began member)
    -- The slot stays where it is, unless the call itself has set the text.
    have kept : held ≠ none → ∃ early first late,
        order ++ [record] = early ++ first :: late ∧
        (∃ text, first.call = .set (.some text)) ∧
        ∀ began ∈ pending, ∀ record ∈ first :: late, began ≤ record.ended := by
      intro some
      obtain ⟨early, first, late, rfl, sets, behind⟩ := ordered.slot some
      refine ⟨early, first, late ++ [record], by simp, sets, fun began member => ?_⟩
      rw [← List.cons_append, List.forall_mem_append]
      exact ⟨behind began member, List.forall_mem_singleton.mpr (last began member)⟩
    cases call : record.call with
    | get =>
        rw [call] at some
        exact kept some
    | contains =>
        rw [call] at some
        exact kept some
    | set text? =>
        cases text? with
        | none =>
            rw [call] at some
            exact absurd rfl some
        | some text =>
            refine ⟨order, record, [], rfl, ⟨text, call⟩, fun began member => ?_⟩
            exact List.forall_mem_singleton.mpr (last began member)

/-- A call that inserts a row comes last where nothing is held, and else before the text that is
there was set. -/
theorem insert (record : Record Access Answer) {text : String}
    (sets : record.call = .set (some text)) (answered : record.outcome = .ok .done)
    (waited : record.began ∈ pending) (ended : record.ended = clock) :
    ∃ others, others.Perm (order ++ [record]) ∧
      Ordered (held.or (some text)) (clock + 1) pending others := by
  have began : record.began < clock + 1 := Nat.lt_succ_of_lt (ordered.begun _ waited)
  have last : ∀ began ∈ pending, began ≤ record.ended :=
    fun began member => ended ▸ Nat.le_of_lt (ordered.begun began member)
  have legal : ∀ before, record.outcome = .ok (Access.apply before record.call).1 := by
    intro before
    rw [sets, answered]
    rfl
  cases held with
  | none =>
      have replays := ordered.replays.append (.singleton (legal none))
      rw [sets] at replays
      refine ⟨order ++ [record], .refl _, replays, ?_, ?_, ordered.pass.begun, ?_⟩
      · exact ordered.timely.append fun earlier member =>
          ended ▸ Nat.le_of_lt (ordered.past earlier member)
      · exact List.forall_mem_append.mpr
          ⟨ordered.pass.past, List.forall_mem_singleton.mpr began⟩
      · intro _
        refine ⟨order, record, [], rfl, ⟨text, sets⟩, fun began member => ?_⟩
        exact List.forall_mem_singleton.mpr (last began member)
  | some shown =>
      obtain ⟨early, first, late, rfl, firstSets, behind⟩ := ordered.slot (Option.some_ne_none _)
      obtain ⟨firstText, firstCall⟩ := firstSets
      refine ⟨early ++ record :: first :: late, ?_, ?_, ?_, ?_, ordered.pass.begun, ?_⟩
      · have front : (early ++ record :: first :: late).Perm (record :: (early ++ first :: late)) :=
          List.perm_middle
        exact front.trans (List.perm_append_singleton _ _).symm
      · -- The next call sets another text, so that the one before makes no difference.
        obtain ⟨between, front, back⟩ := ordered.replays.split
        cases back with
        | cons firstAnswered rest =>
            rw [firstCall] at firstAnswered rest
            refine front.append (.cons (legal between) (.cons ?_ ?_))
            · rw [firstCall]
              exact firstAnswered
            · rw [firstCall]
              exact rest
      · refine ordered.timely.insert (fun earlier member => ?_) (behind _ waited)
        exact ended ▸ Nat.le_of_lt (ordered.past earlier (List.mem_append_left _ member))
      · have past := List.forall_mem_append.mp ordered.pass.past
        exact List.forall_mem_append.mpr ⟨past.1, List.forall_mem_cons.mpr ⟨began, past.2⟩⟩
      · intro _
        refine ⟨early, record, first :: late, rfl, ⟨text, sets⟩, fun began member => ?_⟩
        exact List.forall_mem_cons.mpr ⟨last began member, behind began member⟩

end Ordered

namespace Store

/-! ## The text of a pair -/

/-- The text that a store shows for a pair: the one in its first row. -/
def held (mapping : Mapping) (owner key : String) (rows : List Row) : Option String :=
  (rows.find? (mapping.layout.isAt (freshTable mapping) owner key)).bind
    (mapping.layout.cells (freshTable mapping) · .value)

section Held

variable {mapping : Mapping} {rows : List Row} (owner key : String)

/-- A text is shown if there is a row. -/
theorem isSome_held (admissible : ∀ row ∈ rows, Admissible mapping row) :
    (held mapping owner key rows).isSome =
      rows.any (mapping.layout.isAt (freshTable mapping) owner key) := by
  rw [← List.isSome_find?, held]
  cases found : rows.find? (mapping.layout.isAt (freshTable mapping) owner key) with
  | none => rfl
  | some row => exact (admissible row (List.mem_of_find?_eq_some found)).present .value

theorem held_eq_none_iff (admissible : ∀ row ∈ rows, Admissible mapping row) :
    held mapping owner key rows = none ↔
      rows.countP (mapping.layout.isAt (freshTable mapping) owner key) = 0 := by
  rw [← Option.not_isSome_iff_eq_none, isSome_held owner key admissible, List.countP_eq_zero]
  simp

theorem held_rewrite (separate : mapping.Separate)
    (admissible : ∀ row ∈ rows, Admissible mapping row) (text : String)
    (present : rows.countP (mapping.layout.isAt (freshTable mapping) owner key) ≠ 0) :
    held mapping owner key (mapping.layout.rewriteRows (freshTable mapping) owner key text rows) =
      some text := by
  have shown := find?_storeRows separate.usable admissible owner key text
  rwa [Layout.storeRows, if_neg present] at shown

/-- A row behind others of its pair is not shown. -/
theorem held_insert (separate : mapping.Separate)
    (admissible : ∀ row ∈ rows, Admissible mapping row) (text : String) :
    held mapping owner key
        (rows ++ [mapping.layout.bindingRow (freshTable mapping) ⟨owner, key, text⟩]) =
      (held mapping owner key rows).or (some text) := by
  by_cases absent : rows.countP (mapping.layout.isAt (freshTable mapping) owner key) = 0
  · have shown := find?_storeRows separate.usable admissible owner key text
    rw [Layout.storeRows, if_pos absent] at shown
    rw [(held_eq_none_iff owner key admissible).mpr absent]
    exact shown
  · obtain ⟨shown, same⟩ := Option.ne_none_iff_exists'.mp
      (mt (held_eq_none_iff owner key admissible).mp absent)
    rw [same, Option.some_or, ← same]
    cases found : rows.find? (mapping.layout.isAt (freshTable mapping) owner key) with
    | none =>
        rw [held, found] at same
        cases same
    | some row => rw [held, held, List.find?_append, found, Option.some_or]

theorem held_remove :
    held mapping owner key
      (rows.filter fun row => !mapping.layout.isAt (freshTable mapping) owner key row) = none := by
  have absent :
      (rows.filter fun row => !mapping.layout.isAt (freshTable mapping) owner key row).find?
        (mapping.layout.isAt (freshTable mapping) owner key) = none := by
    rw [List.find?_eq_none]
    intro row member
    simpa using List.of_mem_filter member
  rw [held, absent]
  rfl

end Held

/-! ## Turns -/

/-- What is left of a call that sets a text after its update has found no row. -/
def insertion (store : Store) (owner key text : String) : Program Answer :=
  (store.affected (insertQuery owner key (.text text))).bind fun _ => .done .done

section Single

variable {mapping : Mapping} (maps : ∀ field, mapping.layout.Maps field)
include maps

theorem isSingle_rows {query : Query} (asks : query.Asks) :
    ((Store.mk mapping).rows (.ok query)).IsSingle := by
  rw [rows_eq (Query.complete_of_maps maps asks)]
  intro rows
  rfl

theorem isSingle_affected {query : Query} (asks : query.Asks) :
    ((Store.mk mapping).affected (.ok query)).IsSingle := by
  rw [affected_eq (Query.complete_of_maps maps asks)]
  intro count
  rfl

theorem isSingle_delete (owner key : String) :
    ((Store.mk mapping).delete owner key).IsSingle := by
  refine isSingle_affected maps ?_
  trivial

theorem isSingle_getString (owner key : String) :
    ((Store.mk mapping).getString owner key).IsSingle := by
  refine (isSingle_rows maps ?_).finish _
  exact List.cons_ne_nil _ _

theorem isSingle_contains (owner key : String) :
    ((Store.mk mapping).contains owner key).IsSingle := by
  refine (isSingle_rows maps ?_).finish _
  exact List.cons_ne_nil _ _

/-- An insertion has still to send its statement. -/
theorem outcome?_insertion (owner key text : String) :
    (insertion (Store.mk mapping) owner key text).outcome? = none := by
  have complete : (Query.insert [⟨.owner, .text owner⟩, ⟨.key, .text key⟩,
      ⟨.value, .text text⟩]).Complete mapping.layout :=
    Query.complete_of_maps maps (List.cons_ne_nil _ _)
  change (((Store.mk mapping).affected (.ok _)).bind _).outcome? = none
  rw [affected_eq complete]
  rfl

end Single

section Turns

variable {mapping : Mapping} {rows : List Row} {connection : Connection} {meaning : PatternMeaning}
variable (sound : mapping.Sound) (separate : mapping.Separate)
  (holds : Holds mapping rows connection)
include sound separate holds

theorem Holds.advance_insertion (owner key text : String) :
    ∃ rest others after,
      (insertion (Store.mk mapping) owner key text).advance (Connection.executor meaning)
        connection = (rest, after) ∧
      rest.outcome? = some (.ok .done) ∧ Holds mapping others after ∧
      held mapping owner key others = (held mapping owner key rows).or (some text) := by
  obtain ⟨counts, after⟩ := holds.insert_pair meaning sound separate owner key (.text text)
  refine ⟨_, _, _, counts.advance _, rfl, after, ?_⟩
  exact held_insert owner key separate holds.admissible text

/-- The first turn of a call answers it and leaves its text, or nothing is there to update. -/
theorem Holds.advance_access {owner key : String} (ownerTaken : Takes meaning owner)
    (keyTaken : Takes meaning key) (access : Access) :
    ∃ rest others after,
      ((Store.mk mapping).perform (access.call owner key)).advance (Connection.executor meaning)
        connection = (rest, after) ∧
      Holds mapping others after ∧
      ((rest.outcome? = some (.ok (access.apply (held mapping owner key rows)).1) ∧
          held mapping owner key others = (access.apply (held mapping owner key rows)).2) ∨
        ∃ text, access = .set (some text) ∧ held mapping owner key rows = none ∧
          held mapping owner key others = none ∧
          rest = insertion (Store.mk mapping) owner key text) := by
  cases access with
  | set text? =>
      cases text? with
      | none =>
          obtain ⟨counts, removed⟩ := holds.delete_pair sound separate ownerTaken keyTaken
          have single := (isSingle_delete separate.maps owner key).finish fun _ => ()
          obtain ⟨rest, advanced, ends⟩ := (single.finish fun _ => Answer.done).advance
            (run_finish (run_finish counts.run fun _ => ()) fun _ => Answer.done)
          exact ⟨rest, _, _, advanced, removed, Or.inl ⟨ends, held_remove owner key⟩⟩
      | some text =>
          obtain ⟨after, advanced, rewritten⟩ := holds.advance_setValue sound separate ownerTaken
            keyTaken (.text text) fun _ => .done Answer.done
          by_cases absent : rows.countP (mapping.layout.isAt (freshTable mapping) owner key) = 0
          · have nothing := (held_eq_none_iff owner key holds.admissible).mpr absent
            rw [if_pos absent] at advanced
            rw [Layout.rewriteRows_of_absent _ absent] at rewritten
            exact ⟨_, rows, after, advanced, rewritten, Or.inr ⟨text, rfl, nothing, nothing, rfl⟩⟩
          · rw [if_neg absent] at advanced
            refine ⟨_, _, after, advanced, rewritten, Or.inl ⟨rfl, ?_⟩⟩
            exact held_rewrite owner key separate holds.admissible text absent
  | get =>
      have single := isSingle_getString separate.maps owner key
      obtain ⟨rest, advanced, ends⟩ := (single.finish Answer.text).advance
        (run_finish (holds.run_getString sound separate ownerTaken keyTaken) Answer.text)
      exact ⟨rest, rows, connection, advanced, holds, Or.inl ⟨ends, rfl⟩⟩
  | contains =>
      have single := isSingle_contains separate.maps owner key
      obtain ⟨rest, advanced, ends⟩ := (single.finish Answer.truth).advance
        (run_finish (holds.run_contains sound separate ownerTaken keyTaken) Answer.truth)
      rw [← isSome_held owner key holds.admissible] at ends
      exact ⟨rest, rows, connection, advanced, holds, Or.inl ⟨ends, rfl⟩⟩

end Turns

/-! ## Schedules -/

/-- The program of a call for the value of an owner and a key. -/
def access (store : Store) (owner key : String) (access : Access) : Program Answer :=
  store.perform (access.call owner key)

/-- The table holds rows, all calls that run have a row to insert, and the calls that have ended
are put in an order. -/
structure Settled (mapping : Mapping) (owner key : String)
    (traffic : Traffic Connection Access Answer) (rows : List Row)
    (order : List (Record Access Answer)) : Prop where
  holds : Holds mapping rows traffic.state
  inserting : ∀ running ∈ traffic.running, ∃ text, running.call = .set (some text) ∧
    running.program = insertion (Store.mk mapping) owner key text
  complete : order.Perm traffic.history
  ordered : Ordered (held mapping owner key rows) traffic.clock
    (traffic.running.map Running.began) order

section Schedules

variable {mapping : Mapping} (sound : mapping.Sound) (separate : mapping.Separate)
variable {owner key : String} {traffic : Traffic Connection Access Answer} {rows : List Row}
variable {order : List (Record Access Answer)} {meaning : PatternMeaning}
include sound separate

/-- A call that inserts its row in this turn finds a place in the order. -/
theorem Settled.turn_insertion (settled : Settled mapping owner key traffic rows order)
    {index : Nat} {running : Running Access Answer} {waiting : List Access}
    (now : traffic.callers[index]?.bind
      (Caller.current ((Store.mk mapping).access owner key) traffic.clock) =
        some (running, waiting))
    (runs : running ∈ traffic.running) :
    ∃ rows order, Settled mapping owner key (traffic.turn (Connection.executor meaning)
      ((Store.mk mapping).access owner key) index) rows order := by
  obtain ⟨holds, inserting, complete, ordered⟩ := settled
  have fewer := Traffic.running_set_subset traffic.callers index waiting
  obtain ⟨text, sets, program⟩ := inserting running runs
  obtain ⟨rest, others, after, advanced, ends, stored, shown⟩ :=
    holds.advance_insertion sound separate owner key text
  obtain ⟨placed, same, ordered⟩ := ordered.insert
    ⟨index, running.call, running.began, traffic.clock, .ok .done⟩ sets rfl
    (List.mem_map_of_mem runs) rfl
  rw [← program] at advanced
  rw [← shown] at ordered
  rw [Traffic.turn_end now advanced ends]
  exact ⟨others, placed, stored, fun other member => inserting other (fewer member),
    same.trans (complete.append_right _), ordered.fewer (List.map_subset _ fewer)⟩

variable (ownerTaken : Takes meaning owner) (keyTaken : Takes meaning key)
include ownerTaken keyTaken

/-- A call that begins in this turn comes last in the order, or has still to insert its row. -/
theorem Settled.turn_access (settled : Settled mapping owner key traffic rows order)
    {index : Nat} {access : Access} {waiting : List Access}
    (now : traffic.callers[index]?.bind
      (Caller.current ((Store.mk mapping).access owner key) traffic.clock) =
        some (⟨access, traffic.clock, (Store.mk mapping).access owner key access⟩, waiting)) :
    ∃ rows order, Settled mapping owner key (traffic.turn (Connection.executor meaning)
      ((Store.mk mapping).access owner key) index) rows order := by
  obtain ⟨holds, inserting, complete, ordered⟩ := settled
  obtain ⟨rest, others, after, advanced, stored, ends | waits⟩ :=
    holds.advance_access sound separate ownerTaken keyTaken access
  · obtain ⟨answered, shown⟩ := ends
    have fewer := Traffic.running_set_subset traffic.callers index waiting
    have ordered := ordered.append ⟨index, access, traffic.clock, traffic.clock,
      .ok (access.apply (held mapping owner key rows)).1⟩ rfl rfl rfl
    rw [← shown] at ordered
    rw [Traffic.turn_end now advanced answered]
    exact ⟨others, _, stored, fun other member => inserting other (fewer member),
      complete.append_right _, ordered.fewer (List.map_subset _ fewer)⟩
  · obtain ⟨text, sets, nothing, shown, rfl⟩ := waits
    have begun := ordered.begin nothing
    rw [nothing, ← shown] at begun
    rw [Traffic.turn_on now advanced (outcome?_insertion separate.maps owner key text)]
    refine ⟨others, order, stored, ?_, complete, begun.fewer ?_⟩
    · intro other member
      rcases Traffic.mem_running_set member with earlier | new
      · exact inserting other earlier
      · cases new
        exact ⟨text, sets, rfl⟩
    · intro began member
      obtain ⟨other, otherMember, rfl⟩ := List.mem_map.mp member
      rcases Traffic.mem_running_set otherMember with earlier | new
      · exact List.mem_cons_of_mem _ (List.mem_map_of_mem earlier)
      · cases new
        exact List.mem_cons_self

/-- A turn leaves the calls that have ended in an order. -/
theorem Settled.turn (settled : Settled mapping owner key traffic rows order) (index : Nat) :
    ∃ rows order, Settled mapping owner key (traffic.turn (Connection.executor meaning)
      ((Store.mk mapping).access owner key) index) rows order := by
  cases now : traffic.callers[index]?.bind
      (Caller.current ((Store.mk mapping).access owner key) traffic.clock) with
  | none =>
      rw [Traffic.turn_idle now]
      exact ⟨rows, order, settled.holds, settled.inserting, settled.complete,
        settled.ordered.pass⟩
  | some entry =>
      obtain ⟨running, waiting⟩ := entry
      obtain ⟨caller, found, current⟩ := Option.bind_eq_some_iff.mp now
      rcases Caller.running_of_current current with runs | ⟨access, rfl⟩
      · have member : running ∈ traffic.running :=
          List.mem_filterMap.mpr ⟨caller, List.mem_of_getElem? found, runs⟩
        exact settled.turn_insertion sound separate now member
      · exact settled.turn_access sound separate ownerTaken keyTaken now

theorem Settled.run (settled : Settled mapping owner key traffic rows order)
    (schedule : List Nat) :
    ∃ rows order, Settled mapping owner key (traffic.run (Connection.executor meaning)
      ((Store.mk mapping).access owner key) schedule) rows order := by
  induction schedule generalizing traffic rows order with
  | nil => exact ⟨rows, order, settled⟩
  | cons index schedule ih =>
      obtain ⟨rows, order, settled⟩ := settled.turn sound separate ownerTaken keyTaken index
      exact ih settled

end Schedules

/-- Whatever turns clients take that set, remove and read the value of a pair without a row, their
calls are linearizable: the calls that have ended can be put into an order that respects time, and
in which each answers according to the text that was set last before it.  No call is lost.
Patterns may be refused, but not those of the pair. -/
theorem accesses_linearizable {normalize : String → String} (laws : NormalForm normalize)
    {mapping : Mapping} (checked : mapping.Checked normalize) {store : Store}
    (made : ofMapping mapping = .ok store)
    (plain : ∀ column ∈ mapping.layout.allColumns, Sql.isQualified column = false)
    (distinct : (mapping.layout.allColumns.map Sql.foldName).Nodup)
    (here : Sql.Database.IsHere mapping.table) {rows : List Row} {connection : Connection}
    (holds : Holds mapping rows connection) {meaning : PatternMeaning} {owner key : String}
    (ownerTaken : Takes meaning owner) (keyTaken : Takes meaning key)
    (absent : rows.countP (mapping.layout.isAt (freshTable mapping) owner key) = 0)
    (requests : List (List Access)) (schedule : List Nat) :
    let final := (Traffic.start requests connection).run (Connection.executor meaning)
      (store.access owner key) schedule
    (∀ index, final.callsOf index = requests[index]?.getD []) ∧
      ∃ order, Linearizes Access.apply none final.history order := by
  intro final
  obtain ⟨maps, rfl⟩ := (ofMapping_yields mapping).of_ok made
  have sound := checked.sound laws
  have separate : mapping.Separate := ⟨maps, plain, distinct, here⟩
  have nothing : held mapping owner key rows = none :=
    (held_eq_none_iff owner key holds.admissible).mpr absent
  have idle : (Traffic.start requests connection :
      Traffic Connection Access Answer).running = [] := by
    simp [Traffic.running, Traffic.start]
  have settled : Settled mapping owner key (Traffic.start requests connection) rows [] := by
    refine ⟨holds, ?_, .refl _, ?_⟩
    · rw [idle]
      exact List.forall_mem_nil _
    · rw [idle, nothing]
      exact .start
  constructor
  · intro index
    exact (Traffic.callsOf_run _ schedule index).trans (Traffic.callsOf_start requests _ index)
  · obtain ⟨_, order, settled⟩ := settled.run sound separate ownerTaken keyTaken schedule
    exact ⟨order, settled.complete, settled.ordered.timely, _, settled.ordered.replays⟩

/-- Both clients find no row.  The second inserts its text first, so that the row of the first
stands behind it, and both read the text of the second. -/
theorem accesses_linearizable_sample :
    let final := (Traffic.start [[.set (some "1"), .get], [.set (some "2"), .get]]
      (stored Mapping.sample [])).run (Connection.executor matcher?)
        ((Store.mk Mapping.sample).access "u" "k") [0, 1, 1, 0, 0, 1]
    final.history =
        [⟨1, .set (some "2"), 1, 2, .ok .done⟩, ⟨0, .set (some "1"), 0, 3, .ok .done⟩,
          ⟨0, .get, 4, 4, .ok (.text (some "2"))⟩, ⟨1, .get, 5, 5, .ok (.text (some "2"))⟩] ∧
      ∃ order, Linearizes Access.apply none final.history order := by
  intro final
  have separate := Mapping.separate_sample
  constructor
  · decide +kernel
  · exact (accesses_linearizable Identifier.normalForm_id Mapping.checked_sample rfl
      separate.plain separate.distinct separate.here (holds_stored separate [])
      (Regex.takes_matcher? (by decide)) (Regex.takes_matcher? (by decide)) List.countP_nil
      [[.set (some "1"), .get], [.set (some "2"), .get]] [0, 1, 1, 0, 0, 1]).2

end Store

end EntryStore
