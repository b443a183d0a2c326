/-
The event stores agree.

The maps of the in-memory store hold the rows of the tables of the other one,
in the same order, under keys that tell their scopes, kinds and identities
apart; a stream head says how long its stream is and whether it has a terminal
event.  Every call keeps this and gives the same answer on both sides.
-/

import AnnaAgent.Foundation.Agreement
import AnnaAgent.EventStore.Sqlite

namespace AnnaAgent.EventStore

open Foundation

def SqliteEventStore.streamEvents (store : SqliteEventStore) (scope : ChannelScope)
    (streamId : StreamId) : List Event :=
  store.events.table.select (fun row => row.scope = scope ∧ row.streamId = streamId)

def eventEntry (event : Event) : String × Event :=
  (scopedKey event.scope "event" event.id, event)

/-- A command is stored under its own identity and under that of its run. -/
def commandEntries (command : StartRun) : List (String × StartRun) :=
  [(scopedKey command.toChannelScope "command" command.commandId, command),
    (scopedKey command.toChannelScope "run" command.runId, command)]

def sessionEntry (session : ChannelSession) : String × ChannelSession :=
  (scopedKey session.toChannelScope "channel-session" "", session)

def projectionEntry (row : ProjectionRow) : String × ProjectionSnapshot :=
  (InMemoryEventStore.projectionKey row.toChannelScope row.projector row.streamId,
    row.toProjectionSnapshot)

def receiptEntry (receipt : ProjectionReceipt) : String :=
  InMemoryEventStore.receiptKey receipt.toChannelScope receipt.projector receipt.streamId
    receipt.eventId

/-- The maps hold the rows of the tables. -/
structure Simulates (memory : InMemoryEventStore) (database : SqliteEventStore) : Prop where
  eventsById : memory.eventsById.entries = database.events.table.rows.map eventEntry
  eventsByStream : ∀ scope streamId,
    memory.streamEvents scope streamId = database.streamEvents scope streamId
  numbered : ∀ (scope : ChannelScope) (streamId : StreamId) (index : Nat) (event : Event),
    (database.streamEvents scope streamId)[index]? = some event → event.seq = index
  versions : ∀ scope streamId,
    database.version scope streamId = (database.streamEvents scope streamId).length
  terminated : ∀ scope streamId, database.terminated scope streamId =
    (database.streamEvents scope streamId).any (fun event => isTerminalEvent event.type)
  commands : memory.commandsById.entries = database.commands.table.rows.flatMap commandEntries
  sessions : memory.channelSessions.entries = database.channelSessions.rows.map sessionEntry
  projections : memory.projections.entries = database.projections.rows.map projectionEntry
  receipts : memory.projectionReceipts = database.projectionReceipts.rows.map receiptEntry
  receipted : ∀ receipt ∈ database.projectionReceipts.rows,
    (database.findProjection receipt.toChannelScope receipt.projector receipt.streamId).isSome =
      true

theorem simulates_empty : Simulates .empty .empty :=
  { eventsById := rfl
    eventsByStream := fun _ _ => rfl
    numbered := by
      intro scope streamId index event found
      cases found
    versions := fun _ _ => rfl
    terminated := fun _ _ => rfl
    commands := rfl
    sessions := rfl
    projections := rfl
    receipts := rfl
    receipted := by
      intro receipt member
      exact absurd member List.not_mem_nil }

theorem find?_congr {α : Type} {rows : List α} {p q : α → Bool} (same : ∀ row, p row = q row) :
    rows.find? p = rows.find? q := by
  rw [funext same]

theorem findSome?_guard {α β : Type} (rows : List α) (p : α → Bool) (value : α → β) :
    rows.findSome? (fun row => if p row = true then some (value row) else none) =
      (rows.find? p).map value := by
  induction rows with
  | nil => rfl
  | cons row rest ih =>
    rw [List.findSome?_cons, List.find?_cons]
    cases isRow : p row with
    | true => rfl
    | false => exact ih

section Lookups

variable {memory : InMemoryEventStore} {database : SqliteEventStore}

theorem find_event (simulates : Simulates memory database) (scope : ChannelScope)
    (eventId : EventId) :
    memory.eventsById.get? (scopedKey scope "event" eventId) = database.findEvent scope eventId := by
  rw [OrderedMap.get?_of_rows simulates.eventsById, Option.map_id']
  refine find?_congr ?_
  intro row
  rw [decide_eq_decide, scopedKey_inj]
  unfold CanonicalEvent.identity
  rw [Prod.mk.injEq]
  exact ⟨fun same => ⟨same.1, same.2.2⟩, fun same => ⟨same.1, rfl, same.2⟩⟩

theorem command_ne_run : "command" ≠ "run" := by
  decide

theorem find_command (simulates : Simulates memory database) (scope : ChannelScope)
    (commandId : CommandId) :
    memory.commandsById.get? (scopedKey scope "command" commandId) =
      database.commands.table.find? (scope, commandId) := by
  unfold OrderedMap.get?
  rw [simulates.commands, List.find?_flatMap]
  have each : (fun row : StartRun => (commandEntries row).find? (fun entry =>
      decide (entry.1 = scopedKey scope "command" commandId))) =
        fun row => if decide (row.commandKey = (scope, commandId)) = true then
          some (scopedKey scope "command" commandId, row) else none := by
    funext row
    unfold commandEntries StartRun.commandKey
    rw [List.find?_cons, List.find?_singleton]
    have other : decide (scopedKey row.toChannelScope "run" row.runId =
        scopedKey scope "command" commandId) = false := by
      rw [decide_eq_false_iff_not, scopedKey_inj]
      exact fun same => command_ne_run same.2.1.symm
    rw [other, if_neg (by decide)]
    by_cases isRow : (row.toChannelScope, row.commandId) = (scope, commandId)
    · have same := Prod.mk.inj isRow
      rw [if_pos (decide_eq_true isRow), same.1, same.2, decide_eq_true rfl]
    · have notKey : decide (scopedKey row.toChannelScope "command" row.commandId =
          scopedKey scope "command" commandId) = false := by
        rw [decide_eq_false_iff_not, scopedKey_inj]
        exact fun same => isRow (Prod.ext same.1 same.2.2)
      rw [notKey, decide_eq_false isRow]
      rfl
  rw [each, findSome?_guard, Option.map_map]
  exact congrFun Option.map_id _

theorem find_run (simulates : Simulates memory database) (scope : ChannelScope) (runId : RunId) :
    memory.commandsById.get? (scopedKey scope "run" runId) = database.getRunCommand scope runId := by
  unfold OrderedMap.get?
  rw [simulates.commands, List.find?_flatMap]
  have each : (fun row : StartRun => (commandEntries row).find? (fun entry =>
      decide (entry.1 = scopedKey scope "run" runId))) =
        fun row => if decide (row.runKey = (scope, runId)) = true then
          some (scopedKey scope "run" runId, row) else none := by
    funext row
    unfold commandEntries StartRun.runKey
    rw [List.find?_cons, List.find?_singleton]
    have other : decide (scopedKey row.toChannelScope "command" row.commandId =
        scopedKey scope "run" runId) = false := by
      rw [decide_eq_false_iff_not, scopedKey_inj]
      exact fun same => command_ne_run same.2.1
    rw [other]
    by_cases isRow : (row.toChannelScope, row.runId) = (scope, runId)
    · have same := Prod.mk.inj isRow
      rw [if_pos (decide_eq_true isRow), same.1, same.2, decide_eq_true rfl]
      rfl
    · have notKey : decide (scopedKey row.toChannelScope "run" row.runId =
          scopedKey scope "run" runId) = false := by
        rw [decide_eq_false_iff_not, scopedKey_inj]
        exact fun same => isRow (Prod.ext same.1 same.2.2)
      rw [notKey, decide_eq_false isRow]
      rfl
  rw [each, findSome?_guard, Option.map_map]
  exact congrFun Option.map_id _

theorem find_session (simulates : Simulates memory database) (scope : ChannelScope) :
    memory.channelSessions.get? (scopedKey scope "channel-session" "") =
      database.channelSessions.find? scope := by
  rw [OrderedMap.get?_of_rows simulates.sessions, Option.map_id']
  refine find?_congr ?_
  intro row
  rw [decide_eq_decide, scopedKey_inj]
  exact ⟨fun same => same.1, fun same => ⟨same, rfl, rfl⟩⟩

variable {secondProjector firstProjector : String} {secondStream : StreamId}

theorem projectionKey_inj {first second : ChannelScope} {firstStream : StreamId} :
    InMemoryEventStore.projectionKey first firstProjector firstStream =
        InMemoryEventStore.projectionKey second secondProjector secondStream ↔
      (first, firstProjector, firstStream) = (second, secondProjector, secondStream) := by
  unfold InMemoryEventStore.projectionKey
  rw [scopedKey_inj, String.append_right_inj, Prod.mk.injEq, Prod.mk.injEq]

theorem receiptKey_inj {first second : ChannelScope} {firstStream : StreamId}
    {firstId secondId : EventId} :
    InMemoryEventStore.receiptKey first firstProjector firstStream firstId =
        InMemoryEventStore.receiptKey second secondProjector secondStream secondId ↔
      (first, firstProjector, firstStream, firstId) =
        (second, secondProjector, secondStream, secondId) := by
  unfold InMemoryEventStore.receiptKey
  rw [scopedKey_inj, String.append_right_inj, Json.stableJson_eq_iff, Prod.mk.injEq, Prod.mk.injEq,
    Prod.mk.injEq]
  simp only [Json.Same, Json.sortKeys, Json.sortItems, Json.arr.injEq, List.cons.injEq,
    Json.str.injEq, and_true]

theorem find_projection (simulates : Simulates memory database) (scope : ChannelScope)
    (projector : String) (streamId : StreamId) :
    memory.loadProjection scope projector streamId =
      database.findProjection scope projector streamId := by
  unfold InMemoryEventStore.loadProjection SqliteEventStore.findProjection
  rw [OrderedMap.get?_of_rows simulates.projections]
  refine congrArg (Option.map ProjectionRow.toProjectionSnapshot) (find?_congr ?_)
  intro row
  rw [decide_eq_decide]
  exact projectionKey_inj

theorem mem_receipts (simulates : Simulates memory database) (scope : ChannelScope)
    (projector : String) (streamId : StreamId) (eventId : EventId) :
    InMemoryEventStore.receiptKey scope projector streamId eventId ∈ memory.projectionReceipts ↔
      (database.projectionReceipts.find? (scope, projector, streamId, eventId)).isSome = true := by
  rw [simulates.receipts, List.mem_map, ← Option.ne_none_iff_isSome, Ne, Table.find?_eq_none_iff,
    not_not, List.mem_map]
  constructor
  · rintro ⟨receipt, member, isKey⟩
    exact ⟨receipt, member, receiptKey_inj.1 isKey⟩
  · rintro ⟨receipt, member, isKey⟩
    exact ⟨receipt, member, receiptKey_inj.2 isKey⟩

end Lookups

/-! ### Events -/

section Events

variable {memory : InMemoryEventStore} {database : SqliteEventStore} {candidate : Event}

theorem insertEvent_rows (simulates : Simulates memory database)
    (fresh : database.findEvent candidate.scope candidate.id = none)
    (next : candidate.seq = (database.streamEvents candidate.scope candidate.streamId).length) :
    ∃ events : EventRows, database.events.insert? candidate = some events ∧
      events.table.rows = database.events.table.rows ++ [candidate] := by
  have freshIds : ∀ other ∈ database.events.table.rows, other.identity ≠ candidate.identity := by
    intro other member same
    exact List.find?_eq_none.1 fresh other member (decide_eq_true same)
  have freshPosition : database.events.table.find? candidate.position = none := by
    rw [Table.find?_eq_none_iff]
    intro taken
    obtain ⟨other, member, samePosition⟩ := List.mem_map.1 taken
    simp only [CanonicalEvent.position, Prod.mk.injEq] at samePosition
    have inStream : other ∈ database.streamEvents candidate.scope candidate.streamId :=
      (Table.mem_select _).2 ⟨member, samePosition.1, samePosition.2.1⟩
    obtain ⟨index, found⟩ := List.mem_iff_getElem?.1 inStream
    have bound := (List.getElem?_eq_some_iff.1 found).1
    have isIndex := simulates.numbered _ _ index other found
    omega
  obtain ⟨table, inserted⟩ := (Table.insert?_isSome_iff _ _).2 freshPosition
  unfold EventRows.insert?
  rw [dif_pos freshIds]
  split
  · rename_i table' isTable
    refine ⟨_, rfl, Table.insert?_rows isTable⟩
  · rename_i refused
    rw [inserted] at refused
    cases refused

theorem streamEvents_insert {events : EventRows}
    (isRows : events.table.rows = database.events.table.rows ++ [candidate])
    {heads : Table (ChannelScope × StreamId) StreamHead StreamHead.key} (scope : ChannelScope)
    (streamId : StreamId) :
    SqliteEventStore.streamEvents { database with events, streamHeads := heads } scope streamId =
      database.streamEvents scope streamId ++
        if (scope, streamId) = (candidate.scope, candidate.streamId) then [candidate] else [] := by
  unfold SqliteEventStore.streamEvents Table.select
  change events.table.rows.filter _ = _
  rw [isRows, List.filter_append, List.filter_singleton]
  congr 1
  by_cases isStream : (scope, streamId) = (candidate.scope, candidate.streamId)
  · have same := Prod.mk.inj isStream
    rw [if_pos isStream, decide_eq_true ⟨same.1.symm, same.2.symm⟩]
    rfl
  · rw [if_neg isStream, decide_eq_false]
    · rfl
    · exact fun same => isStream (Prod.ext same.1.symm same.2.symm)

theorem head_terminal (stored : Option StreamHead) (event : Event) :
    (stored.elim event.head (fun stored => stored.advance event.head)).terminalEventId.isSome =
      (stored.any (fun stored => stored.terminalEventId.isSome) || isTerminalEvent event.type) := by
  have own : event.head.terminalEventId.isSome = isTerminalEvent event.type := by
    unfold CanonicalEvent.head
    cases isTerminalEvent event.type with
    | true => rfl
    | false => rfl
  cases stored with
  | none => exact own
  | some stored =>
    change (stored.terminalEventId.or event.head.terminalEventId).isSome = _
    rw [Option.isSome_or, own]
    rfl

theorem findHead_insert {events : EventRows} (candidate : Event) (scope : ChannelScope)
    (streamId : StreamId) :
    SqliteEventStore.findHead scope
        { database with
          events
          streamHeads := database.streamHeads.upsert candidate.head
            (fun stored => stored.advance candidate.head) (fun _ => rfl) } streamId =
      if (scope, streamId) = (candidate.scope, candidate.streamId) then
        some ((database.findHead scope streamId).elim candidate.head
          (fun stored => stored.advance candidate.head))
      else database.findHead scope streamId :=
  Table.find?_upsert database.streamHeads candidate.head _ _ (scope, streamId)

section

variable (simulates : Simulates memory database)

include simulates

theorem pushEvent_simulates {scope : ChannelScope} (inScope : candidate.scope = scope)
    (fresh : database.findEvent scope candidate.id = none)
    (next : candidate.seq = (database.streamEvents scope candidate.streamId).length) :
    ∃ database', database.insertEvent candidate = .ok database' ∧
      Simulates (memory.pushEvent scope candidate) database' := by
  subst inScope
  obtain ⟨events, inserted, isRows⟩ := insertEvent_rows simulates fresh next
  unfold SqliteEventStore.insertEvent
  rw [inserted]
  refine ⟨_, rfl, ?_⟩
  have unknown := find_event simulates candidate.scope candidate.id
  rw [fresh] at unknown
  refine ⟨?_, ?_, ?_, ?_, ?_, simulates.commands, simulates.sessions, simulates.projections,
    simulates.receipts, simulates.receipted⟩
  · change (memory.eventsById.set _ _).entries = events.table.rows.map eventEntry
    rw [OrderedMap.entries_set_new unknown, isRows, List.map_append, simulates.eventsById]
    rfl
  · intro scope streamId
    rw [streamEvents_insert isRows]
    change ((memory.eventsByStream.set _ _).get? _).getD [] = _
    rw [OrderedMap.get?_set]
    by_cases isStream : (scope, streamId) = (candidate.scope, candidate.streamId)
    · have same := Prod.mk.inj isStream
      rw [if_pos isStream, if_pos (scopedKey_inj.2 ⟨same.1, rfl, same.2⟩), Option.getD_some,
        simulates.eventsByStream, same.1, same.2]
    · rw [if_neg isStream, List.append_nil, ← simulates.eventsByStream, if_neg]
      · rfl
      · intro same
        have sameKey := scopedKey_inj.1 same
        exact isStream (Prod.ext sameKey.1 sameKey.2.2)
  · intro scope streamId index event found
    rw [streamEvents_insert isRows] at found
    by_cases isStream : (scope, streamId) = (candidate.scope, candidate.streamId)
    · have same := Prod.mk.inj isStream
      rw [if_pos isStream, same.1, same.2] at found
      rcases Nat.lt_or_ge index
          (database.streamEvents candidate.scope candidate.streamId).length with inside | outside
      · rw [List.getElem?_append_left inside] at found
        exact simulates.numbered _ _ index event found
      · rw [List.getElem?_append_right outside] at found
        have bound := (List.getElem?_eq_some_iff.1 found).1
        rw [List.length_singleton] at bound
        have isLast : index - (database.streamEvents candidate.scope candidate.streamId).length = 0 := by
          omega
        rw [isLast] at found
        cases found
        omega
    · rw [if_neg isStream, List.append_nil] at found
      exact simulates.numbered _ _ index event found
  · intro scope streamId
    rw [streamEvents_insert isRows]
    unfold SqliteEventStore.version
    rw [findHead_insert]
    by_cases isStream : (scope, streamId) = (candidate.scope, candidate.streamId)
    · have same := Prod.mk.inj isStream
      rw [if_pos isStream, if_pos isStream, List.length_append, same.1, same.2, ← next]
      cases database.findHead candidate.scope candidate.streamId with
      | none => rfl
      | some head => rfl
    · rw [if_neg isStream, if_neg isStream, List.append_nil]
      exact simulates.versions scope streamId
  · intro scope streamId
    rw [streamEvents_insert isRows]
    unfold SqliteEventStore.terminated
    rw [findHead_insert]
    by_cases isStream : (scope, streamId) = (candidate.scope, candidate.streamId)
    · have same := Prod.mk.inj isStream
      have before := simulates.terminated candidate.scope candidate.streamId
      rw [if_pos isStream, if_pos isStream, List.any_append, same.1, same.2, ← before,
        Option.any_some, List.any_cons, List.any_nil, Bool.or_false]
      exact head_terminal _ candidate
    · rw [if_neg isStream, if_neg isStream, List.append_nil]
      exact simulates.terminated scope streamId

theorem append_agrees (dates : Dates) (scope : ChannelScope) (event : Event) :
    Agrees Simulates Eq (memory.append dates scope event) (database.append dates scope event) := by
  unfold InMemoryEventStore.append SqliteEventStore.append
  refine agrees_bind _ ?_
  intro candidate _
  refine agrees_bind _ ?_
  intro _ checked
  have inScope := assertScope_ok checked
  rw [find_event simulates, inScope]
  cases found : database.findEvent scope candidate.id with
  | some existing =>
    dsimp only
    refine agrees_check ?_ ?_
    · rfl
    · exact simulates
  | none =>
    dsimp only
    have sameVersion := simulates.versions scope candidate.streamId
    refine agrees_ite ?_ (fun _ => agrees_error _) ?_
    · rw [simulates.eventsByStream, sameVersion]
    · intro next
      refine agrees_bool ?_ (fun _ => agrees_error _) ?_
      · rw [simulates.eventsByStream, simulates.terminated]
      · intro _
        rw [simulates.eventsByStream, not_not] at next
        obtain ⟨database', inserted, simulates'⟩ := pushEvent_simulates simulates inScope found next
        rw [bind_of_ok _ inserted]
        exact agrees_ok rfl simulates'

theorem appendIdempotent_agrees (dates : Dates) (scope : ChannelScope) (event : Event) :
    Agrees Simulates Eq (memory.appendIdempotent dates scope event)
      (database.appendIdempotent dates scope event) := by
  unfold InMemoryEventStore.appendIdempotent SqliteEventStore.appendIdempotent
  refine agrees_bind _ ?_
  intro candidate _
  refine agrees_bind _ ?_
  intro _ checked
  have inScope := assertScope_ok checked
  rw [find_event simulates, inScope]
  cases found : database.findEvent scope candidate.id with
  | some existing =>
    dsimp only
    refine agrees_check ?_ ?_
    · rfl
    · exact simulates
  | none =>
    dsimp only
    rw [simulates.eventsByStream, simulates.terminated, simulates.versions]
    refine agrees_bool rfl (fun _ => agrees_error _) ?_
    intro _
    have isStored : ∀ stored : Event,
        stored = (if candidate.seq =
            (database.streamEvents scope candidate.streamId).length then candidate
          else { candidate with
            seq := (database.streamEvents scope candidate.streamId).length }) →
        stored.scope = scope ∧ stored.id = candidate.id ∧
          stored.streamId = candidate.streamId ∧
          stored.seq = (database.streamEvents scope candidate.streamId).length := by
      intro stored isStored
      by_cases isNext : candidate.seq = (database.streamEvents scope candidate.streamId).length
      · rw [if_pos isNext] at isStored
        rw [isStored]
        exact ⟨inScope, rfl, rfl, isNext⟩
      · rw [if_neg isNext] at isStored
        rw [isStored]
        exact ⟨inScope, rfl, rfl, rfl⟩
    obtain ⟨storedScope, storedId, storedStream, storedNext⟩ := isStored _ rfl
    obtain ⟨database', inserted, simulates'⟩ := pushEvent_simulates simulates storedScope
      (by rw [storedId]; exact found) (by rw [storedStream]; exact storedNext)
    rw [bind_of_ok _ inserted]
    exact agrees_ok rfl simulates'

theorem streamEvents_sorted (scope : ChannelScope) (streamId : StreamId) :
    (database.streamEvents scope streamId).Pairwise (fun left right => left.seq ≤ right.seq) := by
  rw [List.pairwise_iff_getElem]
  intro left right leftBound rightBound order
  have isLeft := simulates.numbered scope streamId left _ (List.getElem?_eq_getElem leftBound)
  have isRight := simulates.numbered scope streamId right _ (List.getElem?_eq_getElem rightBound)
  omega

theorem read_agrees (scope : ChannelScope) (streamId : StreamId) (afterSeq : Option Int) :
    memory.read scope streamId afterSeq = database.read scope streamId afterSeq := by
  have isFiltered : database.events.table.select (fun row =>
      row.scope = scope ∧ row.streamId = streamId ∧ afterSeq.getD (-1) < row.seq) =
        (database.streamEvents scope streamId).filter (InMemoryEventStore.isAfter afterSeq) := by
    unfold SqliteEventStore.streamEvents Table.select
    rw [List.filter_filter]
    congr 1
    funext row
    have isLater : InMemoryEventStore.isAfter afterSeq row =
        decide (afterSeq.getD (-1) < (row.seq : Int)) := by
      cases afterSeq with
      | none =>
        have positive : (-1 : Int) < row.seq := by omega
        exact (decide_eq_true positive).symm
      | some seq => rfl
    rw [isLater, Bool.decide_and, Bool.decide_and, Bool.decide_and, ← Bool.and_assoc, Bool.and_comm]
  unfold InMemoryEventStore.read SqliteEventStore.read
  rw [isFiltered, simulates.eventsByStream]
  symm
  apply List.Pairwise.insertionSort_eq
  exact (streamEvents_sorted simulates scope streamId).filter _

end

end Events

end AnnaAgent.EventStore
