/-
The event, command, session and projection operations of `SqliteEventStore`
(`event-store/src/sqlite-event-store.ts`), for all scopes of one database.

The columns of a row are fields of the value in its JSON column, and reading a
row parses that value to itself.  Every operation is one transaction.
-/

import AnnaAgent.EventStore.InMemory

namespace AnnaAgent.EventStore

open Foundation

def CanonicalEvent.position (event : Event) : ChannelScope × StreamId × Nat :=
  (event.scope, event.streamId, event.seq)

def CanonicalEvent.identity (event : Event) : ChannelScope × EventId :=
  (event.scope, event.id)

structure EventRows where
  table : Table (ChannelScope × StreamId × Nat) Event CanonicalEvent.position
  ids : table.UniqueOn CanonicalEvent.identity

structure StreamHead extends ChannelScope where
  streamId : StreamId
  version : Nat
  terminalEventId : Option EventId

def StreamHead.key (head : StreamHead) : ChannelScope × StreamId :=
  (head.toChannelScope, head.streamId)

def CanonicalEvent.head (event : Event) : StreamHead :=
  { toChannelScope := event.scope
    streamId := event.streamId
    version := event.seq + 1
    terminalEventId := if isTerminalEvent event.type then some event.id else none }

/-- `SET version = excluded.version, terminal_event_id = COALESCE(...)`. -/
def StreamHead.advance (stored excluded : StreamHead) : StreamHead :=
  { stored with
    version := excluded.version
    terminalEventId := stored.terminalEventId.or excluded.terminalEventId }

def StartRun.commandKey (command : StartRun) : ChannelScope × CommandId :=
  (command.toChannelScope, command.commandId)

def StartRun.runKey (command : StartRun) : ChannelScope × RunId :=
  (command.toChannelScope, command.runId)

structure CommandRows where
  table : Table (ChannelScope × CommandId) StartRun StartRun.commandKey
  runs : table.UniqueOn StartRun.runKey

structure ProjectionRow extends ChannelScope, ProjectionSnapshot where
  projector : String
  streamId : StreamId

def ProjectionRow.key (row : ProjectionRow) : ChannelScope × String × StreamId :=
  (row.toChannelScope, row.projector, row.streamId)

structure ProjectionReceipt extends ChannelScope where
  projector : String
  streamId : StreamId
  eventId : EventId
  eventSeq : Int

def ProjectionReceipt.key (receipt : ProjectionReceipt) :
    ChannelScope × String × StreamId × EventId :=
  (receipt.toChannelScope, receipt.projector, receipt.streamId, receipt.eventId)

namespace EventRows

def empty : EventRows :=
  { table := .empty
    ids := Table.uniqueOn_empty }

/-- `none` when the insertion violates the primary key or the unique index. -/
def insert? (rows : EventRows) (row : Event) : Option EventRows :=
  if fresh : ∀ other ∈ rows.table.rows, other.identity ≠ row.identity then
    match inserted : rows.table.insert? row with
    | some table => some { table, ids := rows.ids.insert? inserted fresh }
    | none => none
  else none

end EventRows

namespace CommandRows

def empty : CommandRows :=
  { table := .empty
    runs := Table.uniqueOn_empty }

def insert? (rows : CommandRows) (row : StartRun) : Option CommandRows :=
  if fresh : ∀ other ∈ rows.table.rows, other.runKey ≠ row.runKey then
    match inserted : rows.table.insert? row with
    | some table => some { table, runs := rows.runs.insert? inserted fresh }
    | none => none
  else none

end CommandRows

structure SqliteEventStore where
  events : EventRows
  streamHeads : Table (ChannelScope × StreamId) StreamHead StreamHead.key
  commands : CommandRows
  channelSessions : Table ChannelScope ChannelSession ChannelSession.toChannelScope
  projections : Table (ChannelScope × String × StreamId) ProjectionRow ProjectionRow.key
  projectionReceipts :
    Table (ChannelScope × String × StreamId × EventId) ProjectionReceipt ProjectionReceipt.key

namespace SqliteEventStore

def empty : SqliteEventStore :=
  { events := .empty
    streamHeads := .empty
    commands := .empty
    channelSessions := .empty
    projections := .empty
    projectionReceipts := .empty }

variable (dates : Dates) (scope : ChannelScope) (store : SqliteEventStore)

def findEvent (eventId : EventId) : Option Event :=
  store.events.table.rows.find? (fun row => row.identity = (scope, eventId))

def findHead (streamId : StreamId) : Option StreamHead :=
  store.streamHeads.find? (scope, streamId)

/-- `head === undefined ? 0 : head.version`. -/
def version (streamId : StreamId) : Nat :=
  (store.findHead scope streamId).elim 0 StreamHead.version

/-- `head !== undefined && head.terminal_event_id !== null`. -/
def terminated (streamId : StreamId) : Bool :=
  (store.findHead scope streamId).any (fun head => head.terminalEventId.isSome)

/-- The two insertions of an append. -/
def insertEvent (candidate : Event) : Except Thrown SqliteEventStore :=
  match store.events.insert? candidate with
  | none => .error .sqliteConstraintError
  | some events =>
    .ok
      { store with
        events
        streamHeads := store.streamHeads.upsert candidate.head
          (fun stored => stored.advance candidate.head) (fun _ => rfl) }

def append (event : Event) : Except Thrown (Unit × SqliteEventStore) := do
  let candidate ← parseCanonicalEvent dates event
  let _ ← assertScope scope candidate.scope
  match store.findEvent candidate.scope candidate.id with
  | some existing =>
    if sameStableJson existing.json candidate.json then .ok ((), store)
    else .error .eventConflictError
  | none =>
    if candidate.seq ≠ store.version candidate.scope candidate.streamId then
      .error .eventSequenceConflictError
    else if store.terminated candidate.scope candidate.streamId then
      .error .terminalEventConflictError
    else do
      let store' ← store.insertEvent candidate
      return ((), store')

def appendIdempotent (event : Event) : Except Thrown (Bool × SqliteEventStore) := do
  let candidate ← parseCanonicalEvent dates event
  let _ ← assertScope scope candidate.scope
  match store.findEvent candidate.scope candidate.id with
  | some stored =>
    if sameStableJson ({ stored with seq := 0, timestamp := "" } : Event).json
        ({ candidate with seq := 0, timestamp := "" } : Event).json then .ok (false, store)
    else .error .eventConflictError
  | none =>
    let version := store.version candidate.scope candidate.streamId
    if store.terminated candidate.scope candidate.streamId then
      .error .terminalEventConflictError
    else do
      let storedCandidate :=
        if candidate.seq = version then candidate else { candidate with seq := version }
      let store' ← store.insertEvent storedCandidate
      return (true, store')

/-- `WHERE ... AND stream_id = ? AND seq > ? ORDER BY seq ASC`. -/
def read (streamId : StreamId) (afterSeq : Option Int) : List Event :=
  (store.events.table.select (fun row =>
    row.scope = scope ∧ row.streamId = streamId ∧ afterSeq.getD (-1) < row.seq)).insertionSort
      (fun left right => left.seq ≤ right.seq)

def claimStart (command : StartRun) : Except Thrown (StartRun × SqliteEventStore) := do
  let candidate ← cloneStartRun command
  let _ ← assertScope scope candidate.toChannelScope
  match store.commands.table.find? candidate.commandKey with
  | some stored =>
    if sameStableJson stored.json candidate.json then .ok (stored, store)
    else .error .commandConflictError
  | none =>
    if store.commands.table.rows.any (fun row => row.runKey = candidate.runKey) then
      .error .commandConflictError
    else
      match store.commands.insert? candidate with
      | some commands => .ok (candidate, { store with commands })
      | none => .error .sqliteConstraintError

def getCommand (commandId : CommandId) : Option StartRun :=
  store.commands.table.find? (scope, commandId)

def getRunCommand (runId : RunId) : Option StartRun :=
  store.commands.table.rows.find? (fun row => row.runKey = (scope, runId))

/-- The commands that have no head with a terminal event. -/
def activeRunIds : List RunId :=
  (store.commands.table.select (fun row =>
    row.toChannelScope = scope ∧ store.terminated row.toChannelScope row.runId = false)).map
      StartRun.runId

def claimChannelSession (session : ChannelSession) :
    Except Thrown (ChannelSession × SqliteEventStore) := do
  let candidate ← cloneSession session
  let _ ← assertScope scope candidate.toChannelScope
  match store.channelSessions.find? scope with
  | some stored =>
    if sameStableJson stored.json candidate.json then .ok (stored, store)
    else .error .channelSessionConflictError
  | none =>
    match store.channelSessions.insert? candidate with
    | some channelSessions => .ok (candidate, { store with channelSessions })
    | none => .error .sqliteConstraintError

def getChannelSession : Option ChannelSession :=
  store.channelSessions.find? scope

def findProjection (projector : String) (streamId : StreamId) : Option ProjectionSnapshot :=
  (store.projections.find? (scope, projector, streamId)).map ProjectionRow.toProjectionSnapshot

def loadProjection (projector : String) (streamId : StreamId) : Option ProjectionSnapshot :=
  store.findProjection scope projector streamId

/-- `INSERT` for a new projection, else `UPDATE ... WHERE ... AND version = ?`. -/
def saveProjection (commit : ProjectionCommit) (snapshot : ProjectionSnapshot) :
    Except Thrown SqliteEventStore :=
  match store.findProjection scope commit.projector commit.streamId with
  | none =>
    match store.projections.insert?
        { toChannelScope := scope
          toProjectionSnapshot := snapshot
          projector := commit.projector
          streamId := commit.streamId } with
    | some projections => .ok { store with projections }
    | none => .error .sqliteConstraintError
  | some _ =>
    .ok
      { store with
        projections := store.projections.update
          (fun row => row.key = (scope, commit.projector, commit.streamId) ∧
            row.version = commit.expectedVersion)
          (fun row => { row with toProjectionSnapshot := snapshot }) (fun _ => rfl) }

def commitProjection (commit : ProjectionCommit) :
    Except Thrown (ProjectionCommitResult × SqliteEventStore) := do
  let state ← commit.state
  match store.events.table.rows.find? (fun row =>
      row.identity = (scope, commit.eventId) ∧ row.streamId = commit.streamId) with
  | none => .error .projectionSourceEventNotFoundError
  | some source =>
    if (source.seq : Int) ≠ commit.eventSeq then .error .projectionSourceEventNotFoundError
    else
      match store.projectionReceipts.find?
          (scope, commit.projector, commit.streamId, commit.eventId) with
      | some _ =>
        match store.findProjection scope commit.projector commit.streamId with
        | none => .error (.error "SQLite projection receipt has no projection state")
        | some current => .ok ({ toProjectionSnapshot := current, applied := false }, store)
      | none =>
        let version :=
          (store.findProjection scope commit.projector commit.streamId).elim 0
            ProjectionSnapshot.version
        if version ≠ commit.expectedVersion then .error .projectionVersionConflictError
        else do
          let snapshot : ProjectionSnapshot :=
            { state
              version := version + 1
              lastSeq := commit.eventSeq }
          let store' ← store.saveProjection scope commit snapshot
          match store'.projectionReceipts.insert?
              { toChannelScope := scope
                projector := commit.projector
                streamId := commit.streamId
                eventId := commit.eventId
                eventSeq := commit.eventSeq } with
          | some projectionReceipts =>
            return ({ toProjectionSnapshot := snapshot, applied := true },
              { store' with projectionReceipts })
          | none => .error .sqliteConstraintError

end SqliteEventStore

def SqliteEventStore.perform (dates : Dates) (scope : ChannelScope) (store : SqliteEventStore) :
    (call : EventCall) → Except Thrown (call.Answer × SqliteEventStore)
  | .append event => store.append dates scope event
  | .appendIdempotent event => store.appendIdempotent dates scope event
  | .read streamId afterSeq => .ok (store.read scope streamId afterSeq, store)
  | .claimStart command => store.claimStart scope command
  | .getCommand commandId => .ok (store.getCommand scope commandId, store)
  | .getRunCommand runId => .ok (store.getRunCommand scope runId, store)
  | .claimChannelSession session => store.claimChannelSession scope session
  | .getChannelSession => .ok (store.getChannelSession scope, store)
  | .loadProjection projector streamId => .ok (store.loadProjection scope projector streamId, store)
  | .commitProjection commit => store.commitProjection scope commit
  | .activeRunIds => .ok (store.activeRunIds scope, store)

end AnnaAgent.EventStore
