/-
`InMemoryEventStore` (`event-store/src/index.ts`).

The scoped stores of one event store share its maps.  An operation is a
function from the maps to a result and the new maps, or to what it throws, and
then the maps stay as they were.
-/

import AnnaAgent.Foundation.OrderedMap
import AnnaAgent.EventStore.Codec
import AnnaAgent.EventStore.SqliteSchedules

namespace AnnaAgent.EventStore

open Foundation

abbrev Event := CanonicalEvent Json

structure InMemoryRecoveryLease where
  claimedAt : Int
  ownerId : String

structure InMemoryEventStore where
  eventsByStream : OrderedMap String (List Event)
  eventsById : OrderedMap String Event
  commandsById : OrderedMap String StartRun
  channelSessions : OrderedMap String ChannelSession
  projections : OrderedMap String ProjectionSnapshot
  projectionReceipts : List String
  schedules : OrderedMap String ScheduleRecord
  occurrences : OrderedMap String ScheduleOccurrence
  occurrenceClaims : OrderedMap String ScheduleOccurrence
  occurrenceRecoveryLeases : OrderedMap String InMemoryRecoveryLease
  notifications : OrderedMap String ScheduleNotification
  triggerRegistrations : OrderedMap String ScheduleTrigger

namespace InMemoryEventStore

def empty : InMemoryEventStore :=
  { eventsByStream := .empty
    eventsById := .empty
    commandsById := .empty
    channelSessions := .empty
    projections := .empty
    projectionReceipts := []
    schedules := .empty
    occurrences := .empty
    occurrenceClaims := .empty
    occurrenceRecoveryLeases := .empty
    notifications := .empty
    triggerRegistrations := .empty }

variable (dates : Dates) (scope : ChannelScope) (store : InMemoryEventStore)

/-- `eventsByStream.get(key) ?? []`. -/
def streamEvents (streamId : StreamId) : List Event :=
  (store.eventsByStream.get? (scopedKey scope "stream" streamId)).getD []

def pushEvent (candidate : Event) : InMemoryEventStore :=
  { store with
    eventsByStream := store.eventsByStream.set (scopedKey scope "stream" candidate.streamId)
      (store.streamEvents scope candidate.streamId ++ [candidate])
    eventsById := store.eventsById.set (scopedKey scope "event" candidate.id) candidate }

def append (event : Event) : Except Thrown (Unit × InMemoryEventStore) := do
  let candidate ← parseCanonicalEvent dates event
  let _ ← assertScope scope candidate.scope
  match store.eventsById.get? (scopedKey scope "event" candidate.id) with
  | some existing =>
    if sameStableJson existing.json candidate.json then .ok ((), store)
    else .error .eventConflictError
  | none =>
    let events := store.streamEvents scope candidate.streamId
    if candidate.seq ≠ events.length then .error .eventSequenceConflictError
    else if events.any (fun stored => isTerminalEvent stored.type) then
      .error .terminalEventConflictError
    else .ok ((), store.pushEvent scope candidate)

def appendIdempotent (event : Event) : Except Thrown (Bool × InMemoryEventStore) := do
  let candidate ← parseCanonicalEvent dates event
  let _ ← assertScope scope candidate.scope
  match store.eventsById.get? (scopedKey scope "event" candidate.id) with
  | some existing =>
    if sameStableJson ({ existing with seq := 0, timestamp := "" } : Event).json
        ({ candidate with seq := 0, timestamp := "" } : Event).json then .ok (false, store)
    else .error .eventConflictError
  | none =>
    let events := store.streamEvents scope candidate.streamId
    let storedCandidate :=
      if candidate.seq = events.length then candidate
      else { candidate with seq := events.length }
    if events.any (fun stored => isTerminalEvent stored.type) then
      .error .terminalEventConflictError
    else .ok (true, store.pushEvent scope storedCandidate)

/-- `afterSeq === undefined || event.seq > afterSeq`. -/
def isAfter (afterSeq : Option Int) (event : Event) : Bool :=
  match afterSeq with
  | none => true
  | some seq => decide (seq < event.seq)

def read (streamId : StreamId) (afterSeq : Option Int) : List Event :=
  (store.streamEvents scope streamId).filter (isAfter afterSeq)

def claimStart (command : StartRun) : Except Thrown (StartRun × InMemoryEventStore) := do
  let candidate ← cloneStartRun command
  let _ ← assertScope scope candidate.toChannelScope
  let key := scopedKey scope "command" candidate.commandId
  match store.commandsById.get? key with
  | some existing =>
    if sameStableJson existing.json candidate.json then .ok (existing, store)
    else .error .commandConflictError
  | none =>
    let runKey := scopedKey scope "run" candidate.runId
    if store.commandsById.has runKey then .error .commandConflictError
    else
      .ok (candidate, { store with
        commandsById := (store.commandsById.set key candidate).set runKey candidate })

def getCommand (commandId : CommandId) : Option StartRun :=
  store.commandsById.get? (scopedKey scope "command" commandId)

def getRunCommand (runId : RunId) : Option StartRun :=
  store.commandsById.get? (scopedKey scope "run" runId)

def activeRunIds : List RunId :=
  ((store.commandsById.entries.filter (fun entry =>
      startsWith entry.1 (scopedPrefix scope "command"))).map Prod.snd).filter (fun command =>
    !(store.streamEvents scope command.runId).any (fun event => isTerminalEvent event.type))
  |>.map StartRun.runId

/-- `typeof payload[key] === "string" ? payload[key] : undefined`. -/
def payloadText (event : Event) (key : String) : Option String :=
  match event.payload.get? key with
  | some (.str text) => some text
  | _ => none

def belongsToRun (runId : RunId) (event : Event) : Bool :=
  decide (event.streamId = runId) ||
    (decide (payloadText event "runId" = some runId) &&
      (startsWith event.streamId ("tool:" ++ runId ++ ":") ||
        startsWith event.streamId "effect:")) ||
    decide (payloadText event "parentRunId" = some runId)

def listRunStreamIds (runId : RunId) : List StreamId :=
  let children := (store.commandsById.values.filter (fun command =>
    command.parentRunId = some runId)).map StartRun.runId
  let events := store.eventsByStream.values.flatten.filter (fun event =>
    decide (event.scope = scope) && belongsToRun runId event)
  (children ++ events.map CanonicalEvent.streamId).dedup.insertionSort (fun left right => left ≤ right)

def claimChannelSession (session : ChannelSession) :
    Except Thrown (ChannelSession × InMemoryEventStore) := do
  let candidate ← cloneSession session
  let _ ← assertScope scope candidate.toChannelScope
  let key := scopedKey scope "channel-session" ""
  match store.channelSessions.get? key with
  | some existing =>
    if sameStableJson existing.json candidate.json then .ok (existing, store)
    else .error .channelSessionConflictError
  | none =>
    .ok (candidate, { store with channelSessions := store.channelSessions.set key candidate })

def getChannelSession : Option ChannelSession :=
  store.channelSessions.get? (scopedKey scope "channel-session" "")

def projectionKey (projector : String) (streamId : StreamId) : String :=
  scopedKey scope ("projection:" ++ projector) streamId

def receiptKey (projector : String) (streamId : StreamId) (eventId : EventId) : String :=
  scopedKey scope ("projection-receipt:" ++ projector)
    (Json.arr [.str streamId, .str eventId]).stableJson

def loadProjection (projector : String) (streamId : StreamId) : Option ProjectionSnapshot :=
  store.projections.get? (projectionKey scope projector streamId)

def commitProjection (commit : ProjectionCommit) :
    Except Thrown (ProjectionCommitResult × InMemoryEventStore) :=
  match store.eventsById.get? (scopedKey scope "event" commit.eventId) with
  | none => .error .projectionSourceEventNotFoundError
  | some sourceEvent =>
    if sourceEvent.streamId ≠ commit.streamId ∨ (sourceEvent.seq : Int) ≠ commit.eventSeq then
      .error .projectionSourceEventNotFoundError
    else
      let receipt := receiptKey scope commit.projector commit.streamId commit.eventId
      let key := projectionKey scope commit.projector commit.streamId
      if receipt ∈ store.projectionReceipts then
        match store.projections.get? key with
        | none => .error (.error "in-memory projection receipt has no projection state")
        | some current => .ok ({ toProjectionSnapshot := current, applied := false }, store)
      else
        let version := (store.projections.get? key).elim 0 ProjectionSnapshot.version
        if version ≠ commit.expectedVersion then .error .projectionVersionConflictError
        else do
          let state ← commit.state
          let snapshot : ProjectionSnapshot :=
            { state
              version := commit.expectedVersion + 1
              lastSeq := commit.eventSeq }
          return ({ toProjectionSnapshot := snapshot, applied := true },
            { store with
              projections := store.projections.set key snapshot
              projectionReceipts := store.projectionReceipts ++ [receipt] })

end InMemoryEventStore

inductive EventCall where
  | append (event : Event)
  | appendIdempotent (event : Event)
  | read (streamId : StreamId) (afterSeq : Option Int)
  | claimStart (command : StartRun)
  | getCommand (commandId : CommandId)
  | getRunCommand (runId : RunId)
  | claimChannelSession (session : ChannelSession)
  | getChannelSession
  | loadProjection (projector : String) (streamId : StreamId)
  | commitProjection (commit : ProjectionCommit)
  | activeRunIds

abbrev EventCall.Answer : EventCall → Type
  | .append _ => Unit
  | .appendIdempotent _ => Bool
  | .read _ _ => List Event
  | .claimStart _ => StartRun
  | .getCommand _ => Option StartRun
  | .getRunCommand _ => Option StartRun
  | .claimChannelSession _ => ChannelSession
  | .getChannelSession => Option ChannelSession
  | .loadProjection _ _ => Option ProjectionSnapshot
  | .commitProjection _ => ProjectionCommitResult
  | .activeRunIds => List RunId

def InMemoryEventStore.perform (dates : Dates) (scope : ChannelScope) (store : InMemoryEventStore) :
    (call : EventCall) → Except Thrown (call.Answer × InMemoryEventStore)
  | .append event => store.append dates scope event
  | .appendIdempotent event => store.appendIdempotent dates scope event
  | .read streamId afterSeq => .ok (store.read scope streamId afterSeq, store)
  | .claimStart command => store.claimStart scope command
  | .getCommand commandId => .ok (store.getCommand scope commandId, store)
  | .getRunCommand runId => .ok (store.getRunCommand scope runId, store)
  | .claimChannelSession session => store.claimChannelSession scope session
  | .getChannelSession => .ok (store.getChannelSession scope, store)
  | .loadProjection projector streamId => .ok (store.loadProjection scope projector streamId, store)
  | .commitProjection commit => store.commitProjection scope commit
  | .activeRunIds => .ok (store.activeRunIds scope, store)

end AnnaAgent.EventStore
