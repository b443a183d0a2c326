/-
The events of a channel's memory (`harness-v2/src/memory-events.ts`).

An event means something to the memory only when it has one of nine types and
its payload has the fields of that type; the readers below answer `none` for
every other event.
-/

import AnnaAgent.EventStore.InMemory

namespace AnnaAgent.Memory

open Foundation EventStore

def memoryStreamId : StreamId := "channel-memory"

inductive MemoryEventType where
  | candidateProposed | candidateEdited | candidateDeleted
  | accepted | rejected
  | edited | deleted
  | workspaceReadGranted | workspaceReadRevoked
  deriving DecidableEq

def MemoryEventType.text : MemoryEventType → String
  | .candidateProposed => "memory.candidate.proposed"
  | .candidateEdited => "memory.candidate.edited"
  | .candidateDeleted => "memory.candidate.deleted"
  | .accepted => "memory.accepted"
  | .rejected => "memory.rejected"
  | .edited => "memory.edited"
  | .deleted => "memory.deleted"
  | .workspaceReadGranted => "memory.workspace_read.granted"
  | .workspaceReadRevoked => "memory.workspace_read.revoked"

theorem MemoryEventType.text_inj {left right : MemoryEventType} (same : left.text = right.text) :
    left = right := by
  revert same
  cases left <;> cases right <;> decide

structure StoredCandidate where
  id : String
  content : String
  sourceRunId : String
  sourceEventIds : List String

structure StoredAcceptance where
  candidateId : String
  actorId : String
  eventId : EventId
  timestamp : Timestamp
  deriving DecidableEq

structure StoredEdit where
  memoryId : String
  content : String
  actorId : String
  eventId : EventId
  timestamp : Timestamp

structure StoredCandidateEdit where
  candidateId : String
  content : String
  actorId : String
  eventId : EventId
  timestamp : Timestamp

structure StoredDeletion where
  memoryId : String
  actorId : String
  eventId : EventId
  timestamp : Timestamp

structure StoredCandidateDeletion where
  candidateId : String
  actorId : String
  eventId : EventId
  timestamp : Timestamp
  deriving DecidableEq

structure StoredWorkspaceReadGrant where
  grantId : String
  targetChannelId : String
  actorId : String
  eventId : EventId
  timestamp : Timestamp

structure StoredWorkspaceReadRevocation where
  grantId : String
  targetChannelId : String
  actorId : String

def nextSequence (events : List Event) : Nat :=
  events.foldl (fun next event => max next (event.seq + 1)) 0

def isNonEmptyString (value : String) : Bool := value.length > 0

def stringField (event : Event) (key : String) : Option String :=
  match event.payload.get? key with
  | some (.str text) => some text
  | _ => none

def nonEmptyField (event : Event) (key : String) : Option String :=
  (stringField event key).filter isNonEmptyString

def Json.string? : Json → Option String
  | .str text => some text
  | _ => none

def stringArrayField (event : Event) (key : String) : Option (List String) :=
  match event.payload.get? key with
  | some (.arr items) => items.mapM Json.string?
  | _ => none

def readAs {α : Type} (event : Event) (type : MemoryEventType) (read : Option α) : Option α :=
  if event.type = type.text then read else none

theorem readAs_some {α : Type} {event : Event} {type : MemoryEventType} {read : Option α}
    {value : α} :
    readAs event type read = some value ↔ event.type = type.text ∧ read = some value := by
  unfold readAs
  by_cases isType : event.type = type.text
  · rw [if_pos isType]
    exact ⟨fun found => ⟨isType, found⟩, And.right⟩
  · rw [if_neg isType]
    exact ⟨(fun absent => nomatch absent), fun found => absurd found.1 isType⟩

def proposedCandidate (event : Event) : Option StoredCandidate :=
  readAs event .candidateProposed (do
    let id ← stringField event "candidateId"
    let content ← stringField event "content"
    let sourceRunId ← stringField event "sourceRunId"
    let sourceEventIds ← stringArrayField event "sourceEventIds"
    return { id, content, sourceRunId, sourceEventIds })

def candidateDecision (event : Event) (type : MemoryEventType) : Option StoredAcceptance :=
  readAs event type (do
    let candidateId ← stringField event "candidateId"
    let actorId ← stringField event "actorId"
    return { candidateId, actorId, eventId := event.id, timestamp := event.timestamp })

def acceptedCandidate (event : Event) : Option StoredAcceptance :=
  candidateDecision event .accepted

def rejectedCandidate (event : Event) : Option StoredAcceptance :=
  candidateDecision event .rejected

def editedMemory (event : Event) : Option StoredEdit :=
  readAs event .edited (do
    let memoryId ← stringField event "memoryId"
    let content ← stringField event "content"
    let actorId ← stringField event "actorId"
    return { memoryId, content, actorId, eventId := event.id, timestamp := event.timestamp })

def editedCandidate (event : Event) : Option StoredCandidateEdit :=
  readAs event .candidateEdited (do
    let candidateId ← stringField event "candidateId"
    let content ← stringField event "content"
    let actorId ← stringField event "actorId"
    return { candidateId, content, actorId, eventId := event.id, timestamp := event.timestamp })

def deletedMemoryEvent (event : Event) : Option StoredDeletion :=
  readAs event .deleted (do
    let memoryId ← stringField event "memoryId"
    let actorId ← stringField event "actorId"
    return { memoryId, actorId, eventId := event.id, timestamp := event.timestamp })

def deletedCandidate (event : Event) : Option StoredCandidateDeletion :=
  readAs event .candidateDeleted (do
    let candidateId ← stringField event "candidateId"
    let actorId ← stringField event "actorId"
    return { candidateId, actorId, eventId := event.id, timestamp := event.timestamp })

def workspaceReadGranted (event : Event) : Option StoredWorkspaceReadGrant :=
  readAs event .workspaceReadGranted (do
    let grantId ← nonEmptyField event "grantId"
    let targetChannelId ← nonEmptyField event "targetChannelId"
    let actorId ← nonEmptyField event "actorId"
    return { grantId, targetChannelId, actorId, eventId := event.id, timestamp := event.timestamp })

def workspaceReadRevoked (event : Event) : Option StoredWorkspaceReadRevocation :=
  readAs event .workspaceReadRevoked (do
    let grantId ← nonEmptyField event "grantId"
    let targetChannelId ← nonEmptyField event "targetChannelId"
    let actorId ← nonEmptyField event "actorId"
    return { grantId, targetChannelId, actorId })

variable (id : String) (event : Event)

def proposes : Bool := (proposedCandidate event).any (fun candidate => candidate.id = id)

def editsCandidate : Bool := (editedCandidate event).any (fun edit => edit.candidateId = id)

def deletesCandidate : Bool :=
  (deletedCandidate event).any (fun deletion => deletion.candidateId = id)

def accepts : Bool := (acceptedCandidate event).any (fun acceptance => acceptance.candidateId = id)

def rejects : Bool := (rejectedCandidate event).any (fun rejection => rejection.candidateId = id)

def decides : Bool := accepts id event || rejects id event || deletesCandidate id event

def editsMemory : Bool := (editedMemory event).any (fun edit => edit.memoryId = id)

def deletesMemory : Bool := (deletedMemoryEvent event).any (fun deletion => deletion.memoryId = id)

def grants : Bool := (workspaceReadGranted event).any (fun grant => grant.grantId = id)

def revokes : Bool := (workspaceReadRevoked event).any (fun revocation => revocation.grantId = id)

variable {id event}

theorem any_isSome {α : Type} {found : Option α} {p : α → Prop} [DecidablePred p]
    (any : found.any (fun value => decide (p value)) = true) : ∃ value, found = some value ∧ p value := by
  cases found with
  | none => cases any
  | some value => exact ⟨value, rfl, of_decide_eq_true any⟩

theorem of_proposedCandidate {candidate : StoredCandidate}
    (found : proposedCandidate event = some candidate) :
    event.type = MemoryEventType.candidateProposed.text ∧
      stringField event "candidateId" = some candidate.id := by
  obtain ⟨isType, found⟩ := readAs_some.1 found
  obtain ⟨id, isId, found⟩ := Option.bind_eq_some_iff.1 found
  obtain ⟨content, _, found⟩ := Option.bind_eq_some_iff.1 found
  obtain ⟨sourceRunId, _, found⟩ := Option.bind_eq_some_iff.1 found
  obtain ⟨sourceEventIds, _, found⟩ := Option.bind_eq_some_iff.1 found
  cases found
  exact ⟨isType, isId⟩

theorem of_candidateDecision {type : MemoryEventType} {decision : StoredAcceptance}
    (found : candidateDecision event type = some decision) :
    event.type = type.text ∧ stringField event "candidateId" = some decision.candidateId := by
  obtain ⟨isType, found⟩ := readAs_some.1 found
  obtain ⟨candidateId, isCandidate, found⟩ := Option.bind_eq_some_iff.1 found
  obtain ⟨actorId, _, found⟩ := Option.bind_eq_some_iff.1 found
  cases found
  exact ⟨isType, isCandidate⟩

theorem of_editedMemory {edit : StoredEdit} (found : editedMemory event = some edit) :
    event.type = MemoryEventType.edited.text ∧
      stringField event "memoryId" = some edit.memoryId := by
  obtain ⟨isType, found⟩ := readAs_some.1 found
  obtain ⟨memoryId, isMemory, found⟩ := Option.bind_eq_some_iff.1 found
  obtain ⟨content, _, found⟩ := Option.bind_eq_some_iff.1 found
  obtain ⟨actorId, _, found⟩ := Option.bind_eq_some_iff.1 found
  cases found
  exact ⟨isType, isMemory⟩

theorem of_editedCandidate {edit : StoredCandidateEdit} (found : editedCandidate event = some edit) :
    event.type = MemoryEventType.candidateEdited.text ∧
      stringField event "candidateId" = some edit.candidateId := by
  obtain ⟨isType, found⟩ := readAs_some.1 found
  obtain ⟨candidateId, isCandidate, found⟩ := Option.bind_eq_some_iff.1 found
  obtain ⟨content, _, found⟩ := Option.bind_eq_some_iff.1 found
  obtain ⟨actorId, _, found⟩ := Option.bind_eq_some_iff.1 found
  cases found
  exact ⟨isType, isCandidate⟩

theorem of_deletedMemoryEvent {deletion : StoredDeletion}
    (found : deletedMemoryEvent event = some deletion) :
    event.type = MemoryEventType.deleted.text ∧
      stringField event "memoryId" = some deletion.memoryId := by
  obtain ⟨isType, found⟩ := readAs_some.1 found
  obtain ⟨memoryId, isMemory, found⟩ := Option.bind_eq_some_iff.1 found
  obtain ⟨actorId, _, found⟩ := Option.bind_eq_some_iff.1 found
  cases found
  exact ⟨isType, isMemory⟩

theorem of_deletedCandidate {deletion : StoredCandidateDeletion}
    (found : deletedCandidate event = some deletion) :
    event.type = MemoryEventType.candidateDeleted.text ∧
      stringField event "candidateId" = some deletion.candidateId := by
  obtain ⟨isType, found⟩ := readAs_some.1 found
  obtain ⟨candidateId, isCandidate, found⟩ := Option.bind_eq_some_iff.1 found
  obtain ⟨actorId, _, found⟩ := Option.bind_eq_some_iff.1 found
  cases found
  exact ⟨isType, isCandidate⟩

theorem of_nonEmptyField {key value : String} (found : nonEmptyField event key = some value) :
    stringField event key = some value :=
  (Option.filter_eq_some_iff.1 found).1

theorem of_workspaceReadGranted {grant : StoredWorkspaceReadGrant}
    (found : workspaceReadGranted event = some grant) :
    event.type = MemoryEventType.workspaceReadGranted.text ∧
      stringField event "grantId" = some grant.grantId := by
  obtain ⟨isType, found⟩ := readAs_some.1 found
  obtain ⟨grantId, isGrant, found⟩ := Option.bind_eq_some_iff.1 found
  obtain ⟨targetChannelId, _, found⟩ := Option.bind_eq_some_iff.1 found
  obtain ⟨actorId, _, found⟩ := Option.bind_eq_some_iff.1 found
  cases found
  exact ⟨isType, of_nonEmptyField isGrant⟩

theorem of_workspaceReadRevoked {revocation : StoredWorkspaceReadRevocation}
    (found : workspaceReadRevoked event = some revocation) :
    event.type = MemoryEventType.workspaceReadRevoked.text ∧
      stringField event "grantId" = some revocation.grantId ∧
      stringField event "targetChannelId" = some revocation.targetChannelId := by
  obtain ⟨isType, found⟩ := readAs_some.1 found
  obtain ⟨grantId, isGrant, found⟩ := Option.bind_eq_some_iff.1 found
  obtain ⟨targetChannelId, isTarget, found⟩ := Option.bind_eq_some_iff.1 found
  obtain ⟨actorId, _, found⟩ := Option.bind_eq_some_iff.1 found
  cases found
  exact ⟨isType, of_nonEmptyField isGrant, of_nonEmptyField isTarget⟩

end AnnaAgent.Memory
