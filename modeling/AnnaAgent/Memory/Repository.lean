/-
`createChannelMemoryRepository` (`harness-v2/src/memory-repository.ts`).

Every operation is a program that suspends at the authorization of the owner
and at each call of the event store.  It decides by the memory events it has
read and appends at the number that follows them, so the store refuses it when
another event has come in between.
-/

import AnnaAgent.Foundation.Calls
import AnnaAgent.EventStore.StreamStore
import AnnaAgent.Harness.RunProfile
import AnnaAgent.Memory.Projection

namespace AnnaAgent.Memory

open Foundation EventStore

open Harness (RunProfileMemoryPolicy)

structure MemoryCandidateProposal where
  id : String
  content : String
  sourceEventIds : List String
  sourceRunId : String
  deriving DecidableEq

structure MemoryCandidateEdit where
  candidateId : String
  content : String
  actorId : String
  deriving DecidableEq

structure MemoryCandidateDeletion where
  candidateId : String
  actorId : String
  deriving DecidableEq

structure MemoryAcceptance where
  candidateId : String
  actorId : String
  deriving DecidableEq

structure MemoryRejection where
  candidateId : String
  actorId : String
  deriving DecidableEq

structure MemoryEdit where
  memoryId : String
  content : String
  actorId : String
  deriving DecidableEq

structure MemoryDeletion where
  memoryId : String
  actorId : String
  deriving DecidableEq

structure WorkspaceMemoryGrantReference where
  grantId : String
  sourceChannelId : String
  deriving DecidableEq

structure MemoryRetrieval where
  query : String
  limit : Int
  runId : Option String
  workspaceGrantRefs : List WorkspaceMemoryGrantReference
  deriving DecidableEq

structure WorkspaceReadGrant where
  grantId : String
  targetChannelId : String
  actorId : String
  deriving DecidableEq

structure WorkspaceReadRevocation where
  grantId : String
  actorId : String
  deriving DecidableEq

inductive Operation where
  | propose (proposal : MemoryCandidateProposal)
  | editCandidate (edit : MemoryCandidateEdit)
  | deleteCandidate (deletion : MemoryCandidateDeletion)
  | accept (acceptance : MemoryAcceptance)
  | reject (rejection : MemoryRejection)
  | edit (edit : MemoryEdit)
  | delete (deletion : MemoryDeletion)
  | grantWorkspaceRead (grant : WorkspaceReadGrant)
  | revokeWorkspaceRead (revocation : WorkspaceReadRevocation)
  | inspect (memoryId : String)
  | inspectCandidate (candidateId : String)
  | retrieve (retrieval : MemoryRetrieval)
  deriving DecidableEq

inductive Answer where
  | done
  | inspected (memory : Option DeletedChannelMemory)
  | inspectedCandidate (candidate : Option DeletedMemoryCandidate)
  | retrieved (memories : List AcceptedChannelMemory)
  deriving DecidableEq

/-- What `createEventId` and `now` answer. -/
structure Drawn where
  id : EventId
  timestamp : Timestamp

inductive Request where
  /-- `authorization.assertOwner`. -/
  | assertOwner (scope : ChannelScope) (actorId : String)
  | draw
  | perform (scope : ChannelScope) (call : EventCall)

abbrev Request.Response : Request → Type
  | .assertOwner _ _ => Unit
  | .draw => Drawn
  | .perform _ call => call.Answer

abbrev Op (α : Type) := Program Request Request.Response Thrown α

def ask (request : Request) : Op request.Response := .call request

structure Repository where
  scope : ChannelScope
  memoryPolicy : RunProfileMemoryPolicy

def nonEmptyString (value name : String) : Except Thrown String :=
  if isNonEmptyString value then .ok value
  else .error (.error s!"{name} must be a non-empty string")

def failWhen (condition : Bool) (message : String) : Except Thrown Unit :=
  if condition then .error (.error message) else .ok ()

def readEvents (scope : ChannelScope) (streamId : StreamId) : Op (List Event) :=
  ask (.perform scope (.read streamId none))

def readMemoryEvents (scope : ChannelScope) : Op (List Event) :=
  readEvents scope memoryStreamId

def memoryEvent (scope : ChannelScope) (drawn : Drawn) (streamId : StreamId) (seq : Nat)
    (type : String) (payload : List (String × Json)) : Event :=
  { id := drawn.id
    workspaceId := scope.workspaceId
    channelId := scope.channelId
    streamId, seq, type
    timestamp := drawn.timestamp
    schemaVersion := 1
    payload := .obj payload }

variable (letters : Letters) (repository : Repository)

def appendMemoryEvent (events : List Event) (type : MemoryEventType)
    (payload : List (String × Json)) : Op Unit := do
  let drawn ← ask .draw
  ask (.perform repository.scope (.append
    (memoryEvent repository.scope drawn memoryStreamId (nextSequence events) type.text payload)))

def assertOwner (actorId : String) : Op Unit :=
  ask (.assertOwner repository.scope actorId)

/-- `runProfileSnapshot.memoryPolicy[key]` of a run. -/
def runMemoryPolicy (command : StartRun) (key : String) : Option String := do
  let snapshot ← command.details.lookup "runProfileSnapshot"
  let policy ← snapshot.get? "memoryPolicy"
  let mode ← policy.get? key
  Json.string? mode

def provenanceUnavailable : String := "Memory candidate provenance is unavailable"

def assertMemoryCandidateProvenance (sourceRunId : String) (sourceEventIds : List String) :
    Op StartRun := do
  .lift (failWhen (!isNonEmptyString sourceRunId || sourceEventIds.length == 0 ||
    sourceEventIds.any (fun eventId => !isNonEmptyString eventId)) provenanceUnavailable)
  let sourceRun ← ask (.perform repository.scope (.getRunCommand sourceRunId))
  match sourceRun with
  | none => .throw (.error provenanceUnavailable)
  | some sourceRun => do
      let runEvents ← readEvents repository.scope sourceRunId
      .lift (failWhen (!sourceEventIds.all (fun eventId =>
        (runEvents.map CanonicalEvent.id).contains eventId)) provenanceUnavailable)
      return sourceRun

def parseMemoryCandidate (scope : ChannelScope) (proposal : MemoryCandidateProposal)
    (sourceEventIds : List String) : Except Thrown StoredCandidate :=
  if sourceEventIds.length = 0 then
    .error (.schemaValidationError "MemoryCandidate.sourceEventIds must contain provenance")
  else do
    let id ← parseId proposal.id "MemoryCandidate.id"
    let _ ← parseId scope.workspaceId "MemoryCandidate.workspaceId"
    let _ ← parseId scope.channelId "MemoryCandidate.channelId"
    let content ← expectNonEmptyString proposal.content "MemoryCandidate.content"
    let sourceEventIds ← parseIds "MemoryCandidate.sourceEventIds" 0 sourceEventIds
    return { id, content, sourceRunId := proposal.sourceRunId, sourceEventIds }

def propose (proposal : MemoryCandidateProposal) : Op Unit := do
  .lift (failWhen (decide (repository.memoryPolicy.write ≠ .propose))
    "Memory writes are disabled by the RunProfile")
  let sourceEventIds := proposal.sourceEventIds.eraseDups
  let sourceRun ← assertMemoryCandidateProvenance repository proposal.sourceRunId sourceEventIds
  .lift (failWhen (decide (runMemoryPolicy sourceRun "write" ≠ some "propose"))
    "Memory writes are disabled by the source RunProfile")
  let candidate ← .lift (parseMemoryCandidate repository.scope proposal sourceEventIds)
  let events ← readMemoryEvents repository.scope
  .lift (failWhen (candidateById events candidate.id).isSome "Memory candidate already exists")
  appendMemoryEvent repository events .candidateProposed
    [("candidateId", .str candidate.id), ("content", .str candidate.content),
      ("sourceRunId", .str proposal.sourceRunId),
      ("sourceEventIds", .arr (candidate.sourceEventIds.map .str))]

def assertUndecidedCandidate (events : List Event) (candidateId : String) : Except Thrown Unit := do
  failWhen (candidateById events candidateId).isNone "Memory candidate was not found"
  failWhen (decisionForCandidate events candidateId).isSome
    "Memory candidate has already been decided"

def assertActiveMemory (events : List Event) (memoryId : String) : Except Thrown Unit := do
  failWhen (acceptedMemory events memoryId).isNone "Channel Memory was not found"
  failWhen (deletedMemory events memoryId).isSome "Channel Memory has been deleted"

def editCandidate (edit : MemoryCandidateEdit) : Op Unit := do
  let actorId ← .lift (nonEmptyString edit.actorId "actorId")
  assertOwner repository actorId
  let candidateId ← .lift (nonEmptyString edit.candidateId "candidateId")
  let content ← .lift (nonEmptyString edit.content "content")
  let events ← readMemoryEvents repository.scope
  .lift (assertUndecidedCandidate events candidateId)
  appendMemoryEvent repository events .candidateEdited
    [("candidateId", .str candidateId), ("content", .str content), ("actorId", .str actorId)]

/-- What `deleteCandidate`, `accept` and `reject` do, each with its own type of
event. -/
def decideCandidate (type : MemoryEventType) (candidateId actorId : String) : Op Unit := do
  let actorId ← .lift (nonEmptyString actorId "actorId")
  assertOwner repository actorId
  let candidateId ← .lift (nonEmptyString candidateId "candidateId")
  let events ← readMemoryEvents repository.scope
  .lift (assertUndecidedCandidate events candidateId)
  appendMemoryEvent repository events type
    [("candidateId", .str candidateId), ("actorId", .str actorId)]

def deleteCandidate (deletion : MemoryCandidateDeletion) : Op Unit :=
  decideCandidate repository .candidateDeleted deletion.candidateId deletion.actorId

def accept (acceptance : MemoryAcceptance) : Op Unit :=
  decideCandidate repository .accepted acceptance.candidateId acceptance.actorId

def reject (rejection : MemoryRejection) : Op Unit :=
  decideCandidate repository .rejected rejection.candidateId rejection.actorId

def edit (edit : MemoryEdit) : Op Unit := do
  let actorId ← .lift (nonEmptyString edit.actorId "actorId")
  assertOwner repository actorId
  let memoryId ← .lift (nonEmptyString edit.memoryId "memoryId")
  let content ← .lift (nonEmptyString edit.content "content")
  let events ← readMemoryEvents repository.scope
  .lift (assertActiveMemory events memoryId)
  appendMemoryEvent repository events .edited
    [("memoryId", .str memoryId), ("content", .str content), ("actorId", .str actorId)]

def delete (deletion : MemoryDeletion) : Op Unit := do
  let actorId ← .lift (nonEmptyString deletion.actorId "actorId")
  assertOwner repository actorId
  let memoryId ← .lift (nonEmptyString deletion.memoryId "memoryId")
  let events ← readMemoryEvents repository.scope
  .lift (assertActiveMemory events memoryId)
  appendMemoryEvent repository events .deleted
    [("memoryId", .str memoryId), ("actorId", .str actorId)]

def grantWorkspaceRead (grant : WorkspaceReadGrant) : Op Unit := do
  let actorId ← .lift (nonEmptyString grant.actorId "actorId")
  assertOwner repository actorId
  let grantId ← .lift (nonEmptyString grant.grantId "grantId")
  let targetChannelId ← .lift (nonEmptyString grant.targetChannelId "targetChannelId")
  .lift (failWhen (decide (targetChannelId = repository.scope.channelId))
    "Workspace Memory grants must target another Channel")
  let events ← readMemoryEvents repository.scope
  .lift (failWhen (workspaceReadGrantById events grantId).isSome
    "Workspace Memory grant already exists")
  appendMemoryEvent repository events .workspaceReadGranted
    [("grantId", .str grantId), ("targetChannelId", .str targetChannelId),
      ("actorId", .str actorId)]

def revokeWorkspaceRead (revocation : WorkspaceReadRevocation) : Op Unit := do
  let actorId ← .lift (nonEmptyString revocation.actorId "actorId")
  assertOwner repository actorId
  let grantId ← .lift (nonEmptyString revocation.grantId "grantId")
  let events ← readMemoryEvents repository.scope
  match (activeWorkspaceReadGrants events).find? (fun grant => grant.grantId = grantId) with
  | none => .throw (.error "Workspace Memory grant was not found")
  | some grant =>
    appendMemoryEvent repository events .workspaceReadRevoked
      [("grantId", .str grantId), ("targetChannelId", .str grant.targetChannelId),
        ("actorId", .str actorId)]

def inspect (memoryId : String) : Op (Option DeletedChannelMemory) := do
  let id ← .lift (nonEmptyString memoryId "memoryId")
  let events ← readMemoryEvents repository.scope
  return deletedChannelMemory events repository.scope id

def inspectCandidate (candidateId : String) : Op (Option DeletedMemoryCandidate) := do
  let id ← .lift (nonEmptyString candidateId "candidateId")
  let events ← readMemoryEvents repository.scope
  return deletedMemoryCandidate events repository.scope id

/-! ### `retrieve` -/

def parseChannelScope (scope : ChannelScope) : Except Thrown ChannelScope := do
  let workspaceId ← parseId scope.workspaceId "ChannelScope.workspaceId"
  let channelId ← parseId scope.channelId "ChannelScope.channelId"
  return { workspaceId, channelId }

/-- A reference that the loop goes past. -/
def isSkipped (reference : WorkspaceMemoryGrantReference) : Bool :=
  !isNonEmptyString reference.grantId || !isNonEmptyString reference.sourceChannelId ||
    decide (reference.sourceChannelId = repository.scope.channelId)

def memoriesUnder (queryTokens : List String) (reference : WorkspaceMemoryGrantReference)
    (sourceScope : ChannelScope) (sourceEvents : List Event) : List AcceptedChannelMemory :=
  match (activeWorkspaceReadGrants sourceEvents).find? (fun candidate =>
      decide (candidate.grantId = reference.grantId) &&
        decide (candidate.targetChannelId = repository.scope.channelId)) with
  | none => []
  | some grant =>
    (retrieveAcceptedMemories sourceEvents letters sourceScope queryTokens).map (fun memory =>
      { memory with
        workspaceGrant := some ⟨grant.grantId, grant.actorId, grant.eventId, grant.timestamp⟩ })

/-- The loop over `workspaceGrantRefs`. -/
def retrieveGranted (queryTokens : List String) :
    List WorkspaceMemoryGrantReference → Op (List AcceptedChannelMemory)
  | [] => return []
  | reference :: rest =>
    if isSkipped repository reference then retrieveGranted queryTokens rest
    else do
      let sourceScope ← .lift (parseChannelScope
        ⟨repository.scope.workspaceId, reference.sourceChannelId⟩)
      let sourceEvents ← readMemoryEvents sourceScope
      let others ← retrieveGranted queryTokens rest
      return memoriesUnder letters repository queryTokens reference sourceScope sourceEvents ++
        others

def grantFields : Option WorkspaceMemoryGrantProvenance → List (String × Json)
  | none => []
  | some grant =>
    [("workspaceGrantId", .str grant.grantId), ("grantEventId", .str grant.grantEventId)]

def hitPayload (memory : AcceptedChannelMemory) (rank : Nat) : List (String × Json) :=
  [("memoryId", .str memory.id), ("sourceWorkspaceId", .str memory.sourceChannel.workspaceId),
    ("sourceChannelId", .str memory.sourceChannel.channelId),
    ("sourceRunId", .str memory.sourceRunId),
    ("sourceEventIds", .arr (memory.sourceEventIds.map .str)),
    ("acceptedEventId", .str memory.acceptedEventId), ("rank", .num (.ofNat rank))] ++
    grantFields memory.workspaceGrant

def memoryHitType : String := "memory.hit"

/-- The loop over `memories.entries()`. -/
def recordHits (runId : StreamId) (seq : Nat) (rank : Nat) : List AcceptedChannelMemory → Op Unit
  | [] => return ()
  | memory :: rest => do
      let drawn ← ask .draw
      ask (.perform repository.scope (.append (memoryEvent repository.scope drawn runId seq
        memoryHitType (hitPayload memory rank))))
      recordHits runId (seq + 1) (rank + 1) rest

def checkRetrievalRun : Option String → Op Unit
  | none => return ()
  | some runId => do
      let runCommand ← ask (.perform repository.scope (.getRunCommand runId))
      match runCommand with
      | none => .throw (.error "Run was not claimed")
      | some command =>
        .lift (failWhen (decide (runMemoryPolicy command "read" = some "none"))
          "Memory reads are disabled by the RunProfile")

def recordRetrieval (memories : List AcceptedChannelMemory) : Option String → Op Unit
  | none => return ()
  | some runId => do
      let runEvents ← readEvents repository.scope runId
      .lift (failWhen (!runEvents.any (fun event => event.type == "run.started"))
        "Run has not started")
      recordHits repository runId (nextSequence runEvents) 1 memories

def parseRunId : Option String → Except Thrown (Option String)
  | none => .ok none
  | some runId => do
      let runId ← nonEmptyString runId "runId"
      return some runId

def retrieve (retrieval : MemoryRetrieval) : Op (List AcceptedChannelMemory) := do
  .lift (failWhen (decide (retrieval.limit < 1) || decide (retrieval.limit > 32))
    "Memory retrieval limit must be a positive integer no greater than 32")
  .lift (failWhen (decide (repository.memoryPolicy.read = .none))
    "Memory reads are disabled by the RunProfile")
  let runId ← .lift (parseRunId retrieval.runId)
  checkRetrievalRun repository runId
  let events ← readMemoryEvents repository.scope
  let queryTokens := memoryQueryTokens letters retrieval.query
  let localMemories := retrieveAcceptedMemories events letters repository.scope queryTokens
  let grantedMemories ←
    retrieveGranted letters repository queryTokens retrieval.workspaceGrantRefs
  let memories := (localMemories ++ grantedMemories).take retrieval.limit.toNat
  recordRetrieval repository memories runId
  return memories

def operate : Operation → Op Answer
  | .propose proposal => (propose repository proposal).bind (fun _ => .pure .done)
  | .editCandidate change => (editCandidate repository change).bind (fun _ => .pure .done)
  | .deleteCandidate deletion => (deleteCandidate repository deletion).bind (fun _ => .pure .done)
  | .accept acceptance => (accept repository acceptance).bind (fun _ => .pure .done)
  | .reject rejection => (reject repository rejection).bind (fun _ => .pure .done)
  | .edit change => (edit repository change).bind (fun _ => .pure .done)
  | .delete deletion => (delete repository deletion).bind (fun _ => .pure .done)
  | .grantWorkspaceRead grant => (grantWorkspaceRead repository grant).bind (fun _ => .pure .done)
  | .revokeWorkspaceRead revocation =>
    (revokeWorkspaceRead repository revocation).bind (fun _ => .pure .done)
  | .inspect memoryId =>
    (inspect repository memoryId).bind (fun memory => .pure (.inspected memory))
  | .inspectCandidate candidateId =>
    (inspectCandidate repository candidateId).bind
      (fun candidate => .pure (.inspectedCandidate candidate))
  | .retrieve retrieval =>
    (retrieve letters repository retrieval).bind (fun memories => .pure (.retrieved memories))

variable (streams : StreamStore)

/-- The answer to a request.  The owner is whoever the authorization says, and
a call of the store may fail for a reason of its own, before or after it has
had its effect. -/
inductive Performs : (request : Request) → streams.Store → Except Thrown request.Response →
    streams.Store → Prop
  | asserted (scope : ChannelScope) (actorId : String) (answer : Except Thrown Unit)
      (store : streams.Store) : Performs (.assertOwner scope actorId) store answer store
  | drew (drawn : Except Thrown Drawn) (store : streams.Store) : Performs .draw store drawn store
  | answered {scope : ChannelScope} {call : EventCall} {answer : call.Answer}
      {before after : streams.Store}
      (performed : streams.perform scope before call = .ok (answer, after)) :
      Performs (.perform scope call) before (.ok answer) after
  | failed (scope : ChannelScope) (call : EventCall) (error : Thrown) (store : streams.Store) :
      Performs (.perform scope call) store (.error error) store
  | lost {scope : ChannelScope} {call : EventCall} {answer : call.Answer}
      {before after : streams.Store} (error : Thrown)
      (performed : streams.perform scope before call = .ok (answer, after)) :
      Performs (.perform scope call) before (.error error) after

/-- Other users of the store append no events that mean something to a
memory. -/
def Drifts (before after : streams.Store) : Prop :=
  ∃ (scope : ChannelScope) (call : EventCall) (answer : call.Answer),
    streams.perform scope before call = .ok (answer, after) ∧
      ∀ event, call.appended? (streams.events before scope) = some event →
        event.streamId = memoryStreamId → ∀ type : MemoryEventType, event.type ≠ type.text

def host : Host streams.Store Repository Request Request.Response Thrown :=
  { performs := fun _ request before answer after => Performs streams request before answer after
    starts := fun _ _ _ => True
    stops := fun _ before after => before = after
    drifts := Drifts streams }

abbrev MemoryDesk :=
  Desk streams.Store Repository Operation Request Request.Response Thrown Answer

/-- Any number of repositories over one store, starting without calls. -/
def DeskReachable (start : streams.Store) (desk : MemoryDesk streams) : Prop :=
  Reachable ((host streams).DeskStep (operate letters)) ⟨start, []⟩ desk

def memoryEvents (store : streams.Store) (scope : ChannelScope) : List Event :=
  streams.events store scope memoryStreamId

end AnnaAgent.Memory
