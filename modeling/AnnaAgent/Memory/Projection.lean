/-
Searches through the events of a channel's memory
(`harness-v2/src/memory-projection.ts`).

The status of a candidate, a memory or a grant is not stored: each search goes
through the whole stream and takes the first or the last event it is about.
-/

import Mathlib.Data.List.Infix
import AnnaAgent.Memory.Events

namespace AnnaAgent.Memory

open Foundation EventStore

/-- `toLowerCase`, and the class `[\p{L}\p{N}]`. -/
structure Letters where
  toLowerCase : String → String
  isLetterOrNumber : Char → Bool

def memoryStopWords : List String :=
  ["a", "an", "and", "are", "as", "at", "be", "before", "by", "for",
    "from", "in", "into", "is", "it", "of", "on", "or", "the", "to",
    "with"]

def memoryQueryTokens (letters : Letters) (text : String) : List String :=
  (((letters.toLowerCase text).toList.splitOnP (fun c => !letters.isLetterOrNumber c)).map
    String.ofList).filter (fun token => token.length > 0 && !memoryStopWords.contains token)

/-- `text.includes(part)`. -/
def includes (text part : String) : Bool := decide (part.toList <:+: text.toList)

/-- The first value that a reader finds. -/
def firstOf {α : Type} (events : List Event) (read : Event → Option α) (p : α → Bool) : Option α :=
  events.findSome? (fun event => (read event).filter p)

/-- The last value that a reader finds. -/
def lastOf {α : Type} (events : List Event) (read : Event → Option α) (p : α → Bool) : Option α :=
  events.foldl (fun found event => ((read event).filter p).or found) none

variable (events : List Event)

def candidateById (candidateId : String) : Option StoredCandidate :=
  firstOf events proposedCandidate (fun candidate => candidate.id = candidateId)

inductive StoredDecision where
  | acceptanceOrRejection (decision : StoredAcceptance)
  | candidateDeletion (deletion : StoredCandidateDeletion)
  deriving DecidableEq

def StoredDecision.eventId : StoredDecision → EventId
  | .acceptanceOrRejection decision => decision.eventId
  | .candidateDeletion deletion => deletion.eventId

def decisionForCandidate (candidateId : String) : Option StoredDecision :=
  events.findSome? (fun event =>
    match ((acceptedCandidate event).or (rejectedCandidate event)).filter
        (fun decision => decision.candidateId = candidateId) with
    | some decision => some (.acceptanceOrRejection decision)
    | none =>
      ((deletedCandidate event).filter (fun deletion => deletion.candidateId = candidateId)).map
        .candidateDeletion)

/-- The search ends at a rejection too, and then finds nothing. -/
def acceptedMemory : List Event → String → Option StoredAcceptance
  | [], _ => none
  | event :: rest, memoryId =>
    match (acceptedCandidate event).filter (fun acceptance =>
        acceptance.candidateId = memoryId) with
    | some acceptance => some acceptance
    | none => if rejects memoryId event then none else acceptedMemory rest memoryId

theorem acceptedMemory_cons (event : Event) (rest : List Event) (memoryId : String) :
    acceptedMemory (event :: rest) memoryId =
      match (acceptedCandidate event).filter (fun acceptance =>
          acceptance.candidateId = memoryId) with
      | some acceptance => some acceptance
      | none => if rejects memoryId event then none else acceptedMemory rest memoryId := rfl

def deletedMemory (memoryId : String) : Option StoredDeletion :=
  lastOf events deletedMemoryEvent (fun deletion => deletion.memoryId = memoryId)

def candidateDeletion (candidateId : String) : Option StoredCandidateDeletion :=
  firstOf events deletedCandidate (fun deletion => deletion.candidateId = candidateId)

def latestEditedMemory (memoryId : String) : Option StoredEdit :=
  lastOf events editedMemory (fun edit => edit.memoryId = memoryId)

def latestEditedCandidate (candidateId : String) : Option StoredCandidateEdit :=
  lastOf events editedCandidate (fun edit => edit.candidateId = candidateId)

def workspaceReadGrantById (grantId : String) : Option StoredWorkspaceReadGrant :=
  firstOf events workspaceReadGranted (fun grant => grant.grantId = grantId)

/-- `revocation?.grantId === grant.grantId && revocation.targetChannelId ===
grant.targetChannelId`. -/
def revokesGrant (grant : StoredWorkspaceReadGrant) (event : Event) : Bool :=
  (workspaceReadRevoked event).any (fun revocation =>
    decide (revocation.grantId = grant.grantId) &&
      decide (revocation.targetChannelId = grant.targetChannelId))

def activeGrantsAfter (prior : List Event) : List Event → List StoredWorkspaceReadGrant
  | [] => []
  | event :: rest =>
    (match workspaceReadGranted event with
      | none => []
      | some grant =>
        if prior.any (grants grant.grantId) || rest.any (revokesGrant grant) then []
        else [grant]) ++ activeGrantsAfter (prior ++ [event]) rest

def activeWorkspaceReadGrants : List StoredWorkspaceReadGrant := activeGrantsAfter [] events

section Searches

variable {events} {α : Type} {read : Event → Option α} {p : α → Bool}

theorem firstOf_isSome :
    (firstOf events read p).isSome = events.any (fun event => (read event).any p) := by
  rw [Bool.eq_iff_iff, List.any_eq_true]
  refine List.findSome?_isSome_iff.trans ?_
  refine exists_congr (fun event => and_congr_right (fun _ => ?_))
  rw [Option.isSome_filter]

theorem lastOf_append (early late : List Event) :
    lastOf (early ++ late) read p = (lastOf late read p).or (lastOf early read p) := by
  unfold lastOf
  rw [List.foldl_append]
  generalize early.foldl (fun found event => ((read event).filter p).or found) none = found
  induction late using List.reverseRecOn with
  | nil => rfl
  | append_singleton late event ih =>
    rw [List.foldl_append, List.foldl_append, ih]
    exact (Option.or_assoc ..).symm

theorem lastOf_singleton (event : Event) : lastOf [event] read p = (read event).filter p :=
  Option.or_none

theorem lastOf_isSome :
    (lastOf events read p).isSome = events.any (fun event => (read event).any p) := by
  induction events using List.reverseRecOn with
  | nil => rfl
  | append_singleton early event ih =>
    rw [lastOf_append, lastOf_singleton, Option.isSome_or, ih, Option.isSome_filter,
      List.any_append, List.any_cons, List.any_nil, Bool.or_false, Bool.or_comm]

theorem candidateById_isSome (candidateId : String) :
    (candidateById events candidateId).isSome = events.any (proposes candidateId) :=
  firstOf_isSome

theorem deletedMemory_isSome (memoryId : String) :
    (deletedMemory events memoryId).isSome = events.any (deletesMemory memoryId) :=
  lastOf_isSome

theorem workspaceReadGrantById_isSome (grantId : String) :
    (workspaceReadGrantById events grantId).isSome = events.any (grants grantId) :=
  firstOf_isSome

theorem mem_activeGrantsAfter {grant : StoredWorkspaceReadGrant} {prior : List Event} :
    grant ∈ activeGrantsAfter prior events ↔ ∃ early event late, events = early ++ event :: late ∧
      workspaceReadGranted event = some grant ∧
        (prior ++ early).any (grants grant.grantId) = false ∧
          late.any (revokesGrant grant) = false := by
  induction events generalizing prior with
  | nil =>
    refine ⟨(fun absent => nomatch absent), ?_⟩
    rintro ⟨early, event, late, same, _⟩
    exact absurd same.symm (List.append_ne_nil_of_right_ne_nil _ (List.cons_ne_nil _ _))
  | cons head rest ih =>
    unfold activeGrantsAfter
    rw [List.mem_append, ih]
    constructor
    · rintro (here | ⟨early, event, late, same, given, first, kept⟩)
      · split at here
        · cases here
        · rename_i given found
          split at here
          · cases here
          · rename_i stands
            rw [Bool.or_eq_true, not_or, Bool.not_eq_true, Bool.not_eq_true] at stands
            rw [List.mem_singleton.1 here]
            refine ⟨[], head, rest, rfl, found, ?_, stands.2⟩
            rw [List.append_nil]
            exact stands.1
      · refine ⟨head :: early, event, late, congrArg (List.cons head) same, given, ?_, kept⟩
        rw [List.append_assoc] at first
        exact first
    · rintro ⟨early, event, late, same, given, first, kept⟩
      cases early with
      | nil =>
        cases same
        left
        rw [given]
        dsimp only
        rw [List.append_nil] at first
        rw [first, kept, if_neg (by decide)]
        exact List.mem_singleton_self grant
      | cons other early =>
        cases same
        right
        refine ⟨early, event, late, rfl, given, ?_, kept⟩
        rw [List.append_assoc]
        exact first

end Searches

structure WorkspaceMemoryGrantProvenance where
  grantId : String
  grantedBy : String
  grantEventId : EventId
  grantedAt : Timestamp
  deriving DecidableEq

structure Edition where
  editedBy : String
  editedEventId : EventId
  editedAt : Timestamp
  deriving DecidableEq

structure AcceptedChannelMemory where
  id : String
  content : String
  sourceRunId : String
  sourceEventIds : List String
  sourceChannel : ChannelScope
  acceptedBy : String
  acceptedEventId : EventId
  acceptedAt : Timestamp
  edition : Option Edition
  workspaceGrant : Option WorkspaceMemoryGrantProvenance
  deriving DecidableEq

structure DeletedChannelMemory where
  id : String
  sourceRunId : String
  sourceEventIds : List String
  sourceChannel : ChannelScope
  acceptedBy : String
  acceptedEventId : EventId
  acceptedAt : Timestamp
  deletedBy : String
  deletedEventId : EventId
  deletedAt : Timestamp
  deriving DecidableEq

structure DeletedMemoryCandidate where
  id : String
  sourceRunId : String
  sourceEventIds : List String
  sourceChannel : ChannelScope
  deletedBy : String
  deletedEventId : EventId
  deletedAt : Timestamp
  deriving DecidableEq

/-- The content and edition of a candidate: the latest edit of the memory, or
else the latest edit of the candidate, or else what was proposed. -/
def editionOf (candidate : StoredCandidate) : String × Option Edition :=
  match latestEditedMemory events candidate.id with
  | some edit => (edit.content, some ⟨edit.actorId, edit.eventId, edit.timestamp⟩)
  | none =>
    match latestEditedCandidate events candidate.id with
    | some edit => (edit.content, some ⟨edit.actorId, edit.eventId, edit.timestamp⟩)
    | none => (candidate.content, none)

/-- `queryTokens.every((token) => content.toLowerCase().includes(token))`. -/
def matchesTokens (letters : Letters) (queryTokens : List String) (content : String) : Bool :=
  queryTokens.all (fun token => includes (letters.toLowerCase content) token)

def acceptedChannelMemory (scope : ChannelScope) (candidate : StoredCandidate)
    (acceptance : StoredAcceptance) : AcceptedChannelMemory :=
  { id := candidate.id
    content := (editionOf events candidate).1
    sourceRunId := candidate.sourceRunId
    sourceEventIds := candidate.sourceEventIds
    sourceChannel := scope
    acceptedBy := acceptance.actorId
    acceptedEventId := acceptance.eventId
    acceptedAt := acceptance.timestamp
    edition := (editionOf events candidate).2
    workspaceGrant := none }

def memoryAt (letters : Letters) (scope : ChannelScope) (queryTokens : List String)
    (event : Event) : List AcceptedChannelMemory :=
  match proposedCandidate event with
  | none => []
  | some candidate =>
    match acceptedMemory events candidate.id, deletedMemory events candidate.id with
    | some acceptance, none =>
      if matchesTokens letters queryTokens (editionOf events candidate).1 then
        [acceptedChannelMemory events scope candidate acceptance]
      else []
    | _, _ => []

def retrieveAcceptedMemories (letters : Letters) (scope : ChannelScope)
    (queryTokens : List String) : List AcceptedChannelMemory :=
  if queryTokens.length = 0 then []
  else events.flatMap (memoryAt events letters scope queryTokens)

def deletedChannelMemory (scope : ChannelScope) (memoryId : String) :
    Option DeletedChannelMemory := do
  let candidate ← candidateById events memoryId
  let acceptance ← acceptedMemory events memoryId
  let deletion ← deletedMemory events memoryId
  return { id := candidate.id
           sourceRunId := candidate.sourceRunId
           sourceEventIds := candidate.sourceEventIds
           sourceChannel := scope
           acceptedBy := acceptance.actorId
           acceptedEventId := acceptance.eventId
           acceptedAt := acceptance.timestamp
           deletedBy := deletion.actorId
           deletedEventId := deletion.eventId
           deletedAt := deletion.timestamp }

def deletedMemoryCandidate (scope : ChannelScope) (candidateId : String) :
    Option DeletedMemoryCandidate := do
  let candidate ← candidateById events candidateId
  let deletion ← candidateDeletion events candidateId
  if (decisionForCandidate events candidateId).map StoredDecision.eventId = some deletion.eventId then
    return { id := candidate.id
             sourceRunId := candidate.sourceRunId
             sourceEventIds := candidate.sourceEventIds
             sourceChannel := scope
             deletedBy := deletion.actorId
             deletedEventId := deletion.eventId
             deletedAt := deletion.timestamp }
  else none

end AnnaAgent.Memory
