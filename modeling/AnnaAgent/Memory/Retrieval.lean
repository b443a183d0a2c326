/-
What a retrieval finds, and the governance of memories over whole runs.

A retrieval reads its own memory and that of every channel a reference names,
each at a moment of its own.  It finds what these memories say at that moment.
-/

import AnnaAgent.EventStore.Conformance
import AnnaAgent.Memory.Writers

namespace AnnaAgent.Memory

open Foundation EventStore Contract

variable {streams : StreamStore} {letters : Letters} {repository : Repository}
  {begun store : streams.Store}

/-- The events were all events of a memory at some moment between two states. -/
def Seen (streams : StreamStore) (begun now : streams.Store) (scope : ChannelScope)
    (events : List Event) : Prop :=
  memoryEvents streams begun scope <+: events ∧ events <+: memoryEvents streams now scope

variable {scope : ChannelScope} {events : List Event} {queryTokens : List String}
  {reference : WorkspaceMemoryGrantReference}

theorem Seen.later {now : streams.Store} (seen : Seen streams begun store scope events)
    (later : StreamStore.Longer store now) : Seen streams begun now scope events :=
  ⟨seen.1, seen.2.trans (later scope memoryStreamId)⟩

theorem seen_now (later : StreamStore.Longer begun store) (scope : ChannelScope) :
    Seen streams begun store scope (memoryEvents streams store scope) :=
  ⟨later scope memoryStreamId, List.prefix_rfl⟩

def sourceScope (repository : Repository) (reference : WorkspaceMemoryGrantReference) :
    ChannelScope :=
  ⟨repository.scope.workspaceId, reference.sourceChannelId⟩

abbrev Source := WorkspaceMemoryGrantReference × List Event

/-- The memories of the own channel and of the channels under grants, each with
its latest content; each once unless two references name the same channel. -/
structure FoundIn (letters : Letters) (repository : Repository) (queryTokens : List String)
    (own : List Event) (sources : List Source) (found : List AcceptedChannelMemory) : Prop where
  exactly : ∀ channel id content, (∃ memory ∈ found, memory.sourceChannel = channel ∧
      memory.id = id ∧ memory.content = content) ↔
    queryTokens ≠ [] ∧
      ((channel = repository.scope ∧ Retrievable letters queryTokens own id content) ∨
        ∃ source ∈ sources, channel = sourceScope repository source.1 ∧
          Granted source.2 source.1.grantId repository.scope.channelId ∧
          Retrievable letters queryTokens source.2 id content)
  once : (sources.map (fun source => source.1.sourceChannelId)).Nodup →
    (found.map (fun memory => (memory.sourceChannel, memory.id))).Nodup

/-- What a retrieval answers, up to its limit. -/
def Retrieved (streams : StreamStore) (letters : Letters) (repository : Repository)
    (retrieval : MemoryRetrieval) (begun now : streams.Store)
    (memories : List AcceptedChannelMemory) : Prop :=
  ∃ own sources found, Seen streams begun now repository.scope own ∧
    sources.map Prod.fst =
      retrieval.workspaceGrantRefs.filter (fun reference => !isSkipped repository reference) ∧
    (∀ source ∈ sources, Seen streams begun now (sourceScope repository source.1) source.2) ∧
    FoundIn letters repository (memoryQueryTokens letters retrieval.query) own sources found ∧
    memories = found.take retrieval.limit.toNat

theorem mem_memoriesUnder {memory : AcceptedChannelMemory} :
    memory ∈ memoriesUnder letters repository queryTokens reference scope events ↔
      ∃ grant, (activeWorkspaceReadGrants events).find? (fun candidate =>
          decide (candidate.grantId = reference.grantId) &&
            decide (candidate.targetChannelId = repository.scope.channelId)) = some grant ∧
        ∃ local_ ∈ retrieveAcceptedMemories events letters scope queryTokens,
          { local_ with
            workspaceGrant := some ⟨grant.grantId, grant.actorId, grant.eventId,
              grant.timestamp⟩ } = memory := by
  unfold memoriesUnder
  cases (activeWorkspaceReadGrants events).find? (fun candidate =>
      decide (candidate.grantId = reference.grantId) &&
        decide (candidate.targetChannelId = repository.scope.channelId)) with
  | none =>
    refine ⟨(fun absent => nomatch absent), ?_⟩
    rintro ⟨grant, absent, _⟩
    cases absent
  | some grant =>
    dsimp only
    rw [List.mem_map]
    constructor
    · intro found
      exact ⟨grant, rfl, found⟩
    · rintro ⟨_, same, found⟩
      cases same
      exact found

theorem find_grant (governed : Governed events) :
    (∃ grant, (activeWorkspaceReadGrants events).find? (fun candidate =>
        decide (candidate.grantId = reference.grantId) &&
          decide (candidate.targetChannelId = repository.scope.channelId)) = some grant) ↔
      Granted events reference.grantId repository.scope.channelId := by
  rw [← governed.granted_iff, ← Option.isSome_iff_exists, List.find?_isSome]
  refine exists_congr (fun grant => and_congr_right (fun _ => ?_))
  rw [Bool.and_eq_true, decide_eq_true_eq, decide_eq_true_eq]

theorem exists_memoriesUnder {channel : ChannelScope} (governed : Governed events)
    {id content : String} :
    (∃ memory ∈ memoriesUnder letters repository queryTokens reference scope events,
      memory.sourceChannel = channel ∧ memory.id = id ∧ memory.content = content) ↔
      channel = scope ∧ Granted events reference.grantId repository.scope.channelId ∧
        queryTokens ≠ [] ∧ Retrievable letters queryTokens events id content := by
  constructor
  · rintro ⟨memory, member, isChannel, isId, isContent⟩
    obtain ⟨grant, found, own, isOwn, same⟩ := mem_memoriesUnder.1 member
    rw [← same] at isChannel isId isContent
    have isScope : own.sourceChannel = scope := retrieve_source isOwn
    exact ⟨isChannel.symm.trans isScope, (find_grant governed).1 ⟨grant, found⟩,
      governed.mem_retrieve.1 ⟨own, isOwn, isId, isContent⟩⟩
  · rintro ⟨isChannel, granted, retrievable⟩
    obtain ⟨grant, found⟩ := (find_grant governed).2 granted
    obtain ⟨own, isOwn, isId, isContent⟩ := governed.mem_retrieve.2 retrievable
    have isScope : own.sourceChannel = scope := retrieve_source isOwn
    exact ⟨_, mem_memoriesUnder.2 ⟨grant, found, own, isOwn, rfl⟩, isScope.trans isChannel.symm, isId,
      isContent⟩

/-- What the loop over the references gives. -/
def grantedFrom (letters : Letters) (repository : Repository) (queryTokens : List String)
    (sources : List Source) : List AcceptedChannelMemory :=
  sources.flatMap (fun source =>
    memoriesUnder letters repository queryTokens source.1 (sourceScope repository source.1) source.2)

theorem keys_memoriesUnder (governed : Governed events) :
    ((memoriesUnder letters repository queryTokens reference scope events).map
      (fun memory => (memory.sourceChannel, memory.id))).Nodup := by
  unfold memoriesUnder
  split
  · exact List.nodup_nil
  · rw [List.map_map]
    apply List.Nodup.of_map Prod.snd
    rw [List.map_map]
    exact governed.retrieve_nodup

theorem foundIn_sources {own : List Event} {sources : List Source} (governedOwn : Governed own)
    (governed : ∀ source ∈ sources, Governed source.2)
    (others : ∀ source ∈ sources, source.1.sourceChannelId ≠ repository.scope.channelId) :
    FoundIn letters repository queryTokens own sources
      (retrieveAcceptedMemories own letters repository.scope queryTokens ++
        grantedFrom letters repository queryTokens sources) := by
  refine ⟨?_, ?_⟩
  · intro channel id content
    constructor
    · rintro ⟨memory, member, isChannel, isId, isContent⟩
      rcases List.mem_append.1 member with isOwn | isGranted
      · obtain ⟨tokens, retrievable⟩ := governedOwn.mem_retrieve.1 ⟨memory, isOwn, isId, isContent⟩
        exact ⟨tokens, Or.inl ⟨isChannel.symm.trans (retrieve_source isOwn), retrievable⟩⟩
      · obtain ⟨source, isSource, isUnder⟩ := List.mem_flatMap.1 isGranted
        obtain ⟨sameChannel, granted, tokens, retrievable⟩ :=
          (exists_memoriesUnder (governed source isSource)).1
            ⟨memory, isUnder, isChannel, isId, isContent⟩
        exact ⟨tokens, Or.inr ⟨source, isSource, sameChannel, granted, retrievable⟩⟩
    · rintro ⟨tokens, ⟨isChannel, retrievable⟩ | ⟨source, isSource, isChannel, granted, retrievable⟩⟩
      · obtain ⟨memory, isOwn, isId, isContent⟩ := governedOwn.mem_retrieve.2 ⟨tokens, retrievable⟩
        exact ⟨memory, List.mem_append_left _ isOwn, (retrieve_source isOwn).trans isChannel.symm,
          isId, isContent⟩
      · obtain ⟨memory, isUnder, found⟩ := (exists_memoriesUnder (governed source isSource)).2
          ⟨isChannel, granted, tokens, retrievable⟩
        exact ⟨memory, List.mem_append_right _ (List.mem_flatMap.2 ⟨source, isSource, isUnder⟩),
          found⟩
  · intro distinct
    have inChannel : ∀ source ∈ sources, ∀ memory ∈ memoriesUnder letters repository queryTokens
        source.1 (sourceScope repository source.1) source.2,
        memory.sourceChannel = sourceScope repository source.1 := by
      intro source isSource memory isUnder
      exact ((exists_memoriesUnder (governed source isSource)).1 ⟨memory, isUnder, rfl, rfl, rfl⟩).1
    rw [List.map_append, List.nodup_append]
    refine ⟨?_, ?_, ?_⟩
    · apply List.Nodup.of_map Prod.snd
      rw [List.map_map]
      exact governedOwn.retrieve_nodup
    · unfold grantedFrom
      rw [List.map_flatMap, List.nodup_flatMap]
      refine ⟨fun source isSource => keys_memoriesUnder (governed source isSource), ?_⟩
      refine List.Pairwise.imp_of_mem ?_ (List.pairwise_map.1 distinct)
      intro first second isFirst isSecond apart
      change List.Disjoint _ _
      rw [List.disjoint_left]
      intro key inFirst inSecond
      obtain ⟨memory, isUnder, isKey⟩ := List.mem_map.1 inFirst
      obtain ⟨other, isOther, isOtherKey⟩ := List.mem_map.1 inSecond
      have sameChannel := congrArg Prod.fst (isKey.trans isOtherKey.symm)
      change memory.sourceChannel = other.sourceChannel at sameChannel
      rw [inChannel first isFirst memory isUnder, inChannel second isSecond other isOther] at sameChannel
      exact apart (congrArg ChannelScope.channelId sameChannel)
    · intro key inOwn other inGranted same
      obtain ⟨memory, isOwn, isKey⟩ := List.mem_map.1 inOwn
      obtain ⟨grantedMemory, isGranted, isOtherKey⟩ := List.mem_map.1 inGranted
      obtain ⟨source, isSource, isUnder⟩ := List.mem_flatMap.1 isGranted
      have sameChannel := congrArg Prod.fst (isKey.trans (same.trans isOtherKey.symm))
      change memory.sourceChannel = grantedMemory.sourceChannel at sameChannel
      rw [retrieve_source isOwn, inChannel source isSource grantedMemory isUnder] at sameChannel
      exact others source isSource (congrArg ChannelScope.channelId sameChannel).symm

theorem parseChannelScope_ok {parsed : ChannelScope}
    (succeeded : parseChannelScope scope = .ok parsed) : parsed = scope := by
  obtain ⟨workspaceId, isWorkspace, succeeded⟩ := bind_ok succeeded
  obtain ⟨channelId, isChannel, succeeded⟩ := bind_ok succeeded
  cases succeeded
  rw [expectNonEmptyString_eq isWorkspace, expectNonEmptyString_eq isChannel]

def ReadSources (streams : StreamStore) (letters : Letters) (repository : Repository)
    (queryTokens : List String) (references : List WorkspaceMemoryGrantReference)
    (begun : streams.Store) (outcome : Except Thrown (List AcceptedChannelMemory))
    (now : streams.Store) : Prop :=
  ∀ found, outcome = .ok found → ∃ sources : List Source,
    sources.map Prod.fst = references.filter (fun reference => !isSkipped repository reference) ∧
    (∀ source ∈ sources, Seen streams begun now (sourceScope repository source.1) source.2 ∧
      Governed source.2) ∧
    found = grantedFrom letters repository queryTokens sources

theorem ensures_retrieveGranted (references : List WorkspaceMemoryGrantReference)
    (since : StreamStore.Longer begun store) :
    (contract streams).Ensures repository (retrieveGranted letters repository queryTokens references)
      (ReadSources streams letters repository queryTokens references begun) store := by
  induction references generalizing store with
  | nil =>
    intro now _ _ found same
    cases same
    exact ⟨[], rfl, (fun _ absent => nomatch absent), rfl⟩
  | cons reference rest ih =>
    unfold retrieveGranted
    cases skipped : isSkipped repository reference with
    | true =>
      rw [if_pos rfl]
      refine ensures_mono (ih since) ?_
      intro outcome now read found same
      obtain ⟨sources, areRest, seen, isFound⟩ := read found same
      refine ⟨sources, ?_, seen, isFound⟩
      rw [areRest, List.filter_cons, skipped]
      rfl
    | false =>
      rw [if_neg Bool.false_ne_true]
      refine ensures_check ?_ (fun _ _ _ absent => nomatch absent)
      intro scope parsed
      rw [parseChannelScope_ok parsed]
      refine ensures_readMemoryEvents ?_ (fun _ _ _ absent => nomatch absent)
      intro now later sound
      refine ensures_bind (ensures_since (ih (since.trans later)) (StreamStore.Longer.refl now)) ?_
        (fun _ _ _ _ _ _ absent => nomatch absent)
      rintro others next _ _ ⟨read, nextLater⟩
      obtain ⟨sources, areRest, seen, isFound⟩ := read others rfl
      intro last lastLater _ found same
      cases same
      refine ⟨(reference, memoryEvents streams now (sourceScope repository reference)) :: sources,
        ?_, ?_, ?_⟩
      · rw [List.map_cons, areRest, List.filter_cons, skipped]
        rfl
      · intro source member
        rcases List.mem_cons.1 member with isFirst | isRest
        · rw [isFirst]
          exact ⟨(seen_now (since.trans later) _).later (nextLater.trans lastLater),
            sound.governed _⟩
        · exact ⟨(seen source isRest).1.later lastLater, (seen source isRest).2⟩
      · rw [isFound]
        rfl

theorem memoryHit_ne (type : MemoryEventType) : memoryHitType ≠ type.text := by
  cases type <;> decide

theorem ensures_recordHits {runId : StreamId} {seq rank : Nat} (memories : List AcceptedChannelMemory) :
    (contract streams).Ensures repository (recordHits repository runId seq rank memories)
      (fun _ _ => True) store := by
  induction memories generalizing seq rank store with
  | nil => exact fun _ _ _ => trivial
  | cons memory rest ih =>
    refine ensures_ask (fun _ => trivial) ?_ (fun _ _ => trivial)
    intro drawn now _
    refine ensures_ask ?_ (fun _ now _ => ih) (fun _ _ => trivial)
    intro before event isAppended _ _
    cases isAppended
    exact admissible_other memoryHit_ne

theorem ensures_checkRetrievalRun (runId : Option String) :
    (contract streams).Ensures repository (checkRetrievalRun repository runId) (fun _ _ => True)
      store := by
  cases runId with
  | none => exact fun _ _ _ => trivial
  | some runId =>
    refine ensures_ask (fun _ _ isAppended => nomatch isAppended) ?_ (fun _ _ => trivial)
    intro runCommand now _
    cases runCommand with
    | none => exact fun _ _ _ => trivial
    | some command =>
      unfold failWhen
      dsimp only
      split
      · exact fun _ _ _ => trivial
      · exact fun _ _ _ => trivial

theorem ensures_recordRetrieval {memories : List AcceptedChannelMemory} (runId : Option String) :
    (contract streams).Ensures repository (recordRetrieval repository memories runId)
      (fun _ _ => True) store := by
  cases runId with
  | none => exact fun _ _ _ => trivial
  | some runId =>
    refine ensures_ask (fun now => allowed_read _ _ now) ?_ (fun _ _ => trivial)
    intro runEvents now _
    refine ensures_check ?_ (fun _ _ => trivial)
    intro _ _
    exact ensures_recordHits memories

theorem ensures_retrieve (retrieval : MemoryRetrieval) :
    (contract streams).Ensures repository (retrieve letters repository retrieval)
      (fun outcome now => ∀ memories, outcome = .ok memories →
        Retrieved streams letters repository retrieval store now memories) store := by
  refine ensures_check ?_ (fun _ _ _ absent => nomatch absent)
  intro _ _
  refine ensures_check ?_ (fun _ _ _ absent => nomatch absent)
  intro _ _
  refine ensures_check ?_ (fun _ _ _ absent => nomatch absent)
  intro runId _
  refine ensures_then (ensures_checkRetrievalRun runId) ?_ (fun _ _ _ _ _ absent => nomatch absent)
  intro _ first since _
  refine ensures_readMemoryEvents ?_ (fun _ _ _ absent => nomatch absent)
  intro second sinceFirst sound
  have sinceBegun := since.trans sinceFirst
  refine ensures_bind (ensures_retrieveGranted retrieval.workspaceGrantRefs sinceBegun) ?_
    (fun _ _ _ _ _ _ absent => nomatch absent)
  intro granted third sinceSecond _ read
  obtain ⟨sources, areReferences, seen, isGranted⟩ := read granted rfl
  refine ensures_then (ensures_recordRetrieval runId) ?_ (fun _ _ _ _ _ absent => nomatch absent)
  intro _ fourth sinceThird _ last sinceFourth _ memories same
  cases same
  have toLast := sinceThird.trans sinceFourth
  refine ⟨memoryEvents streams second repository.scope, sources, _,
    (seen_now sinceBegun _).later (sinceSecond.trans toLast), areReferences,
    (fun source member => (seen source member).1.later toLast),
    foundIn_sources (sound.governed _) (fun source member => (seen source member).2) ?_, ?_⟩
  · intro source member sameChannel
    have isReference : source.1 ∈ sources.map Prod.fst := List.mem_map_of_mem member
    rw [areReferences, List.mem_filter] at isReference
    have notSkipped := isReference.2
    unfold isSkipped at notSkipped
    rw [sameChannel, decide_eq_true rfl, Bool.or_true] at notSkipped
    cases notSkipped
  · rw [isGranted]

/-! ### Whole runs -/

def Returns (streams : StreamStore) (letters : Letters) (repository : Repository)
    (operation : Operation) (begun : streams.Store) (outcome : Except Thrown Answer)
    (now : streams.Store) : Prop :=
  ∀ retrieval memories, operation = .retrieve retrieval → outcome = .ok (.retrieved memories) →
    Retrieved streams letters repository retrieval begun now memories

theorem ensures_done {α : Type} {program : Op α} {answer : α → Answer} {operation : Operation}
    (ensures : (contract streams).Ensures repository program (fun _ _ => True) store)
    (other : ∀ retrieval, operation ≠ .retrieve retrieval) :
    (contract streams).Ensures repository (program.bind (fun value => .pure (answer value)))
      (Returns streams letters repository operation begun) store :=
  ensures_then ensures
    (fun _ _ _ _ _ _ _ retrieval _ isRetrieval => absurd isRetrieval (other retrieval))
    (fun _ _ _ _ retrieval _ isRetrieval => absurd isRetrieval (other retrieval))

theorem ensures_inspection {α : Type} {text name : String} {answer : List Event → String → α} :
    (contract streams).Ensures repository
      ((Program.lift (nonEmptyString text name)).bind (fun id =>
        (readMemoryEvents repository.scope).bind (fun events => .pure (answer events id))))
      (fun _ _ => True) store := by
  refine ensures_check ?_ (fun _ _ => trivial)
  intro id _
  exact ensures_readMemoryEvents (fun _ _ _ _ _ _ => trivial) (fun _ _ => trivial)

theorem ensures_operate (letters : Letters) (operation : Operation) (store : streams.Store) :
    (contract streams).Ensures repository (operate letters repository operation)
      (Returns streams letters repository operation store) store := by
  cases operation with
  | propose proposal => exact ensures_done (ensures_propose proposal) nofun
  | editCandidate change => exact ensures_done (ensures_editCandidate change) nofun
  | deleteCandidate deletion | accept acceptance | reject rejection =>
    exact ensures_done (ensures_decideCandidate rfl _ _) nofun
  | edit change => exact ensures_done (ensures_edit change) nofun
  | delete deletion => exact ensures_done (ensures_delete deletion) nofun
  | grantWorkspaceRead grant => exact ensures_done (ensures_grantWorkspaceRead grant) nofun
  | revokeWorkspaceRead revocation =>
    exact ensures_done (ensures_revokeWorkspaceRead revocation) nofun
  | inspect memoryId | inspectCandidate candidateId => exact ensures_done ensures_inspection nofun
  | retrieve retrieval =>
    refine ensures_bind (ensures_retrieve retrieval) ?_
      (fun _ _ _ _ _ _ _ _ absent => nomatch absent)
    intro found now _ _ retrieved last later _ other memories same isAnswer
    cases same
    cases isAnswer
    obtain ⟨own, sources, all, seenOwn, areReferences, seen, foundIn, isFound⟩ :=
      retrieved found rfl
    exact ⟨own, sources, all, seenOwn.later later, areReferences,
      (fun source member => (seen source member).later later), foundIn, isFound⟩

/-- In every interleaving of repositories and other users of the store, the
memories are governed by their rules and every retrieval finds what they say. -/
theorem memories_governed (streams : StreamStore) (letters : Letters) {start : streams.Store}
    (empty : ∀ scope, memoryEvents streams start scope = []) {desk : MemoryDesk streams}
    (reached : DeskReachable letters streams start desk) :
    (∀ scope, Ordered (memoryEvents streams desk.shared scope)) ∧
      ∀ call ∈ desk.calls, ∀ retrieval memories, call.operation = .retrieve retrieval →
        call.program = .pure (.retrieved memories) →
          Retrieved streams letters call.owner retrieval call.begun desk.shared memories := by
  have initial : Sound streams start := by
    refine ⟨?_, ?_⟩
    · intro scope
      rw [empty]
      rfl
    · intro scope
      rw [empty]
      exact governed_nil
  have kept : (contract streams).OnDesk (Returns streams letters) desk :=
    desk_kept (fun _ operation store _ => ensures_operate letters operation store) initial reached
  refine ⟨fun scope => (kept.inv.governed scope).ordered, ?_⟩
  intro call member retrieval memories isRetrieval returned
  exact kept.returned member returned retrieval memories isRetrieval rfl

abbrev memoryStreams (dates : Dates) : StreamStore := InMemoryEventStore.streamStore dates

/-- A request is answered at once, and the owner is always confirmed. -/
def answered (dates : Dates) (drawn : Drawn) (store : (memoryStreams dates).Store) :
    (request : Request) → Except Thrown request.Response × (memoryStreams dates).Store
  | .assertOwner _ _ => (.ok (), store)
  | .draw => (.ok drawn, store)
  | .perform scope call =>
    match (memoryStreams dates).perform scope store call with
    | .ok (answer, after) => (.ok answer, after)
    | .error error => (.error error, store)

theorem answered_performs (dates : Dates) (drawn : Drawn)
    (store : (memoryStreams dates).Store) (request : Request) :
    Performs (memoryStreams dates) request store
      (answered dates drawn store request).1 (answered dates drawn store request).2 := by
  cases request with
  | assertOwner scope actorId => exact .asserted scope actorId _ store
  | draw => exact .drew _ store
  | perform scope call =>
    unfold answered
    dsimp only
    cases performed : (memoryStreams dates).perform scope store call with
    | error error => exact .failed scope call error store
    | ok result => exact .answered performed

theorem drift_reaches (dates : Dates) (letters : Letters)
    {start store : (memoryStreams dates).Store}
    {calls : List (Call (memoryStreams dates).Store Repository Operation Request Request.Response
      Thrown Answer)}
    (reached : DeskReachable letters (memoryStreams dates) start ⟨store, calls⟩)
    (call : ChannelScope × EventCall)
    (silent : ∀ event, call.2.appended? ((memoryStreams dates).events store call.1) = some event →
      event.streamId ≠ memoryStreamId) :
    DeskReachable letters (memoryStreams dates) start
      ⟨after (memoryCall dates) [call] store, calls⟩ := by
  change DeskReachable letters (memoryStreams dates) start ⟨(atomically (memoryCall dates call) store).2, calls⟩
  unfold atomically
  cases performed : memoryCall dates call store with
  | error error => exact reached
  | ok result =>
    refine reached.next (.drifted ⟨call.1, call.2, result.1, performed, ?_⟩)
    intro event isAppended isMemory
    exact absurd isMemory (silent event isAppended)

def asciiLetters : Letters :=
  { toLowerCase := String.toLower
    isLetterOrNumber := Char.isAlphanum }

def alphaChannel : ChannelScope := ⟨"office", "alpha"⟩

def betaChannel : ChannelScope := ⟨"office", "beta"⟩

def planningRun : StartRun :=
  { workspaceId := "office"
    channelId := "beta"
    commandId := "command-1"
    runId := "run-1"
    parentRunId := none
    parentEventId := none
    laneId := none
    details := [("runProfileSnapshot", .obj [("memoryPolicy",
      .obj [("read", .str "channel"), ("write", .str "propose")])])] }

def epoch : Timestamp := "1970-01-01T00:00:00.000Z"

def planningEvent : Event :=
  { id := "event-1"
    workspaceId := "office"
    channelId := "beta"
    streamId := "run-1"
    seq := 0
    type := "run.started"
    timestamp := epoch
    schemaVersion := 1
    payload := .obj [] }

def planningCalls : List (ChannelScope × EventCall) :=
  [(betaChannel, .claimStart planningRun), (betaChannel, .append planningEvent)]

def alphaRepository : Repository := ⟨alphaChannel, ⟨.channel, .propose⟩⟩

def betaRepository : Repository := ⟨betaChannel, ⟨.channel, .propose⟩⟩

def betaReference : WorkspaceMemoryGrantReference := ⟨"grant-1", "beta"⟩

def mondayRetrieval (query : String) (references : List WorkspaceMemoryGrantReference) :
    MemoryRetrieval :=
  { query
    limit := 8
    runId := none
    workspaceGrantRefs := references }

/-- The second channel accepts a memory and grants it to the first, which then
retrieves without the reference, with the reference twice, and with a query of
stop words. -/
def mondayCalls : List (Repository × Operation × List Drawn) :=
  [(betaRepository, .propose ⟨"note-1", "Ship on Monday", ["event-1"], "run-1"⟩,
      List.replicate 5 ⟨"event-2", epoch⟩),
    (betaRepository, .accept ⟨"note-1", "owner"⟩, List.replicate 4 ⟨"event-3", epoch⟩),
    (betaRepository, .grantWorkspaceRead ⟨"grant-1", "alpha", "owner"⟩,
      List.replicate 4 ⟨"event-4", epoch⟩),
    (alphaRepository, .retrieve (mondayRetrieval "monday" []), [⟨"", ""⟩]),
    (alphaRepository, .retrieve (mondayRetrieval "monday" [betaReference, betaReference]),
      List.replicate 3 ⟨"", ""⟩),
    (alphaRepository, .retrieve (mondayRetrieval "on" [betaReference]),
      List.replicate 2 ⟨"", ""⟩),
    (alphaRepository, .retrieve (mondayRetrieval "monday" [betaReference]),
      List.replicate 2 ⟨"", ""⟩)]

def planningStore : (memoryStreams epochDates).Store :=
  after (memoryCall epochDates) planningCalls .empty

def mondayDesk? : Option (MemoryDesk (memoryStreams epochDates)) :=
  serial (operate asciiLetters) (answered epochDates) mondayCalls ⟨planningStore, []⟩

def mondayDesk : MemoryDesk (memoryStreams epochDates) :=
  mondayDesk?.getD ⟨planningStore, []⟩

def returned? {Shared : Type}
    (call : Call Shared Repository Operation Request Request.Response Thrown Answer) :
    Option Answer :=
  match call.program with
  | .pure answer => some answer
  | _ => none

theorem mondayDesk_reached :
    DeskReachable asciiLetters (memoryStreams epochDates) .empty mondayDesk := by
  have start : DeskReachable asciiLetters (memoryStreams epochDates) .empty ⟨.empty, []⟩ := .refl
  have claimed := drift_reaches epochDates asciiLetters start
    (betaChannel, .claimStart planningRun) nofun
  have planned := drift_reaches epochDates asciiLetters claimed (betaChannel, .append planningEvent) (by
    intro event isAppended
    cases isAppended
    decide)
  have ran : mondayDesk? = some mondayDesk := by
    have isSome : mondayDesk?.isSome = true := by decide +kernel
    unfold mondayDesk
    obtain ⟨desk, same⟩ := Option.isSome_iff_exists.1 isSome
    rw [same]
    rfl
  exact planned.extend (serial_reaches (fun _ => answered_performs epochDates) ran).choose_spec

def mondayNote : AcceptedChannelMemory :=
  { id := "note-1"
    content := "Ship on Monday"
    sourceRunId := "run-1"
    sourceEventIds := ["event-1"]
    sourceChannel := betaChannel
    acceptedBy := "owner"
    acceptedEventId := "event-3"
    acceptedAt := epoch
    edition := none
    workspaceGrant := some ⟨"grant-1", "owner", "event-4", epoch⟩ }

theorem wasGranted_of_any {grantId targetChannelId : String}
    (given : events.any (fun event => (workspaceReadGranted event).any (fun grant => decide
      (grant.grantId = grantId ∧ grant.targetChannelId = targetChannelId))) = true) :
    WasGranted events grantId targetChannelId := by
  obtain ⟨event, member, isGiven⟩ := List.any_eq_true.1 given
  obtain ⟨grant, found, isGrant⟩ := any_isSome isGiven
  exact ⟨event, member, grant, found, isGrant⟩

/-- A memory of another channel under a grant that stands is not found without a
reference to the grant, is found twice under two references, and nothing is
found for a query of stop words. -/
theorem retrieval_follows_references :
    DeskReachable asciiLetters (memoryStreams epochDates) .empty mondayDesk ∧
      Granted (memoryEvents (memoryStreams epochDates) mondayDesk.shared betaChannel)
        "grant-1" "alpha" ∧
      Retrievable asciiLetters ["monday"]
        (memoryEvents (memoryStreams epochDates) mondayDesk.shared betaChannel)
        "note-1" "Ship on Monday" ∧
      mondayDesk.calls.map (fun call => (call.operation, returned? call)) =
        [(.propose ⟨"note-1", "Ship on Monday", ["event-1"], "run-1"⟩, some .done),
          (.accept ⟨"note-1", "owner"⟩, some .done),
          (.grantWorkspaceRead ⟨"grant-1", "alpha", "owner"⟩, some .done),
          (.retrieve (mondayRetrieval "monday" []), some (.retrieved [])),
          (.retrieve (mondayRetrieval "monday" [betaReference, betaReference]),
            some (.retrieved [mondayNote, mondayNote])),
          (.retrieve (mondayRetrieval "on" [betaReference]), some (.retrieved [])),
          (.retrieve (mondayRetrieval "monday" [betaReference]),
            some (.retrieved [mondayNote]))] := by
  refine ⟨mondayDesk_reached, ⟨wasGranted_of_any ?_, ?_⟩, ⟨⟨?_, ?_⟩, ?_, ?_⟩, ?_⟩
  all_goals decide +kernel

theorem mondayDesk_governed :
    (∀ scope, Ordered (memoryEvents (memoryStreams epochDates) mondayDesk.shared scope)) ∧
      ∀ call ∈ mondayDesk.calls, ∀ retrieval memories, call.operation = .retrieve retrieval →
        call.program = .pure (.retrieved memories) →
          Retrieved (memoryStreams epochDates) asciiLetters call.owner retrieval call.begun
            mondayDesk.shared memories :=
  memories_governed (memoryStreams epochDates) asciiLetters (fun _ => rfl) mondayDesk_reached

end AnnaAgent.Memory
