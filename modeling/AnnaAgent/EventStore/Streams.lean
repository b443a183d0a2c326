/-
What calls do to the streams of the in-memory event store.

A call leaves a stream as it was or appends one event at its end.  Events are
numbered from zero, keep the scope and the identity of their stream, and
nothing follows a terminal event.  A claimed run stays claimed.
-/

import AnnaAgent.EventStore.InMemory

namespace AnnaAgent.EventStore

open Foundation

theorem assertScope_self (scope : ChannelScope) : assertScope scope scope = .ok () :=
  if_neg (not_not.2 rfl)

variable {event : Event}

theorem parseCanonicalEvent_eq {dates : Dates} {parsed : Event}
    (succeeded : parseCanonicalEvent dates event = .ok parsed) : parsed = event := by
  unfold parseCanonicalEvent at succeeded
  obtain ⟨id, isId, succeeded⟩ := bind_ok succeeded
  obtain ⟨workspaceId, isWorkspace, succeeded⟩ := bind_ok succeeded
  obtain ⟨channelId, isChannel, succeeded⟩ := bind_ok succeeded
  obtain ⟨streamId, isStream, succeeded⟩ := bind_ok succeeded
  obtain ⟨type, isType, succeeded⟩ := bind_ok succeeded
  obtain ⟨timestamp, isTimestamp, succeeded⟩ := bind_ok succeeded
  split at succeeded
  · cases succeeded
  · cases succeeded
    rw [expectNonEmptyString_eq isId, expectNonEmptyString_eq isWorkspace,
      expectNonEmptyString_eq isChannel, expectNonEmptyString_eq isStream,
      expectNonEmptyString_eq isType, parseTimestamp_eq isTimestamp]

namespace InMemoryEventStore

variable {store store' : InMemoryEventStore} {dates : Dates} {scope : ChannelScope}

theorem read_all (store : InMemoryEventStore) (scope : ChannelScope) (streamId : StreamId) :
    store.read scope streamId none = store.streamEvents scope streamId :=
  List.filter_eq_self.2 (fun _ _ => rfl)

theorem streamEvents_push_same (event : Event) :
    (store.pushEvent scope event).streamEvents scope event.streamId =
      store.streamEvents scope event.streamId ++ [event] := by
  unfold streamEvents pushEvent
  rw [OrderedMap.get?_set, if_pos rfl]
  rfl

theorem streamEvents_push_other (event : Event) {other : ChannelScope} {streamId : StreamId}
    (apart : ¬ (other = scope ∧ streamId = event.streamId)) :
    (store.pushEvent scope event).streamEvents other streamId =
      store.streamEvents other streamId := by
  unfold streamEvents pushEvent
  rw [OrderedMap.get?_set, if_neg]
  intro sameKey
  obtain ⟨sameScope, _, sameStream⟩ := scopedKey_inj.1 sameKey
  exact apart ⟨sameScope, sameStream⟩

theorem findEvent_push (event : Event) (other : ChannelScope) (eventId : EventId) :
    (store.pushEvent scope event).eventsById.get? (scopedKey other "event" eventId) =
      if other = scope ∧ eventId = event.id then some event
      else store.eventsById.get? (scopedKey other "event" eventId) := by
  unfold pushEvent
  rw [OrderedMap.get?_set]
  by_cases same : other = scope ∧ eventId = event.id
  · rw [if_pos same, if_pos (by rw [same.1, same.2])]
  · rw [if_neg same, if_neg]
    intro sameKey
    obtain ⟨sameScope, _, sameId⟩ := scopedKey_inj.1 sameKey
    exact same ⟨sameScope, sameId⟩

structure Pushed (scope : ChannelScope) (store : InMemoryEventStore) (event : Event)
    (store' : InMemoryEventStore) : Prop where
  inScope : event.scope = scope
  unused : store.eventsById.get? (scopedKey scope "event" event.id) = none
  atEnd : event.seq = (store.streamEvents scope event.streamId).length
  notTerminated : (store.streamEvents scope event.streamId).any
    (fun stored => isTerminalEvent stored.type) = false
  isPush : store' = store.pushEvent scope event

theorem append_ok {answer : Unit}
    (succeeded : store.append dates scope event = .ok (answer, store')) :
    store' = store ∧ (∃ existing,
        store.eventsById.get? (scopedKey scope "event" event.id) = some existing ∧
          sameStableJson existing.json event.json = true) ∨
      Pushed scope store event store' := by
  unfold append at succeeded
  obtain ⟨candidate, isCandidate, succeeded⟩ := bind_ok succeeded
  obtain ⟨done, checked, succeeded⟩ := bind_ok succeeded
  have inScope := assertScope_ok checked
  rw [parseCanonicalEvent_eq isCandidate] at succeeded inScope
  cases existing : store.eventsById.get? (scopedKey scope "event" event.id) with
  | some stored =>
    rw [existing] at succeeded
    dsimp only at succeeded
    cases isSame : sameStableJson stored.json event.json with
    | true =>
      rw [isSame, if_pos rfl] at succeeded
      cases succeeded
      exact Or.inl ⟨rfl, stored, rfl, isSame⟩
    | false =>
      rw [isSame, if_neg Bool.false_ne_true] at succeeded
      cases succeeded
  | none =>
    rw [existing] at succeeded
    dsimp only at succeeded
    by_cases atEnd : event.seq = (store.streamEvents scope event.streamId).length
    · rw [if_neg (not_not.2 atEnd)] at succeeded
      cases terminated : (store.streamEvents scope event.streamId).any
          (fun stored => isTerminalEvent stored.type) with
      | true =>
        rw [terminated, if_pos rfl] at succeeded
        cases succeeded
      | false =>
        rw [terminated, if_neg Bool.false_ne_true] at succeeded
        cases succeeded
        exact Or.inr ⟨inScope, existing, atEnd, terminated, rfl⟩
    · rw [if_pos atEnd] at succeeded
      cases succeeded

theorem appendIdempotent_ok {answer : Bool}
    (succeeded : store.appendIdempotent dates scope event = .ok (answer, store')) :
    store' = store ∨
      Pushed scope store
        { event with seq := (store.streamEvents scope event.streamId).length } store' := by
  unfold appendIdempotent at succeeded
  obtain ⟨candidate, isCandidate, succeeded⟩ := bind_ok succeeded
  obtain ⟨done, checked, succeeded⟩ := bind_ok succeeded
  have inScope := assertScope_ok checked
  rw [parseCanonicalEvent_eq isCandidate] at succeeded inScope
  split at succeeded
  · change (if _ = true then _ else _) = _ at succeeded
    generalize sameStableJson _ _ = isSame at succeeded
    cases isSame with
    | true =>
      rw [if_pos rfl] at succeeded
      cases succeeded
      exact Or.inl rfl
    | false =>
      rw [if_neg Bool.false_ne_true] at succeeded
      cases succeeded
  · rename_i existing
    dsimp only at succeeded
    cases terminated : (store.streamEvents scope event.streamId).any
        (fun stored => isTerminalEvent stored.type) with
    | true =>
      rw [terminated, if_pos rfl] at succeeded
      cases succeeded
    | false =>
      rw [terminated, if_neg Bool.false_ne_true] at succeeded
      cases succeeded
      right
      have isStored : (if event.seq = (store.streamEvents scope event.streamId).length then event
          else { event with seq := (store.streamEvents scope event.streamId).length }) =
            { event with seq := (store.streamEvents scope event.streamId).length } := by
        by_cases atEnd : event.seq = (store.streamEvents scope event.streamId).length
        · rw [if_pos atEnd, ← atEnd]
        · rw [if_neg atEnd]
      rw [isStored]
      exact ⟨inScope, existing, rfl, terminated, rfl⟩

/-! ### Calls -/

/-- The events stay as they are, a claimed run stays claimed and a newly claimed
one is recorded under its own id. -/
structure Quiet (store store' : InMemoryEventStore) : Prop where
  sameStreams : store'.eventsByStream = store.eventsByStream
  sameEvents : store'.eventsById = store.eventsById
  claimed : ∀ {scope : ChannelScope} {runId : RunId} {command : StartRun},
    store.getRunCommand scope runId = some command → store'.getRunCommand scope runId = some command
  recorded : ∀ {scope : ChannelScope} {runId : RunId} {command : StartRun},
    store'.getRunCommand scope runId = some command →
      store.getRunCommand scope runId = some command ∨
        (command.toChannelScope = scope ∧ command.runId = runId)

theorem Quiet.refl (store : InMemoryEventStore) : Quiet store store :=
  ⟨rfl, rfl, fun found => found, Or.inl⟩

theorem claimStart_ok {command claimed : StartRun}
    (succeeded : store.claimStart scope command = .ok (claimed, store')) : Quiet store store' := by
  unfold claimStart at succeeded
  obtain ⟨candidate, isCandidate, succeeded⟩ := bind_ok succeeded
  obtain ⟨done, checked, succeeded⟩ := bind_ok succeeded
  dsimp only at succeeded
  split at succeeded
  · change (if _ = true then _ else _) = _ at succeeded
    generalize sameStableJson _ _ = isSame at succeeded
    cases isSame with
    | true =>
      rw [if_pos rfl] at succeeded
      cases succeeded
      exact .refl store
    | false =>
      rw [if_neg Bool.false_ne_true] at succeeded
      cases succeeded
  · cases taken : store.commandsById.has (scopedKey scope "run" candidate.runId) with
    | true =>
      rw [taken, if_pos rfl] at succeeded
      cases succeeded
    | false =>
      rw [taken, if_neg Bool.false_ne_true] at succeeded
      cases succeeded
      have lookup : ∀ other runId, ((store.commandsById.set
          (scopedKey scope "command" claimed.commandId) claimed).set
            (scopedKey scope "run" claimed.runId) claimed).get? (scopedKey other "run" runId) =
          if scopedKey other "run" runId = scopedKey scope "run" claimed.runId then some claimed
          else store.getRunCommand other runId := by
        intro other runId
        have notCommand :
            scopedKey other "run" runId ≠ scopedKey scope "command" claimed.commandId := by
          intro sameKey
          exact absurd (scopedKey_inj.1 sameKey).2.1 (by decide)
        rw [OrderedMap.get?_set, OrderedMap.get?_set, if_neg notCommand]
        rfl
      refine ⟨rfl, rfl, ?_, ?_⟩
      · intro other runId recorded found
        refine (lookup other runId).trans ?_
        rw [if_neg]
        · exact found
        · intro sameKey
          unfold OrderedMap.has at taken
          unfold getRunCommand at found
          rw [← sameKey, found] at taken
          cases taken
      · intro other runId recorded found
        have isRecorded := (lookup other runId).symm.trans found
        by_cases sameKey : scopedKey other "run" runId = scopedKey scope "run" claimed.runId
        · rw [if_pos sameKey] at isRecorded
          cases isRecorded
          obtain ⟨sameScope, _, sameRun⟩ := scopedKey_inj.1 sameKey
          exact Or.inr ⟨(assertScope_ok checked).trans sameScope.symm, sameRun.symm⟩
        · rw [if_neg sameKey] at isRecorded
          exact Or.inl isRecorded

theorem claimChannelSession_ok {session claimed : ChannelSession}
    (succeeded : store.claimChannelSession scope session = .ok (claimed, store')) :
    Quiet store store' := by
  unfold claimChannelSession at succeeded
  obtain ⟨candidate, isCandidate, succeeded⟩ := bind_ok succeeded
  obtain ⟨done, checked, succeeded⟩ := bind_ok succeeded
  dsimp only at succeeded
  split at succeeded
  · change (if _ = true then _ else _) = _ at succeeded
    generalize sameStableJson _ _ = isSame at succeeded
    cases isSame with
    | true =>
      rw [if_pos rfl] at succeeded
      cases succeeded
      exact .refl store
    | false =>
      rw [if_neg Bool.false_ne_true] at succeeded
      cases succeeded
  · cases succeeded
    exact ⟨rfl, rfl, fun found => found, Or.inl⟩

theorem commitProjection_ok {commit : ProjectionCommit} {result : ProjectionCommitResult}
    (succeeded : store.commitProjection scope commit = .ok (result, store')) :
    Quiet store store' := by
  unfold commitProjection at succeeded
  split at succeeded
  · cases succeeded
  · rename_i sourceEvent isSource
    by_cases misplaced :
        sourceEvent.streamId ≠ commit.streamId ∨ (sourceEvent.seq : Int) ≠ commit.eventSeq
    · rw [if_pos misplaced] at succeeded
      cases succeeded
    · rw [if_neg misplaced] at succeeded
      by_cases received :
          receiptKey scope commit.projector commit.streamId commit.eventId ∈
            store.projectionReceipts
      · rw [if_pos received] at succeeded
        cases isCurrent :
            store.projections.get? (projectionKey scope commit.projector commit.streamId) with
        | none =>
          rw [isCurrent] at succeeded
          cases succeeded
        | some current =>
          rw [isCurrent] at succeeded
          cases succeeded
          exact .refl store
      · rw [if_neg received] at succeeded
        by_cases conflicting : ((store.projections.get?
            (projectionKey scope commit.projector commit.streamId)).elim 0
              ProjectionSnapshot.version) ≠ commit.expectedVersion
        · rw [if_pos conflicting] at succeeded
          cases succeeded
        · rw [if_neg conflicting] at succeeded
          obtain ⟨state, _, succeeded⟩ := bind_ok succeeded
          cases succeeded
          exact ⟨rfl, rfl, fun found => found, Or.inl⟩

theorem Pushed.claimed {event : Event} (pushed : Pushed scope store event store')
    {other : ChannelScope} {runId : RunId} {command : StartRun}
    (found : store.getRunCommand other runId = some command) :
    store'.getRunCommand other runId = some command := by
  rw [pushed.isPush]
  exact found

def appended? (store : InMemoryEventStore) (scope : ChannelScope) : EventCall → Option Event
  | .append event => some event
  | .appendIdempotent event =>
    some { event with seq := (store.streamEvents scope event.streamId).length }
  | _ => none

variable {call : EventCall} {answer : call.Answer}

theorem perform_ok (succeeded : store.perform dates scope call = .ok (answer, store')) :
    Quiet store store' ∨
      ∃ event, store.appended? scope call = some event ∧ Pushed scope store event store' := by
  cases call with
  | append event =>
    rcases append_ok succeeded with ⟨same, _⟩ | pushed
    · rw [same]
      exact Or.inl (.refl store)
    · exact Or.inr ⟨event, rfl, pushed⟩
  | appendIdempotent event =>
    rcases appendIdempotent_ok succeeded with same | pushed
    · rw [same]
      exact Or.inl (.refl store)
    · exact Or.inr ⟨_, rfl, pushed⟩
  | claimStart command => exact Or.inl (claimStart_ok succeeded)
  | claimChannelSession session => exact Or.inl (claimChannelSession_ok succeeded)
  | commitProjection commit => exact Or.inl (commitProjection_ok succeeded)
  | _ =>
    cases succeeded
    exact Or.inl (.refl store)

/-- Streams only get longer and claimed runs stay claimed. -/
structure Grows (store store' : InMemoryEventStore) : Prop where
  streams : ∀ scope streamId, ∃ added,
    store'.streamEvents scope streamId = store.streamEvents scope streamId ++ added
  claimed : ∀ {scope : ChannelScope} {runId : RunId} {command : StartRun},
    store.getRunCommand scope runId = some command → store'.getRunCommand scope runId = some command

theorem Grows.refl (store : InMemoryEventStore) : Grows store store :=
  ⟨fun _ _ => ⟨[], (List.append_nil _).symm⟩, fun found => found⟩

theorem Grows.trans {first second third : InMemoryEventStore} (early : Grows first second)
    (late : Grows second third) : Grows first third := by
  refine ⟨?_, fun found => late.claimed (early.claimed found)⟩
  intro scope streamId
  obtain ⟨added, isSecond⟩ := early.streams scope streamId
  obtain ⟨more, isThird⟩ := late.streams scope streamId
  refine ⟨added ++ more, ?_⟩
  rw [isThird, isSecond, List.append_assoc]

theorem Quiet.streamEvents (quiet : Quiet store store') (scope : ChannelScope)
    (streamId : StreamId) :
    store'.streamEvents scope streamId = store.streamEvents scope streamId := by
  unfold InMemoryEventStore.streamEvents
  rw [quiet.sameStreams]

theorem Pushed.streamEvents (pushed : Pushed scope store event store') (other : ChannelScope)
    (streamId : StreamId) :
    store'.streamEvents other streamId = store.streamEvents other streamId ++
      if other = scope ∧ streamId = event.streamId then [event] else [] := by
  rw [pushed.isPush]
  by_cases same : other = scope ∧ streamId = event.streamId
  · rw [if_pos same, same.1, same.2]
    exact streamEvents_push_same event
  · rw [if_neg same, List.append_nil]
    exact streamEvents_push_other event same

theorem perform_grows (succeeded : store.perform dates scope call = .ok (answer, store')) :
    Grows store store' := by
  rcases perform_ok succeeded with quiet | ⟨event, _, pushed⟩
  · refine ⟨?_, quiet.claimed⟩
    intro other streamId
    exact ⟨[], by rw [quiet.streamEvents, List.append_nil]⟩
  · exact ⟨fun other streamId => ⟨_, pushed.streamEvents other streamId⟩, pushed.claimed⟩

/-- Streams hold their own events, numbered from zero, nothing follows a
terminal event, every event is found by its id and every run under its own. -/
structure Orderly (store : InMemoryEventStore) : Prop where
  located : ∀ {scope : ChannelScope} {streamId : StreamId} {event : Event},
    event ∈ store.streamEvents scope streamId → event.scope = scope ∧ event.streamId = streamId
  numbered : ∀ scope streamId, (store.streamEvents scope streamId).map CanonicalEvent.seq =
    List.range (store.streamEvents scope streamId).length
  terminated : ∀ scope streamId, (store.streamEvents scope streamId).Pairwise
    (fun earlier _ => isTerminalEvent earlier.type = false)
  known : ∀ {scope : ChannelScope} {streamId : StreamId} {event : Event},
    event ∈ store.streamEvents scope streamId →
      store.eventsById.get? (scopedKey scope "event" event.id) = some event
  recorded : ∀ {scope : ChannelScope} {runId : RunId} {command : StartRun},
    store.getRunCommand scope runId = some command →
      command.toChannelScope = scope ∧ command.runId = runId

theorem orderly_empty : Orderly empty := by
  refine ⟨?_, fun _ _ => rfl, fun _ _ => .nil, ?_, ?_⟩
  · intro scope streamId event member
    cases member
  · intro scope streamId event member
    cases member
  · intro scope runId command found
    cases found

theorem Quiet.orderly (quiet : Quiet store store') (orderly : Orderly store) : Orderly store' := by
  refine ⟨?_, ?_, ?_, ?_, fun found => (quiet.recorded found).elim orderly.recorded id⟩
  · intro other streamId event member
    rw [quiet.streamEvents] at member
    exact orderly.located member
  · intro other streamId
    rw [quiet.streamEvents]
    exact orderly.numbered other streamId
  · intro other streamId
    rw [quiet.streamEvents]
    exact orderly.terminated other streamId
  · intro other streamId event member
    rw [quiet.streamEvents] at member
    rw [quiet.sameEvents]
    exact orderly.known member

theorem Pushed.orderly (pushed : Pushed scope store event store') (orderly : Orderly store) :
    Orderly store' := by
  have members : ∀ {other streamId stored}, stored ∈ store'.streamEvents other streamId →
      stored ∈ store.streamEvents other streamId ∨
        (other = scope ∧ streamId = event.streamId ∧ stored = event) := by
    intro other streamId stored member
    rw [pushed.streamEvents] at member
    rcases List.mem_append.1 member with early | late
    · exact Or.inl early
    · by_cases same : other = scope ∧ streamId = event.streamId
      · rw [if_pos same] at late
        exact Or.inr ⟨same.1, same.2, List.mem_singleton.1 late⟩
      · rw [if_neg same] at late
        cases late
  have sameCommands : ∀ other runId,
      store'.getRunCommand other runId = store.getRunCommand other runId := by
    intro other runId
    rw [pushed.isPush]
    rfl
  refine ⟨?_, ?_, ?_, ?_, fun found => orderly.recorded ((sameCommands _ _).symm.trans found)⟩
  · intro other streamId stored member
    rcases members member with early | ⟨sameScope, sameStream, sameEvent⟩
    · exact orderly.located early
    · rw [sameEvent, sameScope, sameStream]
      exact ⟨pushed.inScope, rfl⟩
  · intro other streamId
    rw [pushed.streamEvents]
    by_cases same : other = scope ∧ streamId = event.streamId
    · rw [if_pos same, List.map_append, List.length_append, List.length_singleton,
        List.range_succ, orderly.numbered, same.1, same.2, List.map_singleton, pushed.atEnd]
    · rw [if_neg same, List.append_nil]
      exact orderly.numbered other streamId
  · intro other streamId
    rw [pushed.streamEvents, List.pairwise_append]
    by_cases same : other = scope ∧ streamId = event.streamId
    · rw [if_pos same]
      refine ⟨orderly.terminated other streamId, List.pairwise_singleton _ _, ?_⟩
      intro earlier member later _
      rw [same.1, same.2] at member
      exact Bool.eq_false_iff.2 (fun terminal => absurd pushed.notTerminated
        (Bool.eq_false_iff.not.2 (not_not.2 (List.any_eq_true.2 ⟨earlier, member, terminal⟩))))
    · rw [if_neg same]
      exact ⟨orderly.terminated other streamId, .nil, fun _ _ _ absent => nomatch absent⟩
  · intro other streamId stored member
    have lookup := @findEvent_push store scope event other stored.id
    rw [← pushed.isPush] at lookup
    rw [lookup]
    rcases members member with early | ⟨sameScope, _, sameEvent⟩
    · rw [if_neg]
      · exact orderly.known early
      · rintro ⟨sameScope, sameId⟩
        have found := orderly.known early
        rw [sameScope, sameId, pushed.unused] at found
        cases found
    · rw [if_pos ⟨sameScope, by rw [sameEvent]⟩, sameEvent]

theorem perform_orderly (orderly : Orderly store)
    (succeeded : store.perform dates scope call = .ok (answer, store')) : Orderly store' := by
  rcases perform_ok succeeded with quiet | ⟨event, _, pushed⟩
  · exact quiet.orderly orderly
  · exact pushed.orderly orderly

end InMemoryEventStore

end AnnaAgent.EventStore
