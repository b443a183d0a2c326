/-
The two event stores give the same answers.

Commands, sessions and projections keep the relation as events do, so every
call agrees, and with it every sequence of calls through any scopes.
-/

import AnnaAgent.EventStore.Agreement

namespace AnnaAgent.EventStore

open Foundation InMemoryEventStore

variable {memory : InMemoryEventStore} {database : SqliteEventStore}

theorem has_run (simulates : Simulates memory database) (scope : ChannelScope) (runId : RunId) :
    memory.commandsById.has (scopedKey scope "run" runId) =
      database.commands.table.rows.any (fun row => row.runKey = (scope, runId)) := by
  unfold OrderedMap.has
  rw [find_run simulates, Bool.eq_iff_iff, List.any_eq_true]
  exact List.find?_isSome

theorem insertCommand_rows {commands : CommandRows} {candidate : StartRun}
    (freshRun : commands.table.rows.any (fun row => row.runKey = candidate.runKey) = false)
    (fresh : commands.table.find? candidate.commandKey = none) :
    ∃ commands' : CommandRows, commands.insert? candidate = some commands' ∧
      commands'.table.rows = commands.table.rows ++ [candidate] := by
  have freshRuns : ∀ other ∈ commands.table.rows, other.runKey ≠ candidate.runKey := by
    intro other member same
    rw [List.any_eq_false] at freshRun
    exact freshRun other member (decide_eq_true same)
  obtain ⟨table, inserted⟩ := (Table.insert?_isSome_iff _ _).2 fresh
  unfold CommandRows.insert?
  rw [dif_pos freshRuns]
  split
  · rename_i table' isTable
    exact ⟨_, rfl, Table.insert?_rows isTable⟩
  · rename_i refused
    rw [inserted] at refused
    cases refused

theorem claimStart_agrees (simulates : Simulates memory database) (scope : ChannelScope)
    (command : StartRun) :
    Agrees Simulates Eq (memory.claimStart scope command) (database.claimStart scope command) := by
  unfold claimStart SqliteEventStore.claimStart
  refine agrees_bind _ ?_
  intro candidate _
  refine agrees_bind _ ?_
  intro _ checked
  have inScope := assertScope_ok checked
  have isKey : candidate.commandKey = (scope, candidate.commandId) := Prod.ext inScope rfl
  have isRunKey : candidate.runKey = (scope, candidate.runId) := Prod.ext inScope rfl
  dsimp only
  rw [find_command simulates, isKey]
  cases found : database.commands.table.find? (scope, candidate.commandId) with
  | some existing =>
    dsimp only
    refine agrees_check ?_ ?_
    · rfl
    · exact simulates
  | none =>
    dsimp only
    refine agrees_bool ?_ (fun _ => agrees_error _) ?_
    · rw [has_run simulates, isRunKey]
    · intro freshRun
      have unknown := find_command simulates scope candidate.commandId
      rw [found] at unknown
      have unknownRun := has_run simulates scope candidate.runId
      rw [freshRun] at unknownRun
      have fresh : database.commands.table.find? candidate.commandKey = none := isKey ▸ found
      obtain ⟨commands, inserted, isRows⟩ :=
        insertCommand_rows (by rw [isRunKey]; exact unknownRun.symm) fresh
      rw [inserted]
      refine agrees_ok rfl ?_
      refine { simulates with commands := ?_ }
      have unknownSecond : (memory.commandsById.set (scopedKey scope "command" candidate.commandId)
          candidate).get? (scopedKey scope "run" candidate.runId) = none := by
        rw [OrderedMap.get?_set, if_neg]
        · exact Option.isNone_iff_eq_none.1 (Option.isSome_eq_false_iff.1 freshRun)
        · intro same
          exact command_ne_run (scopedKey_inj.1 same).2.1.symm
      change ((memory.commandsById.set _ _).set _ _).entries = commands.table.rows.flatMap _
      rw [OrderedMap.entries_set_new unknownSecond, OrderedMap.entries_set_new unknown, isRows,
        List.flatMap_append, simulates.commands, List.append_assoc, List.flatMap_singleton]
      unfold commandEntries
      rw [inScope]
      rfl

theorem claimChannelSession_agrees (simulates : Simulates memory database) (scope : ChannelScope)
    (session : ChannelSession) :
    Agrees Simulates Eq (memory.claimChannelSession scope session)
      (database.claimChannelSession scope session) := by
  unfold claimChannelSession SqliteEventStore.claimChannelSession
  refine agrees_bind _ ?_
  intro candidate _
  refine agrees_bind _ ?_
  intro _ checked
  have inScope := assertScope_ok checked
  dsimp only
  rw [find_session simulates]
  cases found : database.channelSessions.find? scope with
  | some existing =>
    dsimp only
    refine agrees_check ?_ ?_
    · rfl
    · exact simulates
  | none =>
    dsimp only
    have unknown := find_session simulates scope
    rw [found] at unknown
    have fresh : database.channelSessions.find? candidate.toChannelScope = none := inScope ▸ found
    obtain ⟨channelSessions, inserted⟩ := (Table.insert?_isSome_iff _ _).2 fresh
    rw [inserted]
    refine agrees_ok rfl ?_
    refine { simulates with sessions := ?_ }
    change (memory.channelSessions.set _ _).entries = channelSessions.rows.map sessionEntry
    rw [OrderedMap.entries_set_new unknown, Table.insert?_rows inserted, List.map_append,
      simulates.sessions, List.map_singleton]
    unfold sessionEntry
    rw [inScope]

theorem find_source (database : SqliteEventStore) (scope : ChannelScope) (eventId : EventId)
    (streamId : StreamId) :
    database.events.table.rows.find? (fun row =>
        row.identity = (scope, eventId) ∧ row.streamId = streamId) =
      (database.findEvent scope eventId).filter (fun row => row.streamId = streamId) :=
  database.events.ids.find?_and _ _

theorem projectionRow_key (scope : ChannelScope) (snapshot : ProjectionSnapshot)
    (projector : String) (streamId : StreamId) :
    ProjectionRow.key
        { toChannelScope := scope
          toProjectionSnapshot := snapshot
          projector
          streamId } = (scope, projector, streamId) := rfl

theorem saveProjection_simulates (simulates : Simulates memory database) (scope : ChannelScope)
    (commit : ProjectionCommit) (snapshot : ProjectionSnapshot)
    (isCurrent : (database.findProjection scope commit.projector commit.streamId).elim 0
      ProjectionSnapshot.version = commit.expectedVersion) :
    ∃ database', database.saveProjection scope commit snapshot = .ok database' ∧
      database'.projectionReceipts = database.projectionReceipts ∧
      (database'.findProjection scope commit.projector commit.streamId).isSome = true ∧
      Simulates
        { memory with
          projections := memory.projections.set
            (projectionKey scope commit.projector commit.streamId) snapshot }
        database' := by
  have lookup := find_projection simulates scope commit.projector commit.streamId
  unfold loadProjection at lookup
  unfold SqliteEventStore.saveProjection
  cases held : database.findProjection scope commit.projector commit.streamId with
  | none =>
    rw [held] at lookup
    have fresh : database.projections.find? (scope, commit.projector, commit.streamId) = none :=
      Option.map_eq_none_iff.1 held
    obtain ⟨projections, inserted⟩ := (Table.insert?_isSome_iff database.projections
      { toChannelScope := scope
        toProjectionSnapshot := snapshot
        projector := commit.projector
        streamId := commit.streamId }).2 fresh
    dsimp only
    rw [inserted]
    have found := Table.find?_insert? inserted
    refine ⟨_, rfl, rfl, ?_, ?_⟩
    · unfold SqliteEventStore.findProjection
      rw [Option.isSome_map, found, if_pos (projectionRow_key _ _ _ _)]
      rfl
    · refine { simulates with projections := ?_, receipted := ?_ }
      · rw [OrderedMap.entries_set_new lookup, Table.insert?_rows inserted, List.map_append,
          simulates.projections]
        rfl
      · intro receipt member
        have before := simulates.receipted receipt member
        unfold SqliteEventStore.findProjection at before ⊢
        rw [Option.isSome_map] at before ⊢
        rw [found]
        by_cases isRow : ProjectionRow.key
            { toChannelScope := scope
              toProjectionSnapshot := snapshot
              projector := commit.projector
              streamId := commit.streamId } =
                (receipt.toChannelScope, receipt.projector, receipt.streamId)
        · rw [if_pos isRow]
          rfl
        · rw [if_neg isRow]
          exact before
  | some current =>
    rw [held] at lookup isCurrent
    obtain ⟨stored, isStored, isSnapshot⟩ := Option.map_eq_some_iff.1 held
    have kept := Table.isSome_find?_update database.projections
      (fun row => row.key = (scope, commit.projector, commit.streamId) ∧
        row.version = commit.expectedVersion)
      (fun row => { row with toProjectionSnapshot := snapshot }) (fun _ => rfl)
    dsimp only
    refine ⟨_, rfl, rfl, ?_, ?_⟩
    · unfold SqliteEventStore.findProjection
      rw [Option.isSome_map]
      refine (kept _).trans ?_
      rw [isStored]
      rfl
    · refine { simulates with projections := ?_, receipted := ?_ }
      · rw [OrderedMap.entries_set_present lookup, simulates.projections]
        unfold OrderedMap.replace
        change _ = (database.projections.rows.map _).map projectionEntry
        rw [List.map_map, List.map_map]
        refine List.map_congr_left ?_
        intro row member
        rw [Function.comp_apply, Function.comp_apply]
        by_cases isRow : row.key = (scope, commit.projector, commit.streamId)
        · have found := Table.find?_of_mem member
          rw [isRow, isStored] at found
          have isVersion : row.version = commit.expectedVersion := by
            rw [← Option.some.inj found, ← isCurrent, ← isSnapshot]
            rfl
          have isEntry : (projectionEntry row).1 =
              projectionKey scope commit.projector commit.streamId :=
            projectionKey_inj.2 isRow
          rw [if_pos isEntry, if_pos ⟨isRow, isVersion⟩]
          exact Prod.ext isEntry.symm rfl
        · have notEntry : (projectionEntry row).1 ≠
              projectionKey scope commit.projector commit.streamId :=
            fun same => isRow (projectionKey_inj.1 same)
          rw [if_neg notEntry, if_neg (fun both => isRow both.1)]
      · intro receipt member
        have before := simulates.receipted receipt member
        unfold SqliteEventStore.findProjection at before ⊢
        rw [Option.isSome_map] at before ⊢
        exact (kept _).trans before

theorem commitProjection_agrees (simulates : Simulates memory database) (scope : ChannelScope)
    {commit : ProjectionCommit} {state : Json} (parsed : commit.state = .ok state) :
    Agrees Simulates Eq (memory.commitProjection scope commit)
      (database.commitProjection scope commit) := by
  unfold commitProjection SqliteEventStore.commitProjection
  rw [find_event simulates, bind_of_ok _ parsed, find_source]
  cases found : database.findEvent scope commit.eventId with
  | none => exact agrees_error _
  | some source =>
    dsimp only
    rw [Option.filter_some]
    by_cases inStream : source.streamId = commit.streamId
    · rw [if_pos (decide_eq_true inStream)]
      dsimp only
      refine agrees_ite ?_ (fun _ => agrees_error _) ?_
      · exact ⟨fun either => either.resolve_left (not_not.2 inStream), Or.inr⟩
      · intro _
        have isReceipt := mem_receipts simulates scope commit.projector commit.streamId
          commit.eventId
        have isProjection := find_projection simulates scope commit.projector commit.streamId
        unfold loadProjection at isProjection
        rw [isProjection]
        cases receipted : database.projectionReceipts.find?
            (scope, commit.projector, commit.streamId, commit.eventId) with
        | some receipt =>
          rw [receipted] at isReceipt
          rw [if_pos (isReceipt.2 rfl)]
          have isKey := Table.find?_key receipted
          have known := simulates.receipted receipt (Table.find?_mem receipted)
          simp only [ProjectionReceipt.key, Prod.mk.injEq] at isKey
          rw [isKey.1, isKey.2.1, isKey.2.2.1] at known
          cases held : database.findProjection scope commit.projector commit.streamId with
          | none =>
            rw [held] at known
            cases known
          | some current => exact agrees_ok rfl simulates
        | none =>
          rw [receipted] at isReceipt
          rw [if_neg (fun member => Bool.false_ne_true (isReceipt.1 member))]
          dsimp only
          refine agrees_ite Iff.rfl (fun _ => agrees_error _) ?_
          intro isCurrent
          rw [not_not] at isCurrent
          obtain ⟨database', saved, sameReceipts, known, simulates'⟩ :=
            saveProjection_simulates simulates scope commit
              { state
                version := commit.expectedVersion + 1
                lastSeq := commit.eventSeq } isCurrent
          rw [isCurrent, bind_of_ok _ parsed, bind_of_ok _ saved]
          have fresh : database'.projectionReceipts.find?
              (scope, commit.projector, commit.streamId, commit.eventId) = none := by
            rw [sameReceipts]
            exact receipted
          obtain ⟨projectionReceipts, inserted⟩ :=
            (Table.insert?_isSome_iff database'.projectionReceipts
              { toChannelScope := scope
                projector := commit.projector
                streamId := commit.streamId
                eventId := commit.eventId
                eventSeq := commit.eventSeq }).2 fresh
          rw [inserted]
          refine agrees_ok rfl ?_
          refine ⟨simulates'.eventsById, simulates'.eventsByStream, simulates'.numbered,
            simulates'.versions, simulates'.terminated, simulates'.commands,
            simulates'.sessions, simulates'.projections, ?_, ?_⟩
          · change memory.projectionReceipts ++ _ = projectionReceipts.rows.map receiptEntry
            rw [Table.insert?_rows inserted, List.map_append, ← simulates'.receipts]
            rfl
          · intro receipt member
            change receipt ∈ projectionReceipts.rows at member
            rw [Table.insert?_rows inserted, List.mem_append, List.mem_singleton] at member
            cases member with
            | inl old => exact simulates'.receipted receipt old
            | inr new =>
              rw [new]
              exact known
    · rw [if_neg (fun same => inStream (of_decide_eq_true same)), if_pos (Or.inl inStream)]
      exact agrees_error _

/-! ### Calls -/

theorem activeRunIds_agree (simulates : Simulates memory database) (scope : ChannelScope)
    (runId : RunId) : runId ∈ memory.activeRunIds scope ↔ runId ∈ database.activeRunIds scope := by
  unfold activeRunIds SqliteEventStore.activeRunIds
  simp only [List.mem_map, List.mem_filter, Table.mem_select, simulates.commands, List.mem_flatMap,
    simulates.eventsByStream]
  constructor
  · rintro ⟨command, ⟨⟨entry, ⟨⟨row, member, isEntry⟩, inScan⟩, isCommand⟩, active⟩, isRun⟩
    unfold commandEntries at isEntry
    rw [List.mem_cons, List.mem_singleton] at isEntry
    cases isEntry with
    | inl first =>
      rw [first] at inScan isCommand
      have inScope := (startsWith_scopedPrefix.1 inScan).1
      rw [← isCommand] at active isRun
      refine ⟨row, ⟨member, inScope.symm, ?_⟩, isRun⟩
      rw [simulates.terminated, ← inScope, ← Bool.not_eq_true']
      exact active
    | inr second =>
      rw [second] at inScan
      exact absurd (startsWith_scopedPrefix.1 inScan).2 command_ne_run
  · rintro ⟨row, ⟨member, inScope, active⟩, isRun⟩
    refine ⟨row, ⟨⟨(scopedKey row.toChannelScope "command" row.commandId, row),
      ⟨⟨row, member, List.mem_cons_self⟩, ?_⟩, rfl⟩, ?_⟩, isRun⟩
    · exact startsWith_scopedPrefix.2 ⟨inScope.symm, rfl⟩
    · rw [simulates.terminated, inScope] at active
      rw [active]
      rfl

/-- Equal answers; the active runs are compared as sets. -/
def EventCall.Same : (call : EventCall) → call.Answer → call.Answer → Prop
  | .activeRunIds, left, right => ∀ runId, runId ∈ left ↔ runId ∈ right
  | .append _, left, right => left = right
  | .appendIdempotent _, left, right => left = right
  | .read _ _, left, right => left = right
  | .claimStart _, left, right => left = right
  | .getCommand _, left, right => left = right
  | .getRunCommand _, left, right => left = right
  | .claimChannelSession _, left, right => left = right
  | .getChannelSession, left, right => left = right
  | .loadProjection _ _, left, right => left = right
  | .commitProjection _, left, right => left = right

/-- The state of a projection is a JSON value; the other arguments are parsed
by the call itself. -/
def EventCall.SchemaValid : EventCall → Prop
  | .commitProjection commit => ∃ state, commit.state = .ok state
  | _ => True

theorem perform_agrees (simulates : Simulates memory database) (dates : Dates)
    (scope : ChannelScope) {call : EventCall} (valid : call.SchemaValid) :
    Agrees Simulates call.Same (memory.perform dates scope call)
      (database.perform dates scope call) := by
  cases call with
  | append event => exact append_agrees simulates dates scope event
  | appendIdempotent event => exact appendIdempotent_agrees simulates dates scope event
  | read streamId afterSeq => exact agrees_ok (read_agrees simulates scope streamId afterSeq) simulates
  | claimStart command => exact claimStart_agrees simulates scope command
  | getCommand commandId => exact agrees_ok (find_command simulates scope commandId) simulates
  | getRunCommand runId => exact agrees_ok (find_run simulates scope runId) simulates
  | claimChannelSession session => exact claimChannelSession_agrees simulates scope session
  | getChannelSession => exact agrees_ok (find_session simulates scope) simulates
  | loadProjection projector streamId =>
    exact agrees_ok (find_projection simulates scope projector streamId) simulates
  | commitProjection commit =>
    obtain ⟨state, parsed⟩ := valid
    exact commitProjection_agrees simulates scope parsed
  | activeRunIds => exact agrees_ok (activeRunIds_agree simulates scope) simulates

def memoryCall (dates : Dates) (call : ChannelScope × EventCall) (store : InMemoryEventStore) :
    Except Thrown (call.2.Answer × InMemoryEventStore) :=
  store.perform dates call.1 call.2

def databaseCall (dates : Dates) (call : ChannelScope × EventCall) (store : SqliteEventStore) :
    Except Thrown (call.2.Answer × SqliteEventStore) :=
  store.perform dates call.1 call.2

theorem stores_related (dates : Dates) (calls : List (ChannelScope × EventCall))
    (valid : ∀ call ∈ calls, call.2.SchemaValid) :
    Simulates (after (memoryCall dates) calls .empty) (after (databaseCall dates) calls .empty) := by
  have step : ∀ (call : ChannelScope × EventCall) (memory : InMemoryEventStore)
      (database : SqliteEventStore), Simulates memory database → call.2.SchemaValid →
      Agrees Simulates call.2.Same (memoryCall dates call memory) (databaseCall dates call database) := by
    intro call memory database simulates isValid
    exact perform_agrees simulates dates call.1 isValid
  refine after_related step simulates_empty calls ?_
  intro early call late isCalls
  refine valid call ?_
  rw [isCalls]
  exact List.mem_append_right _ List.mem_cons_self

/-- The same value or the same error. -/
def SameOutcome {State State' : Type} (call : EventCall)
    (outcome : Except Thrown (call.Answer × State))
    (outcome' : Except Thrown (call.Answer × State')) : Prop :=
  Agrees (fun _ _ => True) call.Same outcome outcome'

/-- After every sequence of calls through any scopes, the next call gives the
same outcome on both stores. -/
theorem event_stores_agree (dates : Dates) (calls : List (ChannelScope × EventCall))
    (scope : ChannelScope) (call : EventCall)
    (valid : ∀ made ∈ calls ++ [(scope, call)], made.2.SchemaValid) :
    SameOutcome call ((after (memoryCall dates) calls .empty).perform dates scope call)
      ((after (databaseCall dates) calls .empty).perform dates scope call) := by
  have simulates := stores_related dates calls
    (fun made member => valid made (List.mem_append_left _ member))
  have isValid := valid (scope, call) (List.mem_append_right _ List.mem_cons_self)
  exact agrees_weaken (fun _ _ _ => trivial) (perform_agrees simulates dates scope isValid)

def epochDates : Dates :=
  { parse := fun text => if text = "1970-01-01T00:00:00.000Z" then some 0 else none
    toISOString := fun time => if time = 0 then some "1970-01-01T00:00:00.000Z" else none }

theorem event_stores_agree_on_commit :
    SameOutcome (.commitProjection ⟨"projector", "run-1", "event-1", 0, 0, .ok .null⟩)
      ((after (memoryCall epochDates)
        [(⟨"workspace", "channel"⟩, .append ⟨"event-1", "workspace", "channel", "run-1", 0,
          "run.started", "1970-01-01T00:00:00.000Z", 1, .null⟩)] .empty).perform epochDates
            ⟨"workspace", "channel"⟩
            (.commitProjection ⟨"projector", "run-1", "event-1", 0, 0, .ok .null⟩))
      ((after (databaseCall epochDates)
        [(⟨"workspace", "channel"⟩, .append ⟨"event-1", "workspace", "channel", "run-1", 0,
          "run.started", "1970-01-01T00:00:00.000Z", 1, .null⟩)] .empty).perform epochDates
            ⟨"workspace", "channel"⟩
            (.commitProjection ⟨"projector", "run-1", "event-1", 0, 0, .ok .null⟩)) := by
  refine event_stores_agree epochDates _ ⟨"workspace", "channel"⟩ _ ?_
  intro made member
  rw [List.mem_append, List.mem_singleton, List.mem_singleton] at member
  cases member with
  | inl first =>
    rw [first]
    exact trivial
  | inr second =>
    rw [second]
    exact ⟨.null, rfl⟩

end AnnaAgent.EventStore
