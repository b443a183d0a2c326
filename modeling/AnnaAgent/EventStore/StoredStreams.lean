/-
What the database tells of its streams.

The database simulates the maps of the in-memory store, so what holds of its streams
in every reachable state holds of what the database reads.
-/

import AnnaAgent.EventStore.Conformance
import AnnaAgent.EventStore.RunStreams

namespace AnnaAgent.EventStore

open Foundation

variable {dates : Dates}

theorem reached_after (calls : List (ChannelScope × EventCall)) (store : InMemoryEventStore) :
    InMemoryEventStore.Reached dates store (after (memoryCall dates) calls store) := by
  induction calls generalizing store with
  | nil => exact .refl
  | cons call rest ih =>
    refine InMemoryEventStore.Reached.trans ?_ (ih (atomically (memoryCall dates call) store).2)
    unfold atomically
    split
    · rename_i performed
      exact .call .refl performed
    · exact .refl

theorem read_whole {memory : InMemoryEventStore} {database : SqliteEventStore}
    (simulates : Simulates memory database) (scope : ChannelScope) (streamId : StreamId) :
    database.read scope streamId none = memory.streamEvents scope streamId := by
  rw [← read_agrees simulates, InMemoryEventStore.read_all]

variable {calls : List (ChannelScope × EventCall)}

/-- What a read has told of a stream stays its beginning, whatever calls follow; its
events are numbered from zero and nothing stands behind a terminal event. -/
theorem stored_streams_are_logs (more : List (ChannelScope × EventCall))
    (valid : ∀ call ∈ calls ++ more, call.2.SchemaValid) (scope : ChannelScope)
    (streamId : StreamId) :
    let told := fun calls => (after (databaseCall dates) calls .empty).read scope streamId none
    told calls <+: told (calls ++ more) ∧
    (told calls).map CanonicalEvent.seq = List.range (told calls).length ∧
    (told calls).Pairwise (fun earlier _ => isTerminalEvent earlier.type = false) := by
  have early := stores_related dates calls
    (fun call member => valid call (List.mem_append_left _ member))
  have late := stores_related dates (calls ++ more) valid
  have orderly := (@reached_after dates calls .empty).orderly
    InMemoryEventStore.orderly_empty
  dsimp only
  rw [read_whole early, read_whole late]
  refine ⟨?_, orderly.numbered scope streamId, orderly.terminated scope streamId⟩
  have grows := (@reached_after dates more (after (memoryCall dates) calls .empty)).grows
  rcases grows.streams scope streamId with ⟨added, isGrown⟩
  unfold after at isGrown ⊢
  rw [List.foldl_append, isGrown]
  exact List.prefix_append _ _

def startedChannel : ChannelScope := ⟨"workspace", "channel"⟩

def startedCalls : List (ChannelScope × EventCall) :=
  [(startedChannel, .append ⟨"event-1", "workspace", "channel", "run-1", 0, "run.started",
    "1970-01-01T00:00:00.000Z", 1, .null⟩)]

theorem startedCalls_valid : ∀ call ∈ startedCalls, call.2.SchemaValid := by
  intro call member
  rw [List.mem_singleton.mp member]
  trivial

def startedDatabase : SqliteEventStore := after (databaseCall epochDates) startedCalls .empty

theorem stored_streams_are_logs_started :
    (startedDatabase.read startedChannel "run-1" none).map CanonicalEvent.seq = [0] := by
  have logs := @stored_streams_are_logs epochDates startedCalls [] startedCalls_valid
    startedChannel "run-1"
  have one : (startedDatabase.read startedChannel "run-1" none).length = 1 := by decide +kernel
  exact logs.2.1.trans (congrArg List.range one)

/-- The active runs are the claimed ones whose stream has no terminal event. -/
theorem active_runs_are_unfinished (valid : ∀ call ∈ calls, call.2.SchemaValid)
    (scope : ChannelScope) (runId : RunId) :
    let database := after (databaseCall dates) calls .empty
    runId ∈ database.activeRunIds scope ↔
      (database.getRunCommand scope runId).isSome = true ∧
        ∀ event ∈ database.read scope runId none, isTerminalEvent event.type = false := by
  have simulates := stores_related dates calls valid
  dsimp only
  have unterminated :
      (∀ event ∈ (after (databaseCall dates) calls .empty).read scope runId none,
        isTerminalEvent event.type = false) ↔
        (after (databaseCall dates) calls .empty).terminated scope runId = false := by
    rw [read_whole simulates, simulates.eventsByStream, simulates.terminated, List.any_eq_false]
    simp only [Bool.not_eq_true]
  rw [unterminated]
  unfold SqliteEventStore.activeRunIds SqliteEventStore.getRunCommand
  simp only [List.mem_map, Table.mem_select, List.find?_isSome, decide_eq_true_iff]
  constructor
  · rintro ⟨command, ⟨member, rfl, unfinished⟩, rfl⟩
    exact ⟨⟨command, member, rfl⟩, unfinished⟩
  · rintro ⟨⟨command, member, isKey⟩, unfinished⟩
    cases isKey
    exact ⟨command, ⟨member, rfl, unfinished⟩, rfl⟩

theorem active_runs_are_unfinished_unclaimed :
    "run-1" ∉ startedDatabase.activeRunIds startedChannel := by
  intro isActive
  have claimed := ((@active_runs_are_unfinished epochDates startedCalls startedCalls_valid
    startedChannel "run-1").mp isActive).1
  have unclaimed : startedDatabase.getRunCommand startedChannel "run-1" = none := by decide +kernel
  exact absurd (congrArg Option.isSome unclaimed) (by rw [startedDatabase, claimed]; nofun)

end AnnaAgent.EventStore
