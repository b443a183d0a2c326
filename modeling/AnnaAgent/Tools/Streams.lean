/-
What every step keeps of the streams.

Streams only grow, and an execution keeps the call it was entered for.  A
program that appends at the next sequence number of what it has read succeeds
only when nothing has been appended in between.
-/

import Mathlib.Data.List.Induction
import Mathlib.Data.List.Infix
import AnnaAgent.Foundation.Rely
import AnnaAgent.Tools.System

namespace AnnaAgent.Tools

open Foundation EventStore

theorem nextSequence_append (events : List Event) (event : Event) :
    nextSequence (events ++ [event]) = max (nextSequence events) (event.seq + 1) := by
  unfold nextSequence
  rw [List.foldl_append]
  rfl

theorem nextSequence_of_numbered {events : List Event}
    (numbered : ∀ (index : Nat) (event : Event), events[index]? = some event →
      event.seq = index) : nextSequence events = events.length := by
  induction events using List.reverseRecOn with
  | nil => rfl
  | append_singleton events event ih =>
    have before := ih (fun index other found => by
      have bound := (List.getElem?_eq_some_iff.1 found).1
      exact numbered index other (by rw [List.getElem?_append_left bound]; exact found))
    have isLast := numbered events.length event (by
      rw [List.getElem?_append_right (Nat.le_refl _), Nat.sub_self]
      rfl)
    rw [nextSequence_append, before, isLast, List.length_append, List.length_singleton]
    omega

theorem EventStream.nextSequence_eq (stream : EventStream) :
    nextSequence stream.events = stream.entries.length := by
  rw [nextSequence_of_numbered, EventStream.events, List.length_map]
  intro index event found
  rw [EventStream.events, List.getElem?_map] at found
  obtain ⟨entry, isEntry, isEvent⟩ := Option.map_eq_some_iff.1 found
  rw [← isEvent]
  exact stream.numbered index entry isEntry

theorem EventStream.append?_eq_some {stream stream' : EventStream} {entry : Entry}
    (appended : stream.append? entry = some stream') :
    entry.event.seq = stream.entries.length ∧ stream'.entries = stream.entries ++ [entry] := by
  unfold EventStream.append? at appended
  split at appended
  · rename_i next
    cases appended
    exact ⟨next, rfl⟩
  · cases appended

theorem appendEntry_cases (world : World) (env : Env) (event : Event) (cause : Option Cause) :
    ((world.appendEntry env event cause).2 = world ∧
        ∃ error, (world.appendEntry env event cause).1 = .error error) ∨
      (event.seq = (world.entries event.streamId).length ∧
        ∃ stream : EventStream, stream.entries = world.entries event.streamId ++ [⟨event, cause⟩] ∧
          (world.appendEntry env event cause).2 =
            { world with streams := Function.update world.streams event.streamId stream }) := by
  unfold World.appendEntry
  cases accepted : (world.streams event.streamId).append? { event, cause } with
  | none =>
    left
    cases env.append with
    | appended | acknowledgementLost error | refused error => exact ⟨rfl, _, rfl⟩
  | some stream =>
    rcases EventStream.append?_eq_some accepted with ⟨next, isAppended⟩
    cases env.append with
    | appended | acknowledgementLost error => exact Or.inr ⟨next, stream, isAppended, rfl⟩
    | refused error => exact Or.inl ⟨rfl, error, rfl⟩

theorem entries_update (world : World) (streamId other : StreamId) (stream : EventStream) :
    World.entries { world with streams := Function.update world.streams streamId stream } other =
      if other = streamId then stream.entries else world.entries other := by
  unfold World.entries
  change (Function.update world.streams streamId stream other).entries = _
  by_cases same : other = streamId
  · rw [same, Function.update_self, if_pos rfl]
  · rw [Function.update_of_ne same, if_neg same]

variable {env : Env}

theorem appendEntry_ok {world after : World} {event : Event} {cause : Option Cause}
    (done : world.appendEntry env event cause = (.ok (), after)) :
    event.seq = (world.entries event.streamId).length ∧
      after.entries event.streamId = world.entries event.streamId ++ [⟨event, cause⟩] := by
  rcases appendEntry_cases world env event cause with ⟨_, error, failed⟩ | ⟨next, stream, isAppended, isAfter⟩
  · rw [done] at failed
    cases failed
  · rw [done] at isAfter
    change after = _ at isAfter
    rw [isAfter, entries_update, if_pos rfl]
    exact ⟨next, isAppended⟩

structure Later (before after : World) : Prop where
  streams : ∀ streamId, before.entries streamId <+: after.entries streamId
  executions : ∀ {id : ExecutionId} {execution : Execution},
    before.executions[id]? = some execution →
    ∃ execution' : Execution, after.executions[id]? = some execution' ∧ execution'.cause = execution.cause ∧
      execution'.recorded = execution.recorded

theorem Later.refl (world : World) : Later world world :=
  { streams := fun _ => List.prefix_rfl
    executions := fun found => ⟨_, found, rfl, rfl⟩ }

theorem Later.trans {first second third : World} (early : Later first second)
    (late : Later second third) : Later first third := by
  refine ⟨fun streamId => (early.streams streamId).trans (late.streams streamId), ?_⟩
  intro id execution found
  obtain ⟨execution', found', sameCause, sameRecorded⟩ := early.executions found
  obtain ⟨execution'', found'', sameCause', sameRecorded'⟩ := late.executions found'
  exact ⟨execution'', found'', sameCause'.trans sameCause, sameRecorded'.trans sameRecorded⟩

variable {before : World}

theorem later_of_same {after : World} (sameStreams : after.streams = before.streams)
    (sameExecutions : after.executions = before.executions) : Later before after := by
  refine ⟨?_, ?_⟩
  · intro streamId
    unfold World.entries
    rw [sameStreams]
  · intro id execution found
    exact ⟨execution, by rw [sameExecutions]; exact found, rfl, rfl⟩

theorem appendEntry_later (world : World) (env : Env) (event : Event) (cause : Option Cause) :
    Later world (world.appendEntry env event cause).2 := by
  rcases appendEntry_cases world env event cause with ⟨same, _⟩ | ⟨_, stream, isAppended, isAfter⟩
  · rw [same]
    exact Later.refl world
  · rw [isAfter]
    refine ⟨?_, fun found => ⟨_, found, rfl, rfl⟩⟩
    intro streamId
    rw [entries_update]
    by_cases same : streamId = event.streamId
    · rw [if_pos same, isAppended, same]
      exact List.prefix_append _ _
    · rw [if_neg same]

theorem coordinate_later (world : World) (seam : SeamId) (key : String) (cause : Cause) :
    Later world (world.coordinate seam key cause).2 := by
  unfold World.coordinate
  cases (world.inFlight seam).lookup key with
  | some execution => exact later_of_same rfl rfl
  | none =>
    refine ⟨fun _ => List.prefix_rfl, ?_⟩
    intro id execution found
    refine ⟨execution, ?_, rfl, rfl⟩
    exact (List.getElem?_append_left (List.getElem?_eq_some_iff.1 found).1).trans found

theorem settle_executions (world : World) (id settled : ExecutionId)
    (outcome : Except Thrown ToolResult) :
    (world.settle settled outcome).executions[id]? =
      (world.executions[id]?).map (fun execution =>
        if settled = id then { execution with outcome := some outcome } else execution) := by
  change (world.executions.modify settled _)[id]? = _
  rw [List.getElem?_modify]
  cases world.executions[id]? with
  | none => rfl
  | some execution =>
    by_cases same : settled = id
    · simp only [if_pos same]
      rfl
    · simp only [if_neg same]
      rfl

theorem settle_later (world : World) (settled : ExecutionId)
    (outcome : Except Thrown ToolResult) : Later world (world.settle settled outcome) := by
  refine ⟨fun _ => List.prefix_rfl, ?_⟩
  intro id execution found
  rw [settle_executions, found, Option.map_some]
  refine ⟨_, rfl, ?_, ?_⟩
  · split
    · rfl
    · rfl
  · split
    · rfl
    · rfl
theorem settle_outcome {world : World} {id : ExecutionId} {outcome settled : Except Thrown ToolResult}
    {execution : Execution} (member : execution ∈ (world.settle id outcome).executions)
    (isSettled : execution.outcome = some settled) :
    execution ∈ world.executions ∨ ∃ old, settled = outcome ∧ world.executions[id]? = some old ∧
      execution.cause = old.cause ∧ execution.recorded = old.recorded := by
  obtain ⟨index, found⟩ := List.mem_iff_getElem?.1 member
  rw [settle_executions] at found
  obtain ⟨old, isOld, isExecution⟩ := Option.map_eq_some_iff.1 found
  by_cases same : id = index
  · rw [if_pos same] at isExecution
    rw [← isExecution] at isSettled ⊢
    cases isSettled
    exact Or.inr ⟨old, rfl, same ▸ isOld, rfl, rfl⟩
  · rw [if_neg same] at isExecution
    rw [← isExecution]
    exact Or.inl (List.mem_of_getElem? isOld)

/-- The world that an answered request leaves. -/
def World.left (env : Env) (seam : SeamId) (world : World) : Request → World
  | .append event cause => (world.appendEntry env event cause).2
  | .coordinate key cause => (world.coordinate seam key cause).2
  | .settle execution outcome => world.settle execution outcome
  | .removeInFlight key execution => world.removeInFlight seam key execution
  | _ => world

variable {seam : SeamId} {request : Request} {answer : Except Thrown request.Response}

theorem perform_left {after : World}
    (done : perform env seam before request = some (answer, after)) :
    after = before.left env seam request := by
  cases request with
  | awaitExecution execution =>
    simp only [perform] at done
    split at done
    · cases done
      rfl
    · cases done
  | _ => exact (congrArg Prod.snd (Option.some.inj done)).symm

theorem perform_later {after : World}
    (done : perform env seam before request = some (answer, after)) : Later before after := by
  rw [perform_left done]
  cases request with
  | append event cause => exact appendEntry_later before env event cause
  | coordinate key cause => exact coordinate_later before seam key cause
  | settle execution outcome => exact settle_later before execution outcome
  | removeInFlight key execution => exact later_of_same rfl rfl
  | _ => exact Later.refl before

theorem perform_outcome {after : World} {execution : Execution}
    {outcome : Except Thrown ToolResult}
    (done : perform env seam before request = some (answer, after))
    (member : execution ∈ after.executions) (isOutcome : execution.outcome = some outcome) :
    execution ∈ before.executions ∨ ∃ id old, request = .settle id outcome ∧
      before.executions[id]? = some old ∧ execution.cause = old.cause ∧
        execution.recorded = old.recorded := by
  rw [perform_left done] at member
  cases request with
  | append event cause =>
    left
    change execution ∈ (before.appendEntry env event cause).2.executions at member
    rcases appendEntry_cases before env event cause with ⟨same, _⟩ | ⟨_, stream, _, isStored⟩
    · rw [same] at member
      exact member
    · rw [isStored] at member
      exact member
  | coordinate key cause =>
    left
    change execution ∈ (before.coordinate seam key cause).2.executions at member
    unfold World.coordinate at member
    split at member
    · exact member
    · rcases List.mem_append.1 member with old | isNew
      · exact old
      · rw [List.mem_singleton.1 isNew] at isOutcome
        cases isOutcome
  | settle id settled =>
    rcases settle_outcome member isOutcome with isOld | ⟨old, rfl, found, same⟩
    · exact Or.inl isOld
    · exact Or.inr ⟨id, old, rfl, found, same⟩
  | _ => exact Or.inl member

variable {digest : String → String} {calls : Call → Prop}
  {meets : SeamId → (request : Request) → World → Except Thrown request.Response → Prop}

theorem host_respects (digest : String → String) (calls : Call → Prop)
    (meets : SeamId → (request : Request) → World → Except Thrown request.Response → Prop) :
    ((host digest calls).within meets).Respects Later :=
  { refl := Later.refl
    trans := Later.trans
    performs := by
      rintro seam request before answer after ⟨⟨env, done⟩, _⟩
      exact perform_later done
    stops := by
      intro seam before after stopped
      change after = { before with inFlight := _ } at stopped
      rw [stopped]
      exact later_of_same rfl rfl
    drifts := fun drifted => drifted.elim }

/-- What a program has read is still a beginning of the stream, and its next
sequence number is the length of what it has read. -/
theorem read_entries {after : World} {streamId : StreamId} {approvalOf : Option ToolRequest}
    {durableEvents : List Event}
    (done : perform env seam before (.readStream streamId approvalOf) = some (.ok durableEvents,
      after)) :
    after = before ∧ durableEvents = (before.entries streamId).map Entry.event ∧
      nextSequence durableEvents = (before.entries streamId).length := by
  cases done
  exact ⟨rfl, rfl, (before.streams streamId).nextSequence_eq⟩

theorem perform_entered {after : World} {key : String} {request : ToolRequest}
    {replayPolicy : Option ReplayPolicy} {effectKey : String} {execution : ExecutionId}
    (isKey : request.effectKey = some effectKey)
    (done : perform env seam before (.coordinate key ⟨request, replayPolicy⟩) = some (.ok
      (.entered execution), after)) :
    ∃ own, after.executions[execution]? = some own ∧ own.cause = ⟨request, replayPolicy⟩ ∧
      own.recorded = after.entries (effectStreamId effectKey) := by
  have isAfter : before.coordinate seam key ⟨request, replayPolicy⟩ =
      (.entered execution, after) := by
    have answered := Option.some.inj done
    rw [Prod.mk.injEq, Except.ok.injEq] at answered
    exact Prod.ext answered.1 answered.2
  unfold World.coordinate at isAfter
  split at isAfter
  · cases isAfter
  · cases isAfter
    refine ⟨_, List.getElem?_concat_length, rfl, ?_⟩
    rw [isKey]
    rfl

end AnnaAgent.Tools
