/-
Stores that reject an append at a stale sequence number.

What the users of a store rely on: a read answers with the whole stream, and a
call leaves all streams as they are or appends one event at the end of one.
-/

import AnnaAgent.EventStore.Streams

namespace AnnaAgent.EventStore

open Foundation

def EventCall.appended? (events : StreamId → List Event) : EventCall → Option Event
  | .append event => some event
  | .appendIdempotent event => some { event with seq := (events event.streamId).length }
  | _ => none

def AppendedAtEnd (scope : ChannelScope) (event : Event)
    (before after : ChannelScope → StreamId → List Event) : Prop :=
  event.seq = (before scope event.streamId).length ∧ ∀ other streamId,
    after other streamId = before other streamId ++
      if other = scope ∧ streamId = event.streamId then [event] else []

structure StreamStore where
  Store : Type
  perform : ChannelScope → Store → (call : EventCall) → Except Thrown (call.Answer × Store)
  events : Store → ChannelScope → StreamId → List Event
  reads : ∀ {scope store streamId answer store'},
    perform scope store (.read streamId none) = .ok (answer, store') →
      answer = events store scope streamId
  changes : ∀ {scope store call answer store'},
    perform scope store call = .ok (answer, store') →
      events store' = events store ∨
        ∃ event, call.appended? (events store scope) = some event ∧
          AppendedAtEnd scope event (events store) (events store')

namespace StreamStore

variable {streams : StreamStore} {scope : ChannelScope} {store store' : streams.Store}

def Longer (before after : streams.Store) : Prop :=
  ∀ scope streamId, streams.events before scope streamId <+: streams.events after scope streamId

theorem Longer.refl (store : streams.Store) : Longer store store :=
  fun _ _ => List.prefix_rfl

theorem Longer.trans {first second third : streams.Store} (early : Longer first second)
    (late : Longer second third) : Longer first third :=
  fun scope streamId => (early scope streamId).trans (late scope streamId)

theorem longer_of_perform {call : EventCall} {answer : call.Answer}
    (performed : streams.perform scope store call = .ok (answer, store')) : Longer store store' := by
  intro other streamId
  rcases streams.changes performed with same | ⟨event, _, _, isAfter⟩
  · exact same ▸ List.prefix_rfl
  · rw [isAfter]
    exact List.prefix_append _ _

theorem read_same {streamId : StreamId} {answer : List Event}
    (performed : streams.perform scope store (.read streamId none) = .ok (answer, store')) :
    answer = streams.events store scope streamId ∧
      streams.events store' = streams.events store := by
  refine ⟨streams.reads performed, ?_⟩
  rcases streams.changes performed with same | ⟨event, isAppended, _⟩
  · exact same
  · cases isAppended

end StreamStore

def InMemoryEventStore.streamStore (dates : Dates) : StreamStore :=
  { Store := InMemoryEventStore
    perform := fun scope store call => store.perform dates scope call
    events := fun store scope streamId => store.streamEvents scope streamId
    reads := by
      intro scope store streamId answer store' performed
      cases performed
      exact store.read_all scope streamId
    changes := by
      intro scope store call answer store' performed
      rcases InMemoryEventStore.perform_ok performed with quiet | ⟨event, isAppended, pushed⟩
      · left
        funext other streamId
        exact quiet.streamEvents other streamId
      · right
        refine ⟨event, ?_, pushed.atEnd, pushed.streamEvents⟩
        cases call <;> exact isAppended }

end AnnaAgent.EventStore
