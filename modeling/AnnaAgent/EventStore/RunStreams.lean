/-
The streams of a run (`listRunStreamIds`).

A stream is listed for the commands of child runs and for the events it holds, and
neither is ever removed.  Every stored event has a time.
-/

import Mathlib.Data.List.Dedup
import AnnaAgent.EventStore.Streams

namespace AnnaAgent.EventStore

open Foundation

namespace InMemoryEventStore

variable {store store' : InMemoryEventStore} {dates : Dates} {scope : ChannelScope}

theorem mem_listRunStreamIds {runId : RunId} {streamId : StreamId} :
    streamId ∈ store.listRunStreamIds scope runId ↔
      (∃ command ∈ store.commandsById.values,
        command.parentRunId = some runId ∧ command.runId = streamId) ∨
      ∃ event ∈ store.eventsByStream.values.flatten,
        (event.scope = scope ∧ belongsToRun runId event = true) ∧ event.streamId = streamId := by
  unfold listRunStreamIds
  dsimp only
  rw [List.mem_insertionSort, List.mem_dedup, List.mem_append, List.mem_map, List.mem_map]
  simp only [List.mem_filter, decide_eq_true_eq, Bool.and_eq_true, and_assoc]

theorem values_set_new {ν : Type} {map : OrderedMap String ν} {key : String}
    (absent : map.get? key = none) {value new : ν} (member : value ∈ map.values) :
    value ∈ (map.set key new).values := by
  unfold OrderedMap.values at member ⊢
  rw [OrderedMap.entries_set_new absent, List.map_append]
  exact List.mem_append_left _ member

variable {event : Event}

theorem pushEvent_flatten {candidate : Event} (member : event ∈ store.eventsByStream.values.flatten) :
    event ∈ (store.pushEvent scope candidate).eventsByStream.values.flatten := by
  rcases List.mem_flatten.mp member with ⟨events, isValue, isEvent⟩
  rcases List.mem_map.mp isValue with ⟨⟨key, value⟩, isEntry, rfl⟩
  have found := OrderedMap.get?_eq_some_iff.mpr isEntry
  by_cases same : key = scopedKey scope "stream" candidate.streamId
  · have isStream : store.streamEvents scope candidate.streamId = value := by
      unfold streamEvents
      rw [← same, found]
      rfl
    have isNew : (store.pushEvent scope candidate).eventsByStream.get? key =
        some (value ++ [candidate]) := by
      unfold pushEvent
      rw [OrderedMap.get?_set, if_pos same, isStream]
    refine List.mem_flatten.mpr ⟨value ++ [candidate], ?_, List.mem_append_left _ isEvent⟩
    exact List.mem_map.mpr ⟨_, OrderedMap.get?_eq_some_iff.mp isNew, rfl⟩
  · have isOld : (store.pushEvent scope candidate).eventsByStream.get? key = some value := by
      unfold pushEvent
      rw [OrderedMap.get?_set, if_neg same, found]
    refine List.mem_flatten.mpr ⟨value, ?_, isEvent⟩
    exact List.mem_map.mpr ⟨_, OrderedMap.get?_eq_some_iff.mp isOld, rfl⟩

/-- What a listing is made from is still there. -/
structure Retains (store store' : InMemoryEventStore) : Prop where
  commands : ∀ command ∈ store.commandsById.values, command ∈ store'.commandsById.values
  events : ∀ event ∈ store.eventsByStream.values.flatten,
    event ∈ store'.eventsByStream.values.flatten

theorem Retains.refl (store : InMemoryEventStore) : Retains store store :=
  ⟨fun _ => id, fun _ => id⟩

variable {second first third : InMemoryEventStore}

theorem Retains.trans (early : Retains first second) (late : Retains second third) :
    Retains first third :=
  ⟨fun command member => late.commands command (early.commands command member),
    fun event member => late.events event (early.events event member)⟩

theorem Retains.listed (retains : Retains store store') {runId : RunId} {streamId : StreamId}
    (member : streamId ∈ store.listRunStreamIds scope runId) :
    streamId ∈ store'.listRunStreamIds scope runId := by
  rw [mem_listRunStreamIds] at member ⊢
  rcases member with ⟨command, isCommand, isChild⟩ | ⟨event, isEvent, belongs⟩
  · exact Or.inl ⟨command, retains.commands command isCommand, isChild⟩
  · exact Or.inr ⟨event, retains.events event isEvent, belongs⟩

theorem Pushed.retains (pushed : Pushed scope store event store') :
    Retains store store' := by
  rw [pushed.isPush]
  exact ⟨fun _ => id, fun _ => pushEvent_flatten⟩

theorem claimStart_retains {command claimed : StartRun}
    (succeeded : store.claimStart scope command = .ok (claimed, store')) :
    Retains store store' := by
  unfold claimStart at succeeded
  obtain ⟨candidate, isCandidate, succeeded⟩ := bind_ok succeeded
  obtain ⟨done, checked, succeeded⟩ := bind_ok succeeded
  dsimp only at succeeded
  split at succeeded
  · split at succeeded
    · cases succeeded
      exact .refl store
    · cases succeeded
  · rename_i existing
    split at succeeded
    · cases succeeded
    · rename_i untaken
      cases succeeded
      refine ⟨?_, fun _ => id⟩
      intro other member
      have absent : store.commandsById.get? (scopedKey scope "run" claimed.runId) = none := by
        unfold OrderedMap.has at untaken
        exact Option.not_isSome_iff_eq_none.mp untaken
      apply values_set_new
      · rw [OrderedMap.get?_set, if_neg]
        · exact absent
        · intro sameKey
          exact absurd (scopedKey_inj.1 sameKey).2.1 (by decide)
      · exact values_set_new existing member

theorem commitProjection_retains {commit : ProjectionCommit} {result : ProjectionCommitResult}
    (succeeded : store.commitProjection scope commit = .ok (result, store')) :
    Retains store store' := by
  unfold commitProjection at succeeded
  split at succeeded
  · cases succeeded
  · split at succeeded
    · cases succeeded
    · dsimp only at succeeded
      split at succeeded
      · split at succeeded
        · cases succeeded
        · cases succeeded
          exact .refl store
      · split at succeeded
        · cases succeeded
        · obtain ⟨state, _, succeeded⟩ := bind_ok succeeded
          cases succeeded
          exact ⟨fun _ => id, fun _ => id⟩

theorem claimChannelSession_retains {session claimed : ChannelSession}
    (succeeded : store.claimChannelSession scope session = .ok (claimed, store')) :
    Retains store store' := by
  unfold claimChannelSession at succeeded
  obtain ⟨candidate, isCandidate, succeeded⟩ := bind_ok succeeded
  obtain ⟨done, checked, succeeded⟩ := bind_ok succeeded
  dsimp only at succeeded
  split at succeeded
  · split at succeeded
    · cases succeeded
      exact .refl store
    · cases succeeded
  · cases succeeded
    exact ⟨fun _ => id, fun _ => id⟩

variable {call : EventCall} {answer : call.Answer}

theorem perform_retains (succeeded : store.perform dates scope call = .ok (answer, store')) :
    Retains store store' := by
  cases call with
  | append event =>
    rcases append_ok succeeded with ⟨same, _⟩ | pushed
    · rw [same]
      exact .refl store
    · exact pushed.retains
  | appendIdempotent event =>
    rcases appendIdempotent_ok succeeded with same | pushed
    · rw [same]
      exact .refl store
    · exact pushed.retains
  | claimStart command => exact claimStart_retains succeeded
  | claimChannelSession session => exact claimChannelSession_retains succeeded
  | commitProjection commit => exact commitProjection_retains succeeded
  | _ =>
    cases succeeded
    exact .refl store

def Dated (dates : Dates) (store : InMemoryEventStore) : Prop :=
  ∀ scope streamId, ∀ event ∈ store.streamEvents scope streamId,
    (dates.parse event.timestamp).isSome = true

theorem parsed_dated {parsed : Event} (succeeded : parseCanonicalEvent dates event = .ok parsed) :
    (dates.parse event.timestamp).isSome = true := by
  unfold parseCanonicalEvent at succeeded
  obtain ⟨id, _, succeeded⟩ := bind_ok succeeded
  obtain ⟨workspaceId, _, succeeded⟩ := bind_ok succeeded
  obtain ⟨channelId, _, succeeded⟩ := bind_ok succeeded
  obtain ⟨streamId, _, succeeded⟩ := bind_ok succeeded
  obtain ⟨type, _, succeeded⟩ := bind_ok succeeded
  obtain ⟨timestamp, isTimestamp, _⟩ := bind_ok succeeded
  unfold parseTimestamp at isTimestamp
  obtain ⟨text, isText, isTimestamp⟩ := bind_ok isTimestamp
  rw [expectNonEmptyString_eq isText] at isTimestamp
  split at isTimestamp
  · cases isTimestamp
  · rename_i isDate
    exact Option.isSome_iff_ne_none.mpr isDate

theorem appended_dated (succeeded : store.perform dates scope call = .ok (answer, store'))
    (isAppended : store.appended? scope call = some event) :
    (dates.parse event.timestamp).isSome = true := by
  cases call with
  | append candidate =>
    cases isAppended
    obtain ⟨parsed, isParsed, _⟩ := bind_ok succeeded
    exact parsed_dated isParsed
  | appendIdempotent candidate =>
    cases isAppended
    obtain ⟨parsed, isParsed, _⟩ := bind_ok succeeded
    have dated := parsed_dated isParsed
    exact dated
  | read _ _ | claimStart _ | getCommand _ | getRunCommand _ | claimChannelSession _
    | getChannelSession | loadProjection _ _ | commitProjection _ | activeRunIds =>
      cases isAppended

theorem perform_dated (dated : Dated dates store)
    (succeeded : store.perform dates scope call = .ok (answer, store')) : Dated dates store' := by
  intro other streamId event member
  rcases perform_ok succeeded with quiet | ⟨appended, isAppended, pushed⟩
  · rw [quiet.streamEvents] at member
    exact dated other streamId event member
  · rw [pushed.streamEvents] at member
    rcases List.mem_append.mp member with isOld | isNew
    · exact dated other streamId event isOld
    · split at isNew
      · rw [List.mem_singleton.mp isNew]
        exact appended_dated succeeded isAppended
      · cases isNew

inductive Reached (dates : Dates) (store : InMemoryEventStore) : InMemoryEventStore → Prop
  | refl : Reached dates store store
  | call {middle after : InMemoryEventStore} {scope : ChannelScope} {call : EventCall}
      {answer : call.Answer} (early : Reached dates store middle)
      (performed : middle.perform dates scope call = .ok (answer, after)) :
      Reached dates store after

theorem Reached.trans (early : Reached dates first second) (late : Reached dates second third) :
    Reached dates first third := by
  induction late with
  | refl => exact early
  | call _ performed ih => exact .call ih performed

section

variable (reached : Reached dates store store')

include reached

theorem Reached.grows : Grows store store' := by
  induction reached with
  | refl => exact .refl store
  | call _ performed ih => exact ih.trans (perform_grows performed)

theorem Reached.retains : Retains store store' := by
  induction reached with
  | refl => exact .refl store
  | call _ performed ih => exact ih.trans (perform_retains performed)

theorem Reached.orderly (orderly : Orderly store) : Orderly store' := by
  induction reached with
  | refl => exact orderly
  | call _ performed ih => exact perform_orderly ih performed

theorem Reached.dated (dated : Dated dates store) : Dated dates store' := by
  induction reached with
  | refl => exact dated
  | call _ performed ih => exact perform_dated ih performed

end

theorem dated_empty : Dated dates empty :=
  nofun

end InMemoryEventStore

end AnnaAgent.EventStore
