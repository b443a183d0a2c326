/-
`createLiveTraceCursor` (`trace/src/index.ts`).

A cursor keeps the events it has taken and the last number of every stream.  A read lists
the streams of the run and takes the new events of one stream after the other, while
others may append; its document is the projection of all that was taken.
-/

import AnnaAgent.EventStore.RunStreams
import AnnaAgent.Trace.Projection

namespace AnnaAgent.Trace

open Foundation
open EventStore
open InMemoryEventStore (Reached)

structure LiveTraceCursorOptions extends ProjectTraceOptions where
  storeScope : ChannelScope
  streamId : StreamId

structure EventCursor where
  streamId : StreamId
  seq : Nat

structure LiveTraceSnapshot where
  document : TraceDocument
  cursor : Option EventCursor
  cursors : List EventCursor

/-- What the closure of a cursor holds. -/
structure LiveTraceCursor where
  events : List Event
  lastSeqByStream : OrderedMap StreamId Nat

namespace LiveTraceCursor

def fresh : LiveTraceCursor :=
  { events := []
    lastSeqByStream := .empty }

variable (cursor : LiveTraceCursor) (options : LiveTraceCursorOptions)

/-- The streams of a read, in their order. -/
def listedStreams (store : InMemoryEventStore) : List StreamId :=
  ((options.streamId :: store.listRunStreamIds options.storeScope options.runId).dedup).insertionSort
    (fun left right => left ≤ right)

/-- `lastSeq < 0 ? undefined : lastSeq`. -/
def afterSeq (streamId : StreamId) : Option Int :=
  (cursor.lastSeqByStream.get? streamId).map Int.ofNat

/-- An event that is not after the last is skipped; without a last one none is. -/
def take (streamId : StreamId) (event : Event) : LiveTraceCursor :=
  if (cursor.lastSeqByStream.get? streamId).any (fun last => decide (event.seq ≤ last)) then cursor
  else
    { events := cursor.events ++ [event]
      lastSeqByStream := cursor.lastSeqByStream.set streamId event.seq }

def readStream (store : InMemoryEventStore) (streamId : StreamId) : LiveTraceCursor :=
  (store.read options.storeScope streamId (cursor.afterSeq streamId)).foldl
    (fun cursor event => cursor.take streamId event) cursor

def cursorOf (streamId : StreamId) : Option EventCursor :=
  (cursor.lastSeqByStream.get? streamId).map (fun seq => { streamId, seq })

def snapshot (dates : Dates) (localeCompare : String → String → Ordering) : LiveTraceSnapshot :=
  { document := projectTrace dates localeCompare cursor.events options.toProjectTraceOptions
    cursor := cursor.cursorOf options.streamId
    cursors := (cursor.lastSeqByStream.entries.insertionSort (fun left right =>
      localeCompare left.1 right.1 ≠ .gt)).map (fun entry => ⟨entry.1, entry.2⟩) }

end LiveTraceCursor

abbrev Moments := List (StreamId × InMemoryEventStore)

/-- The streams are read one after the other; between any two, others use the store. -/
inductive Reading (dates : Dates) (options : LiveTraceCursorOptions) :
    InMemoryEventStore → List StreamId → LiveTraceCursor → Moments → InMemoryEventStore →
      LiveTraceCursor → Prop
  | done {store after : InMemoryEventStore} {cursor : LiveTraceCursor}
      (reached : Reached dates store after) : Reading dates options store [] cursor [] after cursor
  | stream {store middle after : InMemoryEventStore} {cursor cursor' : LiveTraceCursor}
      {streamId : StreamId} {rest : List StreamId} {moments : Moments}
      (reached : Reached dates store middle)
      (later : Reading dates options middle rest (cursor.readStream options middle streamId)
        moments after cursor') :
      Reading dates options store (streamId :: rest) cursor ((streamId, middle) :: moments) after
        cursor'

inductive LiveRun (dates : Dates) (options : LiveTraceCursorOptions) :
    InMemoryEventStore → LiveTraceCursor → Prop
  | start : LiveRun dates options .empty .fresh
  | call {store after : InMemoryEventStore} {cursor : LiveTraceCursor} {scope : ChannelScope}
      {call : EventCall} {answer : call.Answer} (run : LiveRun dates options store cursor)
      (performed : store.perform dates scope call = .ok (answer, after)) :
      LiveRun dates options after cursor
  | read {store after : InMemoryEventStore} {cursor cursor' : LiveTraceCursor} {moments : Moments}
      (run : LiveRun dates options store cursor)
      (reading : Reading dates options store (LiveTraceCursor.listedStreams options store) cursor
        moments after cursor') :
      LiveRun dates options after cursor'

def presentEvents (scope : ChannelScope) (moments : Moments) : List Event :=
  moments.flatMap (fun moment => moment.2.streamEvents scope moment.1)

namespace LiveTraceCursor

variable {cursor : LiveTraceCursor} {options : LiveTraceCursorOptions}

/-- How many events of a stream are taken. -/
def taken (cursor : LiveTraceCursor) (streamId : StreamId) : Nat :=
  match cursor.lastSeqByStream.get? streamId with
  | some last => last + 1
  | none => 0

variable {streamId : StreamId}

theorem taken_eq_of_get? {other : LiveTraceCursor}
    (same : other.lastSeqByStream.get? streamId = cursor.lastSeqByStream.get? streamId) :
    other.taken streamId = cursor.taken streamId := by
  unfold taken
  rw [same]

theorem take_next {event : Event} (isNext : event.seq = cursor.taken streamId) :
    cursor.take streamId event =
      { events := cursor.events ++ [event]
        lastSeqByStream := cursor.lastSeqByStream.set streamId event.seq } := by
  unfold take taken at *
  rw [if_neg]
  cases found : cursor.lastSeqByStream.get? streamId with
  | none => exact Bool.false_ne_true
  | some last =>
    rw [found] at isNext
    dsimp only at isNext
    rw [Option.any_some, decide_eq_true_eq]
    omega

/-- Events that are numbered from the first that is missing are all taken. -/
structure Takes (cursor : LiveTraceCursor) (streamId : StreamId) (added : List Event)
    (after : LiveTraceCursor) : Prop where
  events : after.events = cursor.events ++ added
  taken : after.taken streamId = cursor.taken streamId + added.length
  others : ∀ other, other ≠ streamId →
    after.lastSeqByStream.get? other = cursor.lastSeqByStream.get? other

theorem foldl_take {added : List Event}
    (numbered : added.map CanonicalEvent.seq = List.range' (cursor.taken streamId) added.length) :
    Takes cursor streamId added
      (added.foldl (fun cursor event => cursor.take streamId event) cursor) := by
  induction added generalizing cursor with
  | nil => exact ⟨(List.append_nil _).symm, rfl, fun _ _ => rfl⟩
  | cons event rest ih =>
    rw [List.map_cons, List.length_cons, List.range'_succ] at numbered
    rcases List.cons.inj numbered with ⟨isNext, numberedRest⟩
    have isTaken := take_next isNext
    have isCount : (cursor.take streamId event).taken streamId = cursor.taken streamId + 1 := by
      rw [isTaken, ← isNext]
      unfold taken
      rw [OrderedMap.get?_set, if_pos rfl]
    rw [List.foldl_cons]
    rw [← isCount] at numberedRest
    have takes := ih numberedRest
    refine ⟨?_, ?_, ?_⟩
    · rw [takes.events, isTaken, List.append_assoc, List.singleton_append]
    · rw [takes.taken, isCount, List.length_cons]
      omega
    · intro other different
      rw [takes.others other different, isTaken, OrderedMap.get?_set, if_neg different]

end LiveTraceCursor

theorem read_drop {store : InMemoryEventStore} {scope : ChannelScope} {streamId : StreamId}
    (orderly : store.Orderly) (last : Nat) :
    store.read scope streamId (some (Int.ofNat last)) =
      (store.streamEvents scope streamId).drop (last + 1) := by
  have numbered := orderly.numbered scope streamId
  unfold InMemoryEventStore.read
  generalize store.streamEvents scope streamId = events at numbered ⊢
  have early : (events.take (last + 1)).filter
      (InMemoryEventStore.isAfter (some (Int.ofNat last))) = [] := by
    rw [List.filter_eq_nil_iff]
    intro event member isAfter
    have isSeq : event.seq ∈ (events.map CanonicalEvent.seq).take (last + 1) := by
      rw [← List.map_take]
      exact List.mem_map_of_mem member
    rw [numbered, List.take_range, List.mem_range] at isSeq
    have isLater : (last : Int) < event.seq := of_decide_eq_true isAfter
    omega
  have late : (events.drop (last + 1)).filter
      (InMemoryEventStore.isAfter (some (Int.ofNat last))) = events.drop (last + 1) := by
    rw [List.filter_eq_self]
    intro event member
    have isSeq : event.seq ∈ (events.map CanonicalEvent.seq).drop (last + 1) := by
      rw [← List.map_drop]
      exact List.mem_map_of_mem member
    rw [numbered, List.range_eq_range', List.drop_range', List.mem_range'_1] at isSeq
    have isLater : (last : Int) < event.seq := by omega
    exact decide_eq_true isLater
  calc
    events.filter (InMemoryEventStore.isAfter (some (Int.ofNat last))) =
        (events.take (last + 1) ++ events.drop (last + 1)).filter
          (InMemoryEventStore.isAfter (some (Int.ofNat last))) := by rw [List.take_append_drop]
    _ = events.drop (last + 1) := by rw [List.filter_append, early, late, List.nil_append]

/-- The cursor holds the first events of every stream, as many as it has counted. -/
structure Followed (scope : ChannelScope) (store : InMemoryEventStore) (cursor : LiveTraceCursor) :
    Prop where
  bounded : ∀ streamId, cursor.taken streamId ≤ (store.streamEvents scope streamId).length
  events : ∀ streamId,
    cursor.events.filter (fun event => decide (event.streamId = streamId)) =
      (store.streamEvents scope streamId).take (cursor.taken streamId)

section Following

variable {dates : Dates} {options : LiveTraceCursorOptions} {scope : ChannelScope}
  {store after : InMemoryEventStore} {cursor : LiveTraceCursor}

theorem followed_fresh : Followed scope .empty .fresh :=
  ⟨fun _ => Nat.le_refl 0, fun _ => rfl⟩

theorem Followed.grows (followed : Followed scope store cursor)
    (grows : InMemoryEventStore.Grows store after) : Followed scope after cursor := by
  constructor
  · intro streamId
    rcases grows.streams scope streamId with ⟨added, isAfter⟩
    have bound := followed.bounded streamId
    rw [isAfter, List.length_append]
    omega
  · intro streamId
    rcases grows.streams scope streamId with ⟨added, isAfter⟩
    rw [followed.events, isAfter, List.take_append_of_le_length (followed.bounded streamId)]

theorem read_untaken (orderly : store.Orderly) (cursor : LiveTraceCursor) (streamId : StreamId) :
    store.read scope streamId (cursor.afterSeq streamId) =
      (store.streamEvents scope streamId).drop (cursor.taken streamId) := by
  unfold LiveTraceCursor.afterSeq LiveTraceCursor.taken
  cases cursor.lastSeqByStream.get? streamId with
  | none => exact InMemoryEventStore.read_all store scope streamId
  | some last => exact read_drop orderly last

theorem drop_numbered (orderly : store.Orderly) (streamId : StreamId) (count : Nat) :
    ((store.streamEvents scope streamId).drop count).map CanonicalEvent.seq =
      List.range' count ((store.streamEvents scope streamId).drop count).length := by
  rw [List.map_drop, orderly.numbered, List.range_eq_range', List.drop_range', List.length_drop,
    Nat.zero_add, Nat.mul_one]

theorem readStream_takes (orderly : store.Orderly) (cursor : LiveTraceCursor)
    (streamId : StreamId) :
    LiveTraceCursor.Takes cursor streamId
      ((store.streamEvents options.storeScope streamId).drop (cursor.taken streamId))
      (cursor.readStream options store streamId) := by
  unfold LiveTraceCursor.readStream
  rw [read_untaken orderly]
  exact LiveTraceCursor.foldl_take (drop_numbered orderly streamId _)

variable {streamId : StreamId} {streams : List StreamId}

theorem filter_located (orderly : store.Orderly) {other : StreamId} {events : List Event}
    (sub : ∀ event ∈ events, event ∈ store.streamEvents scope streamId) :
    events.filter (fun event => decide (event.streamId = other)) =
      if other = streamId then events else [] := by
  split
  · rename_i same
    rw [List.filter_eq_self]
    intro event member
    exact decide_eq_true ((orderly.located (sub event member)).2.trans same.symm)
  · rename_i different
    rw [List.filter_eq_nil_iff]
    intro event member isOther
    exact different ((of_decide_eq_true isOther).symm.trans (orderly.located (sub event member)).2)

theorem readStream_taken_other (orderly : store.Orderly) {other : StreamId}
    (different : other ≠ streamId) :
    (cursor.readStream options store streamId).taken other = cursor.taken other :=
  LiveTraceCursor.taken_eq_of_get? ((readStream_takes orderly cursor streamId).others other different)

theorem readStream_taken_same (orderly : store.Orderly)
    (followed : Followed options.storeScope store cursor) (streamId : StreamId) :
    (cursor.readStream options store streamId).taken streamId =
      (store.streamEvents options.storeScope streamId).length := by
  have bound := followed.bounded streamId
  rw [(readStream_takes orderly cursor streamId).taken, List.length_drop]
  omega

theorem Followed.readStream (followed : Followed options.storeScope store cursor)
    (orderly : store.Orderly) (streamId : StreamId) :
    Followed options.storeScope store (cursor.readStream options store streamId) := by
  have takes : LiveTraceCursor.Takes cursor streamId
      ((store.streamEvents options.storeScope streamId).drop (cursor.taken streamId))
      (cursor.readStream options store streamId) :=
    readStream_takes orderly cursor streamId
  constructor
  · intro other
    by_cases same : other = streamId
    · rw [same, readStream_taken_same orderly followed]
    · rw [readStream_taken_other orderly same]
      exact followed.bounded other
  · intro other
    rw [takes.events, List.filter_append, followed.events,
      filter_located orderly (fun _ => List.mem_of_mem_drop)]
    by_cases same : other = streamId
    · rw [if_pos same, same, List.take_append_drop, readStream_taken_same orderly followed,
        List.take_length]
    · rw [if_neg same, List.append_nil, readStream_taken_other orderly same]

/-! ### Whole reads -/

/-- What a store that others use still promises. -/
structure Sound (dates : Dates) (store : InMemoryEventStore) : Prop where
  orderly : store.Orderly
  dated : InMemoryEventStore.Dated dates store

theorem Sound.reached (sound : Sound dates store) (reached : Reached dates store after) :
    Sound dates after :=
  ⟨reached.orderly sound.orderly, reached.dated sound.dated⟩

theorem Reading.reached {cursor' : LiveTraceCursor} {moments : Moments}
    (reading : Reading dates options store streams cursor moments after cursor') :
    Reached dates store after := by
  induction reading with
  | done reached => exact reached
  | stream reached _ ih => exact reached.trans ih

/-- After a read every listed stream is taken up to the moment when it was read, and of
another stream nothing was taken. -/
structure HasRead (dates : Dates) (scope : ChannelScope) (streams : List StreamId)
    (cursor : LiveTraceCursor) (moments : Moments) (after : InMemoryEventStore)
    (cursor' : LiveTraceCursor) : Prop where
  followed : Followed scope after cursor'
  order : moments.map Prod.fst = streams
  listed : ∀ moment ∈ moments,
    cursor'.taken moment.1 = (moment.2.streamEvents scope moment.1).length
  moments : ∀ moment ∈ moments, Sound dates moment.2 ∧ Reached dates moment.2 after
  others : ∀ streamId, streamId ∉ streams →
    cursor'.lastSeqByStream.get? streamId = cursor.lastSeqByStream.get? streamId

theorem Reading.hasRead {cursor' : LiveTraceCursor} {moments : Moments}
    (reading : Reading dates options store streams cursor moments after cursor')
    (distinct : streams.Nodup) (followed : Followed options.storeScope store cursor)
    (sound : Sound dates store) :
    HasRead dates options.storeScope streams cursor moments after cursor' := by
  induction reading with
  | done reached =>
    refine ⟨followed.grows reached.grows, rfl, ?_, ?_, fun _ _ => rfl⟩
    · exact nofun
    · exact nofun
  | @stream store middle after cursor cursor' streamId rest moments reached later ih =>
    rcases List.nodup_cons.mp distinct with ⟨notLater, distinctRest⟩
    have soundMiddle := sound.reached reached
    have followedMiddle := followed.grows reached.grows
    have hasRead := ih distinctRest (followedMiddle.readStream soundMiddle.orderly streamId)
      soundMiddle
    have takenHere : cursor'.taken streamId =
        (middle.streamEvents options.storeScope streamId).length := by
      rw [LiveTraceCursor.taken_eq_of_get? (hasRead.others streamId notLater)]
      exact readStream_taken_same soundMiddle.orderly followedMiddle streamId
    refine ⟨hasRead.followed, ?_, ?_, ?_, ?_⟩
    · rw [List.map_cons, hasRead.order]
    · intro moment member
      rcases List.mem_cons.mp member with isHere | isLater
      · rw [isHere]
        exact takenHere
      · exact hasRead.listed moment isLater
    · intro moment member
      rcases List.mem_cons.mp member with isHere | isLater
      · rw [isHere]
        exact ⟨soundMiddle, later.reached⟩
      · exact hasRead.moments moment isLater
    · intro other notListed
      rcases not_or.mp (fun isListed => notListed (List.mem_cons.mpr isListed)) with
        ⟨different, notRest⟩
      rw [hasRead.others other notRest]
      exact (readStream_takes soundMiddle.orderly cursor streamId).others other different

variable {moment : StreamId × InMemoryEventStore}

theorem HasRead.held {cursor' : LiveTraceCursor} {moments : Moments}
    (hasRead : HasRead dates scope streams cursor moments after cursor')
    (member : moment ∈ moments) :
    cursor'.events.filter (fun event => decide (event.streamId = moment.1)) =
      moment.2.streamEvents scope moment.1 := by
  rcases (hasRead.moments moment member).2.grows.streams scope moment.1 with ⟨added, isAfter⟩
  rw [hasRead.followed.events, hasRead.listed moment member, isAfter, List.take_left]

/-- What a cursor and its store are between two reads. -/
structure Following (dates : Dates) (options : LiveTraceCursorOptions) (store : InMemoryEventStore)
    (cursor : LiveTraceCursor) : Prop where
  sound : Sound dates store
  followed : Followed options.storeScope store cursor
  listed : ∀ streamId, cursor.taken streamId ≠ 0 →
    streamId ∈ LiveTraceCursor.listedStreams options store

theorem mem_listedStreams :
    streamId ∈ LiveTraceCursor.listedStreams options store ↔
      streamId = options.streamId ∨
        streamId ∈ store.listRunStreamIds options.storeScope options.runId := by
  unfold LiveTraceCursor.listedStreams
  rw [List.mem_insertionSort, List.mem_dedup, List.mem_cons]

theorem listedStreams_nodup : (LiveTraceCursor.listedStreams options store).Nodup :=
  (List.perm_insertionSort _ _).nodup_iff.mpr (List.nodup_dedup _)

theorem listedStreams_retained (reached : Reached dates store after)
    (member : streamId ∈ LiveTraceCursor.listedStreams options store) :
    streamId ∈ LiveTraceCursor.listedStreams options after := by
  rw [mem_listedStreams] at member ⊢
  exact member.imp id reached.retains.listed

theorem following_start : Following dates options .empty .fresh :=
  ⟨⟨InMemoryEventStore.orderly_empty, InMemoryEventStore.dated_empty⟩, followed_fresh,
    fun _ isTaken => absurd rfl isTaken⟩

theorem Following.reached (following : Following dates options store cursor)
    (reached : Reached dates store after) : Following dates options after cursor :=
  ⟨following.sound.reached reached, following.followed.grows reached.grows,
    fun streamId isTaken => listedStreams_retained reached (following.listed streamId isTaken)⟩

theorem Following.hasRead {cursor' : LiveTraceCursor} {moments : Moments}
    (following : Following dates options store cursor)
    (reading : Reading dates options store (LiveTraceCursor.listedStreams options store) cursor
      moments after cursor') :
    HasRead dates options.storeScope (LiveTraceCursor.listedStreams options store) cursor moments
      after cursor' :=
  reading.hasRead listedStreams_nodup following.followed following.sound

theorem Following.untaken {cursor' : LiveTraceCursor} {moments : Moments}
    (following : Following dates options store cursor)
    (hasRead : HasRead dates options.storeScope (LiveTraceCursor.listedStreams options store) cursor
      moments after cursor') (notListed : streamId ∉ LiveTraceCursor.listedStreams options store) :
    cursor'.taken streamId = 0 := by
  rw [LiveTraceCursor.taken_eq_of_get? (hasRead.others streamId notListed)]
  by_contra isTaken
  exact notListed (following.listed streamId isTaken)

theorem LiveRun.following (run : LiveRun dates options store cursor) :
    Following dates options store cursor := by
  induction run with
  | start => exact following_start
  | call _ performed ih => exact ih.reached (.call .refl performed)
  | read _ reading ih =>
    have hasRead := ih.hasRead reading
    refine ⟨ih.sound.reached reading.reached, hasRead.followed, ?_⟩
    intro streamId isTaken
    apply listedStreams_retained reading.reached
    by_contra notListed
    exact isTaken (ih.untaken hasRead notListed)

theorem present_group {moments : Moments} (distinct : (moments.map Prod.fst).Nodup)
    (sound : ∀ moment ∈ moments, Sound dates moment.2) (member : moment ∈ moments) :
    (presentEvents scope moments).filter (fun event => decide (event.streamId = moment.1)) =
      moment.2.streamEvents scope moment.1 := by
  induction moments with
  | nil => exact absurd member List.not_mem_nil
  | cons first rest ih =>
    rw [List.map_cons] at distinct
    rcases List.nodup_cons.mp distinct with ⟨notLater, distinctRest⟩
    unfold presentEvents
    rw [List.flatMap_cons, List.filter_append,
      filter_located (sound first List.mem_cons_self).orderly (fun _ => id)]
    rcases List.mem_cons.mp member with isFirst | isLater
    · rw [isFirst, if_pos rfl]
      have nothing : (rest.flatMap (fun moment => moment.2.streamEvents scope moment.1)).filter
          (fun event => decide (event.streamId = first.1)) = [] := by
        rw [List.filter_eq_nil_iff]
        intro event isEvent isFirst
        rcases List.mem_flatMap.mp isEvent with ⟨other, isOther, isStored⟩
        have located := ((sound other (List.mem_cons_of_mem _ isOther)).orderly.located isStored).2
        rw [located] at isFirst
        exact notLater (of_decide_eq_true isFirst ▸ List.mem_map_of_mem isOther)
      rw [nothing, List.append_nil]
    · have different : moment.1 ≠ first.1 := by
        intro same
        exact notLater (same ▸ List.mem_map_of_mem isLater)
      rw [if_neg different, List.nil_append]
      exact ih distinctRest
        (fun other isOther => sound other (List.mem_cons_of_mem _ isOther)) isLater

theorem present_other {moments : Moments} (sound : ∀ moment ∈ moments, Sound dates moment.2)
    (notRead : streamId ∉ moments.map Prod.fst) :
    (presentEvents scope moments).filter (fun event => decide (event.streamId = streamId)) = [] := by
  rw [List.filter_eq_nil_iff]
  intro event isEvent isStream
  rcases List.mem_flatMap.mp isEvent with ⟨other, isOther, isStored⟩
  rw [((sound other isOther).orderly.located isStored).2] at isStream
  exact notRead (of_decide_eq_true isStream ▸ List.mem_map_of_mem isOther)

section Read

variable {cursor' : LiveTraceCursor} {moments : Moments}

theorem HasRead.distinct
    (hasRead : HasRead dates options.storeScope (LiveTraceCursor.listedStreams options store)
      cursor moments after cursor') : (moments.map Prod.fst).Nodup :=
  hasRead.order ▸ listedStreams_nodup

theorem Following.holds_present (following : Following dates options store cursor)
    (hasRead : HasRead dates options.storeScope (LiveTraceCursor.listedStreams options store)
      cursor moments after cursor') :
    cursor'.events.Perm (presentEvents options.storeScope moments) := by
  apply perm_of_groups CanonicalEvent.streamId
  intro streamId
  by_cases isRead : streamId ∈ moments.map Prod.fst
  · rcases List.mem_map.mp isRead with ⟨moment, member, rfl⟩
    rw [hasRead.held member, present_group hasRead.distinct
      (fun moment member => (hasRead.moments moment member).1) member]
  · have nothing := following.untaken hasRead (hasRead.order ▸ isRead)
    rw [hasRead.followed.events, nothing, List.take_zero,
      present_other (fun moment member => (hasRead.moments moment member).1) isRead]

theorem streamEvents_nodup (orderly : store.Orderly) (streamId : StreamId) :
    (store.streamEvents scope streamId).Nodup := by
  apply List.Nodup.of_map CanonicalEvent.seq
  rw [orderly.numbered]
  exact List.nodup_range

theorem followed_nodup (followed : Followed scope store cursor) (orderly : store.Orderly) :
    cursor.events.Nodup := by
  apply nodup_of_groups CanonicalEvent.streamId
  intro streamId
  rw [followed.events]
  exact (List.take_sublist _ _).nodup (streamEvents_nodup orderly streamId)

def lastCursor (scope : ChannelScope) (moment : StreamId × InMemoryEventStore) :
    Option EventCursor :=
  (moment.2.streamEvents scope moment.1).getLast?.map (fun event => ⟨moment.1, event.seq⟩)

theorem last_seq (scope : ChannelScope) (orderly : store.Orderly) (streamId : StreamId) :
    (store.streamEvents scope streamId).getLast?.map CanonicalEvent.seq =
      (List.range (store.streamEvents scope streamId).length).getLast? := by
  rw [← orderly.numbered, List.getLast?_map]

theorem cursorOf_read
    (hasRead : HasRead dates options.storeScope (LiveTraceCursor.listedStreams options store)
      cursor moments after cursor') (member : moment ∈ moments) :
    cursor'.cursorOf moment.1 = lastCursor options.storeScope moment := by
  have counted := hasRead.listed moment member
  have last := last_seq options.storeScope (hasRead.moments moment member).1.orderly moment.1
  have isLast : lastCursor options.storeScope moment =
      (List.range (moment.2.streamEvents options.storeScope moment.1).length).getLast?.map
        (fun seq => ⟨moment.1, seq⟩) := by
    rw [← last, Option.map_map]
    rfl
  rw [isLast, ← counted]
  unfold LiveTraceCursor.cursorOf LiveTraceCursor.taken
  cases cursor'.lastSeqByStream.get? moment.1 with
  | none => rfl
  | some seq => rw [List.range_succ, List.getLast?_concat]

end Read

end Following

/-! ### The order of events -/

section Orders

variable {dates : Dates} {localeCompare : String → String → Ordering}

/-- Different events are told apart by time, stream, number or id. -/
def Untied (dates : Dates) (localeCompare : String → String → Ordering) (events : List Event) :
    Prop :=
  ∀ left ∈ events, ∀ right ∈ events, eventOrder dates localeCompare left right = .eq → left = right

def datedOrder (dates : Dates) (localeCompare : String → String → Ordering) :
    Event → Event → Ordering :=
  compareLex (fun left right => compare ((dates.parse left.timestamp).getD 0)
      ((dates.parse right.timestamp).getD 0))
    (compareLex (fun left right => localeCompare left.streamId right.streamId)
      (compareLex (fun left right => compare left.seq right.seq)
        (fun left right => localeCompare left.id right.id)))

theorem eventOrder_dated {left right : Event} (isLeft : (dates.parse left.timestamp).isSome = true)
    (isRight : (dates.parse right.timestamp).isSome = true) :
    eventOrder dates localeCompare left right = datedOrder dates localeCompare left right := by
  rcases Option.isSome_iff_exists.mp isLeft with ⟨leftTime, leftParsed⟩
  rcases Option.isSome_iff_exists.mp isRight with ⟨rightTime, rightParsed⟩
  unfold eventOrder compareTimes datedOrder compareLex
  dsimp only
  rw [leftParsed, rightParsed]
  rfl

instance transCmp_datedOrder [Std.TransCmp localeCompare] :
    Std.TransCmp (datedOrder dates localeCompare) := by
  unfold datedOrder
  infer_instance

theorem projectTrace_eq_of_perm [Std.TransCmp localeCompare] (options : ProjectTraceOptions)
    {events events' : List Event} (perm : events.Perm events')
    (dated : ∀ event ∈ events, (dates.parse event.timestamp).isSome = true)
    (untied : Untied dates localeCompare (events.filter (eventBelongsToRun options))) :
    projectTrace dates localeCompare events options =
      projectTrace dates localeCompare events' options := by
  have filtered := perm.filter (eventBelongsToRun options)
  have agree : ∀ left ∈ events.filter (eventBelongsToRun options),
      ∀ right ∈ events.filter (eventBelongsToRun options),
        eventOrder dates localeCompare left right = datedOrder dates localeCompare left right :=
    fun left isLeft right isRight => eventOrder_dated (dated left (List.mem_of_mem_filter isLeft))
      (dated right (List.mem_of_mem_filter isRight))
  have same : sortedEvents dates localeCompare (events.filter (eventBelongsToRun options)) =
      sortedEvents dates localeCompare (events'.filter (eventBelongsToRun options)) := by
    unfold sortedEvents
    rw [sortPlaced_congr agree, sortPlaced_congr (fun left isLeft right isRight =>
      agree left (filtered.mem_iff.mpr isLeft) right (filtered.mem_iff.mpr isRight))]
    apply sortPlaced_eq_of_perm _ filtered
    intro left isLeft right isRight tied
    rw [← agree left isLeft right isRight] at tied
    exact untied left isLeft right isRight tied
  unfold projectTrace
  rw [same]

end Orders

variable {options : LiveTraceCursorOptions} {cursor : LiveTraceCursor}

theorem untied_of_lawful [Std.LawfulEqCmp localeCompare] {streams : List StreamId}
    {cursor' : LiveTraceCursor} {moments : Moments} {after : InMemoryEventStore}
    (sound : Sound dates after)
    (hasRead : HasRead dates options.storeScope streams cursor moments after cursor') :
    Untied dates localeCompare (presentEvents options.storeScope moments) := by
  have known : ∀ event ∈ presentEvents options.storeScope moments,
      after.eventsById.get? (scopedKey options.storeScope "event" event.id) = some event := by
    intro event member
    rcases List.mem_flatMap.mp member with ⟨moment, isMoment, isStored⟩
    rcases (hasRead.moments moment isMoment).2.grows.streams options.storeScope moment.1 with
      ⟨added, isAfter⟩
    exact sound.orderly.known (isAfter ▸ List.mem_append_left _ isStored)
  intro left isLeft right isRight tied
  unfold eventOrder at tied
  rw [Ordering.then_eq_eq, Ordering.then_eq_eq, Ordering.then_eq_eq] at tied
  have sameId : left.id = right.id := Std.LawfulEqCmp.eq_of_compare tied.2.2.2
  have found := known left isLeft
  rw [sameId, known right isRight] at found
  exact (Option.some.inj found).symm

/-- The document is the projection of what was in the listed streams, in any order; each of
these events is held once, and the cursors are at the last of every stream. -/
structure AgreesWithBatch (dates : Dates) (localeCompare : String → String → Ordering)
    (options : LiveTraceCursorOptions) (moments : Moments) (cursor : LiveTraceCursor) : Prop where
  document : ∀ events, events.Perm (presentEvents options.storeScope moments) →
    (cursor.snapshot options dates localeCompare).document =
      projectTrace dates localeCompare events options.toProjectTraceOptions
  taken : cursor.events.Perm (presentEvents options.storeScope moments)
  once : cursor.events.Nodup
  position : ∀ moment ∈ moments, moment.1 = options.streamId →
    (cursor.snapshot options dates localeCompare).cursor = lastCursor options.storeScope moment
  cursors : ∀ last, last ∈ (cursor.snapshot options dates localeCompare).cursors ↔
    ∃ moment ∈ moments, lastCursor options.storeScope moment = some last

theorem mem_cursors {dates : Dates} {localeCompare : String → String → Ordering}
    {last : EventCursor} :
    last ∈ (cursor.snapshot options dates localeCompare).cursors ↔
      cursor.cursorOf last.streamId = some last := by
  unfold LiveTraceCursor.snapshot LiveTraceCursor.cursorOf
  dsimp only
  rw [List.mem_map]
  constructor
  · rintro ⟨entry, member, rfl⟩
    have found := OrderedMap.get?_eq_some_iff.mpr ((List.mem_insertionSort _).mp member)
    rw [found]
    rfl
  · intro found
    rcases Option.map_eq_some_iff.mp found with ⟨seq, isSeq, isLast⟩
    refine ⟨(last.streamId, seq), ?_, isLast⟩
    exact (List.mem_insertionSort _).mpr (OrderedMap.get?_eq_some_iff.mp isSeq)

/-- Without ties among the events of the run, every read agrees with the batch. -/
theorem live_read_agrees {dates : Dates} {localeCompare : String → String → Ordering}
    [Std.TransCmp localeCompare] {options : LiveTraceCursorOptions}
    {store after : InMemoryEventStore} {cursor cursor' : LiveTraceCursor} {moments : Moments}
    (run : LiveRun dates options store cursor)
    (reading : Reading dates options store (LiveTraceCursor.listedStreams options store) cursor
      moments after cursor')
    (untied : Untied dates localeCompare ((presentEvents options.storeScope moments).filter
      (eventBelongsToRun options.toProjectTraceOptions))) :
    AgreesWithBatch dates localeCompare options moments cursor' := by
  have following := run.following
  have hasRead := following.hasRead reading
  have held := following.holds_present hasRead
  have dated : ∀ event ∈ presentEvents options.storeScope moments,
      (dates.parse event.timestamp).isSome = true := by
    intro event member
    rcases List.mem_flatMap.mp member with ⟨moment, isMoment, isStored⟩
    exact (hasRead.moments moment isMoment).1.dated _ _ event isStored
  have projected : ∀ events, events.Perm (presentEvents options.storeScope moments) →
      projectTrace dates localeCompare events options.toProjectTraceOptions =
        projectTrace dates localeCompare (presentEvents options.storeScope moments)
          options.toProjectTraceOptions :=
    fun events perm => (projectTrace_eq_of_perm _ perm.symm dated untied).symm
  refine ⟨?_, held, ?_, ?_, ?_⟩
  · intro events perm
    exact (projected cursor'.events held).trans (projected events perm).symm
  · exact followed_nodup hasRead.followed (following.sound.reached reading.reached).orderly
  · intro moment member isStream
    change cursor'.cursorOf options.streamId = _
    rw [← isStream]
    exact cursorOf_read hasRead member
  · intro last
    rw [mem_cursors]
    constructor
    · intro found
      have isRead : last.streamId ∈ moments.map Prod.fst := by
        rw [hasRead.order]
        by_contra notListed
        have untaken := following.untaken hasRead notListed
        unfold LiveTraceCursor.taken at untaken
        unfold LiveTraceCursor.cursorOf at found
        cases isLast : cursor'.lastSeqByStream.get? last.streamId with
        | none =>
          rw [isLast] at found
          cases found
        | some seq =>
          rw [isLast] at untaken
          cases untaken
      rcases List.mem_map.mp isRead with ⟨moment, member, isStream⟩
      refine ⟨moment, member, ?_⟩
      rw [← cursorOf_read hasRead member, isStream]
      exact found
    · rintro ⟨moment, member, isLast⟩
      have isStream : last.streamId = moment.1 := by
        rcases Option.map_eq_some_iff.mp isLast with ⟨event, _, rfl⟩
        rfl
      rw [isStream, cursorOf_read hasRead member]
      exact isLast

theorem reading_alone (dates : Dates) (options : LiveTraceCursorOptions)
    (store : InMemoryEventStore) (streams : List StreamId) (cursor : LiveTraceCursor) :
    Reading dates options store streams cursor (streams.map (fun streamId => (streamId, store)))
      store (streams.foldl (fun cursor streamId => cursor.readStream options store streamId)
        cursor) := by
  induction streams generalizing cursor with
  | nil => exact .done .refl
  | cons streamId rest ih => exact .stream .refl (ih _)

def onlyNoon : Dates where
  parse timestamp := if timestamp = "2026-01-01T12:00:00.000Z" then some 1767268800000 else none
  toISOString _ := none

def traceScope : ChannelScope :=
  { workspaceId := "w"
    channelId := "c" }

def traceOptions : LiveTraceCursorOptions :=
  { runId := "run-1"
    surface := "channel"
    scope := traceScope
    storeScope := traceScope
    streamId := "run-1" }

/-- A request of a tool, as `appendToolLifecycleEvent` writes it. -/
def requestedCall (toolCallId tool : String) : Event :=
  { id := "tool-lifecycle:[\"w\",\"c\",\"run-1\",\"" ++ toolCallId ++ "\",0]"
    workspaceId := "w"
    channelId := "c"
    streamId := "tool:run-1:" ++ toolCallId
    seq := 0
    type := "tool.requested"
    timestamp := "2026-01-01T12:00:00.000Z"
    schemaVersion := 1
    payload := .obj [("runId", .str "run-1"), ("tool", .str tool), ("toolCallId", .str toolCallId)] }

def storeWith (first second : String) : InMemoryEventStore :=
  (InMemoryEventStore.empty.pushEvent traceScope (requestedCall first "list")).pushEvent traceScope
    (requestedCall second "read")

theorem append_pushes {store : InMemoryEventStore} {event : Event}
    (isOk : (store.append onlyNoon traceScope event).isOk = true)
    (unused : (store.eventsById.get? (scopedKey traceScope "event" event.id)).isNone = true) :
    store.perform onlyNoon traceScope (.append event) =
      .ok ((), store.pushEvent traceScope event) := by
  change store.append onlyNoon traceScope event = _
  cases result : store.append onlyNoon traceScope event with
  | error error =>
    rw [result] at isOk
    cases isOk
  | ok answered =>
    rcases answered with ⟨answer, after⟩
    rcases InMemoryEventStore.append_ok result with ⟨_, existing, isExisting, _⟩ | pushed
    · rw [isExisting] at unused
      cases unused
    · rw [pushed.isPush]

theorem live_run_with (first second : String)
    (firstOk : (InMemoryEventStore.empty.append onlyNoon traceScope
      (requestedCall first "list")).isOk = true)
    (secondOk : ((InMemoryEventStore.empty.pushEvent traceScope
      (requestedCall first "list")).append onlyNoon traceScope
        (requestedCall second "read")).isOk = true)
    (unused : ((InMemoryEventStore.empty.pushEvent traceScope
      (requestedCall first "list")).eventsById.get? (scopedKey traceScope "event"
        (requestedCall second "read").id)).isNone = true) :
    LiveRun onlyNoon traceOptions (storeWith first second) .fresh :=
  .call (.call .start (append_pushes firstOk rfl)) (append_pushes secondOk unused)

/-- The cursor after a read of the two calls. -/
def cursorAfter (first second : String) : LiveTraceCursor :=
  (LiveTraceCursor.listedStreams traceOptions (storeWith first second)).foldl
    (fun cursor streamId => cursor.readStream traceOptions (storeWith first second) streamId)
    .fresh

def momentsOf (first second : String) : Moments :=
  (LiveTraceCursor.listedStreams traceOptions (storeWith first second)).map
    (fun streamId => (streamId, storeWith first second))

/-- Two calls with different names agree with the batch. -/
theorem distinct_calls_agree :
    AgreesWithBatch onlyNoon compare traceOptions (momentsOf "call-1" "call-2")
      (cursorAfter "call-1" "call-2") := by
  have run : LiveRun onlyNoon traceOptions (storeWith "call-1" "call-2") .fresh :=
    live_run_with _ _ (by decide +kernel) (by decide +kernel) (by decide +kernel)
  have reading := reading_alone onlyNoon traceOptions (storeWith "call-1" "call-2")
    (LiveTraceCursor.listedStreams traceOptions (storeWith "call-1" "call-2")) .fresh
  refine live_read_agrees run reading ?_
  intro left isLeft right isRight
  exact untied_of_lawful run.following.sound (run.following.hasRead reading)
    left (List.mem_of_mem_filter isLeft) right (List.mem_of_mem_filter isRight)

/-- The canonical decomposition of the one letter that needs it here. -/
def decompose (text : String) : String :=
  String.ofList (text.toList.flatMap (fun c => if c = '\u00e9' then ['e', '\u0301'] else [c]))

/-- `localeCompare` takes canonically equivalent strings for equal. -/
def compareDecomposed (left right : String) : Ordering :=
  compare (decompose left) (decompose right)

theorem transCmp_compareDecomposed : Std.TransCmp compareDecomposed :=
  transCmp_comap compare decompose

/-- Two calls whose names are canonically equivalent are requested in one millisecond: their
order in the document is the order in which the events are given. -/
theorem equivalent_calls_follow_arrival :
    ¬ ∀ (dates : Dates) (localeCompare : String → String → Ordering)
      (options : LiveTraceCursorOptions) (store after : InMemoryEventStore)
      (cursor cursor' : LiveTraceCursor) (moments : Moments), Std.TransCmp localeCompare →
      LiveRun dates options store cursor →
      Reading dates options store (LiveTraceCursor.listedStreams options store) cursor moments
        after cursor' →
      AgreesWithBatch dates localeCompare options moments cursor' := by
  intro claimed
  have agrees := claimed onlyNoon compareDecomposed traceOptions _ _ _ _ _
    transCmp_compareDecomposed
    (live_run_with "caf\u00e9" "cafe\u0301" (by decide +kernel) (by decide +kernel)
      (by decide +kernel))
    (reading_alone _ _ _ _ _)
  have document := agrees.document _ (List.reverse_perm _)
  have names := congrArg (fun document => document.spans.map TraceSpan.name) document
  revert names
  decide +kernel

end AnnaAgent.Trace
