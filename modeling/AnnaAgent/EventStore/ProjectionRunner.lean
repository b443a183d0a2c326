/-
Projections of one stream (`projectNext` in `event-store/src/projection-runner.ts`).

A call loads the snapshot, reads the events of the stream one by one and commits what
the reducer makes of the first one behind the snapshot.  Other calls, and writers of
anything but this projection, take turns between its requests; a call whose reducer
rejects or whose process ends takes no further turn.
-/

import AnnaAgent.EventStore.Agreement
import AnnaAgent.EventStore.Streams

namespace AnnaAgent.EventStore

open Foundation

/-- The arguments of `projectNext`; the initial state is a JSON value. -/
structure Projector where
  scope : ChannelScope
  projector : String
  streamId : StreamId
  initialState : Json
  reduce : Json → Event → Json

/-- What a call waits for: the snapshot, the event at an index of the stream, or the
reducer and the store. -/
inductive ProjectionCall where
  | loading
  | reading (snapshot : ProjectionSnapshot) (index : Nat)
  | committing (snapshot : ProjectionSnapshot) (index : Nat) (event : Event)
  | ended (outcome : Except Thrown (Option ProjectionCommitResult))

structure Projecting where
  store : InMemoryEventStore
  calls : List ProjectionCall
  /-- The snapshots that were committed, in order. -/
  applied : List ProjectionSnapshot

inductive ProjectionAction where
  | called
  | advanced (index : Nat)
  | other (scope : ChannelScope) (call : EventCall)

namespace Projector

variable (dates : Dates) (projection : Projector) (store : InMemoryEventStore)

def events : List Event := store.streamEvents projection.scope projection.streamId

def load : Option ProjectionSnapshot :=
  store.loadProjection projection.scope projection.projector projection.streamId

def receipt (eventId : EventId) : String :=
  InMemoryEventStore.receiptKey projection.scope projection.projector projection.streamId eventId

def commitOf (snapshot : ProjectionSnapshot) (event : Event) : ProjectionCommit :=
  { projector := projection.projector
    streamId := projection.streamId
    eventId := event.id
    eventSeq := event.seq
    expectedVersion := snapshot.version
    state := .ok (projection.reduce snapshot.state event) }

/-- A call up to its next request, with the snapshot that it has committed.  The stream
is iterated while others append to it. -/
def advance : ProjectionCall → ProjectionCall × InMemoryEventStore × Option ProjectionSnapshot
  | .loading =>
    (.reading ((projection.load store).getD ⟨projection.initialState, 0, -1⟩) 0, store, none)
  | .reading snapshot index =>
    match (projection.events store)[index]? with
    | none => (.ended (.ok none), store, none)
    | some event =>
      if snapshot.lastSeq < event.seq then (.committing snapshot index event, store, none)
      else (.reading snapshot (index + 1), store, none)
  | .committing snapshot index event =>
    match store.commitProjection projection.scope (projection.commitOf snapshot event) with
    | .error error => (.ended (.error error), store, none)
    | .ok (committed, store') =>
      if committed.applied = true then
        (.ended (.ok (some committed)), store', some committed.toProjectionSnapshot)
      else (.reading snapshot (index + 1), store', none)
  | .ended outcome => (.ended outcome, store, none)

def isCommitOf (scope : ChannelScope) : EventCall → Bool
  | .commitProjection commit => decide ((scope, commit.projector, commit.streamId) =
      (projection.scope, projection.projector, projection.streamId))
  | _ => false

def act (projecting : Projecting) : ProjectionAction → Projecting
  | .called => { projecting with calls := projecting.calls ++ [.loading] }
  | .advanced index =>
    match projecting.calls[index]? with
    | none => projecting
    | some call =>
      let next := projection.advance projecting.store call
      { store := next.2.1
        calls := projecting.calls.set index next.1
        applied := projecting.applied ++ next.2.2.toList }
  | .other scope call =>
    if projection.isCommitOf scope call = true then projecting
    else
      { projecting with
        store := (atomically (fun store => store.perform dates scope call) projecting.store).2 }

/-- The fold of the first events. -/
def snapshotAt (events : List Event) (version : Nat) : ProjectionSnapshot :=
  { state := (events.take version).foldl projection.reduce projection.initialState
    version := version
    lastSeq := (version : Int) - 1 }

/-- The stored snapshot is the fold of the first events, which are those with a receipt. -/
structure Exact (version : Nat) : Prop where
  orderly : store.Orderly
  within : version ≤ (projection.events store).length
  stored : projection.load store =
    if version = 0 then none else some (projection.snapshotAt (projection.events store) version)
  receipts : ∀ eventId, projection.receipt eventId ∈ store.projectionReceipts ↔
    eventId ∈ ((projection.events store).take version).map CanonicalEvent.id

/-- A call works on an earlier snapshot, and what it has passed is applied. -/
def Fits (events : List Event) (version : Nat) : ProjectionCall → Prop
  | .reading snapshot index => ∃ known ≤ version,
      snapshot = projection.snapshotAt events known ∧ index ≤ version
  | .committing snapshot index event => ∃ known ≤ version,
      snapshot = projection.snapshotAt events known ∧ events[index]? = some event ∧
        known ≤ index ∧ index ≤ version
  | _ => True

structure Folding (projecting : Projecting) (version : Nat) : Prop where
  exact : projection.Exact projecting.store version
  fits : ∀ call ∈ projecting.calls,
    projection.Fits (projection.events projecting.store) version call
  applied : projecting.applied = (List.range version).map
    (fun earlier => projection.snapshotAt (projection.events projecting.store) (earlier + 1))

end Projector

variable {dates : Dates} {scope : ChannelScope} {store store' : InMemoryEventStore}

/-- The store once a commit is recorded with a snapshot. -/
def InMemoryEventStore.recorded (store : InMemoryEventStore) (scope : ChannelScope)
    (commit : ProjectionCommit) (snapshot : ProjectionSnapshot) : InMemoryEventStore :=
  { store with
    projections :=
      store.projections.set (projectionKey scope commit.projector commit.streamId) snapshot
    projectionReceipts := store.projectionReceipts ++
      [receiptKey scope commit.projector commit.streamId commit.eventId] }

/-- Only a commit that is recorded changes the projections. -/
theorem InMemoryEventStore.perform_projections {call : EventCall} {answer : call.Answer}
    (performed : store.perform dates scope call = .ok (answer, store')) :
    (store'.projections = store.projections ∧
      store'.projectionReceipts = store.projectionReceipts) ∨
    ∃ commit snapshot, call = .commitProjection commit ∧
      store' = store.recorded scope commit snapshot := by
  cases call with
  | append | appendIdempotent | claimStart | claimChannelSession =>
    obtain ⟨candidate, _, performed⟩ := bind_ok performed
    obtain ⟨_, _, performed⟩ := bind_ok performed
    dsimp only at performed
    repeat' split at performed
    all_goals cases performed
    all_goals exact Or.inl ⟨rfl, rfl⟩
  | commitProjection commit =>
    change store.commitProjection scope commit = _ at performed
    unfold commitProjection at performed
    split at performed
    · cases performed
    · dsimp only at performed
      repeat' split at performed
      any_goals cases performed
      · exact Or.inl ⟨rfl, rfl⟩
      · obtain ⟨state, isState, performed⟩ := bind_ok performed
        cases performed
        exact Or.inr ⟨commit, _, rfl, rfl⟩
  | _ =>
    cases performed
    exact Or.inl ⟨rfl, rfl⟩

namespace Projector

variable {projection : Projector} {version later : Nat} {events added : List Event}

theorem snapshotAt_append (within : version ≤ events.length) :
    projection.snapshotAt (events ++ added) version = projection.snapshotAt events version := by
  unfold snapshotAt
  rw [List.take_append_of_le_length within]

theorem Fits.mono {call : ProjectionCall} (fits : projection.Fits events version call)
    (within : version ≤ events.length) (isLater : version ≤ later) :
    projection.Fits (events ++ added) later call := by
  cases call with
  | reading snapshot index =>
    rcases fits with ⟨known, atMost, isSnapshot, passed⟩
    rw [← snapshotAt_append (atMost.trans within)] at isSnapshot
    exact ⟨known, atMost.trans isLater, isSnapshot, passed.trans isLater⟩
  | committing snapshot index event =>
    rcases fits with ⟨known, atMost, isSnapshot, isEvent, isBehind, passed⟩
    rw [← snapshotAt_append (atMost.trans within)] at isSnapshot
    rw [← List.getElem?_append_left (List.getElem?_eq_some_iff.mp isEvent).1] at isEvent
    exact ⟨known, atMost.trans isLater, isSnapshot, isEvent, isBehind, passed.trans isLater⟩
  | loading | ended => trivial

theorem seq_at (orderly : store.Orderly) {index : Nat} {event : Event}
    (isEvent : (projection.events store)[index]? = some event) : event.seq = index := by
  have number : ((projection.events store).map CanonicalEvent.seq)[index]? =
      (List.range (projection.events store).length)[index]? :=
    congrArg (fun numbers => numbers[index]?) (orderly.numbered _ _)
  rw [List.getElem?_map, isEvent, List.getElem?_range (List.getElem?_eq_some_iff.mp isEvent).1]
    at number
  exact Option.some.inj number

/-- Events of one stream are told apart by their ids. -/
theorem index_of_id (orderly : store.Orderly) {index : Nat} {event : Event}
    (isEvent : (projection.events store)[index]? = some event)
    (early : event.id ∈ ((projection.events store).take version).map CanonicalEvent.id) :
    index < version := by
  rcases List.mem_map.mp early with ⟨other, member, sameId⟩
  rcases List.mem_iff_getElem?.mp member with ⟨place, isOther⟩
  have before : place < version := by
    have within := (List.getElem?_eq_some_iff.mp isOther).1
    rw [List.length_take] at within
    omega
  rw [List.getElem?_take_of_lt before] at isOther
  have found := orderly.known (List.mem_of_getElem? isEvent)
  rw [← sameId, orderly.known (List.mem_of_getElem? isOther)] at found
  cases found
  rw [← seq_at orderly isEvent, seq_at orderly isOther]
  exact before

theorem snapshotAt_next (orderly : store.Orderly) {event : Event}
    (isEvent : (projection.events store)[version]? = some event) :
    projection.snapshotAt (projection.events store) (version + 1) =
      ⟨projection.reduce (projection.snapshotAt (projection.events store) version).state event,
        (version : Int) + 1, event.seq⟩ := by
  unfold snapshotAt
  rw [List.take_add_one, isEvent, seq_at orderly isEvent]
  simp

/-- Nothing happens to the projection while its stream grows. -/
theorem Exact.grow (exact : projection.Exact store version) (orderly : store'.Orderly)
    (grows : projection.events store' = projection.events store ++ added)
    (sameLoad : projection.load store' = projection.load store)
    (sameReceipts : ∀ eventId, projection.receipt eventId ∈ store'.projectionReceipts ↔
      projection.receipt eventId ∈ store.projectionReceipts) :
    projection.Exact store' version where
  orderly := orderly
  within := by
    rw [grows, List.length_append]
    exact exact.within.trans (Nat.le_add_right _ _)
  stored := by
    rw [sameLoad, exact.stored, grows, snapshotAt_append exact.within]
  receipts := by
    intro eventId
    rw [sameReceipts, grows, List.take_append_of_le_length exact.within]
    exact exact.receipts eventId

theorem load_version (exact : projection.Exact store version) :
    (projection.load store).elim 0 ProjectionSnapshot.version = version := by
  rw [exact.stored]
  split
  · next isZero => rw [isZero]; rfl
  · rfl

/-- A commit is passed over when the event is folded already, applied when the call is up
to date, and else refused for the version. -/
theorem Exact.commit (exact : projection.Exact store version) {snapshot : ProjectionSnapshot}
    {index : Nat} {event : Event}
    (fits : projection.Fits (projection.events store) version (.committing snapshot index event)) :
    let next := projection.snapshotAt (projection.events store) (version + 1)
    projection.advance store (.committing snapshot index event) =
      if index < version then (.reading snapshot (index + 1), store, none)
      else if snapshot.version = version then (.ended (.ok (some ⟨next, true⟩)),
        store.recorded projection.scope (projection.commitOf snapshot event) next, some next)
      else (.ended (.error .projectionVersionConflictError), store, none) := by
  rcases fits with ⟨known, atMost, rfl, isEvent, isBehind, passed⟩
  have member := List.mem_of_getElem? isEvent
  have received : projection.receipt event.id ∈ store.projectionReceipts ↔ index < version :=
    (exact.receipts _).trans ⟨index_of_id exact.orderly isEvent, fun early => List.mem_map_of_mem
      (List.mem_of_getElem? ((List.getElem?_take_of_lt early).trans isEvent))⟩
  have stored := exact.stored
  have current := load_version exact
  unfold load InMemoryEventStore.loadProjection at stored current
  unfold receipt at received
  unfold Projector.advance InMemoryEventStore.commitProjection commitOf
  dsimp only
  rw [exact.orderly.known member]
  dsimp only
  rw [if_neg (by rw [(exact.orderly.located member).2]; simp), current]
  simp only [received]
  by_cases behind : index < version
  · rw [if_pos behind, if_pos behind, stored, if_neg (Nat.ne_zero_of_lt behind)]
    rfl
  · rw [if_neg behind, if_neg behind]
    by_cases isKnown : known = version
    · subst isKnown
      have isNext : index = known := by omega
      subst isNext
      have isNow : (projection.snapshotAt (projection.events store) index).version = index := rfl
      rw [isNow, if_neg (not_not.mpr rfl), if_pos rfl, snapshotAt_next exact.orderly isEvent]
      rfl
    · have moved : (projection.snapshotAt (projection.events store) known).version ≠ version :=
        fun same => isKnown (Int.ofNat.inj same)
      rw [if_pos moved.symm, if_neg moved]

/-- The next event is folded once its commit is recorded. -/
theorem Exact.recorded (exact : projection.Exact store version) {snapshot : ProjectionSnapshot}
    {event : Event} (isEvent : (projection.events store)[version]? = some event) :
    projection.Exact (store.recorded projection.scope (projection.commitOf snapshot event)
      (projection.snapshotAt (projection.events store) (version + 1))) (version + 1) where
  orderly := @InMemoryEventStore.Quiet.orderly store _
    ⟨rfl, rfl, fun found => found, Or.inl⟩ exact.orderly
  within := (List.getElem?_eq_some_iff.mp isEvent).1
  stored := by
    unfold load InMemoryEventStore.loadProjection InMemoryEventStore.recorded
    rw [OrderedMap.get?_set, if_neg (Nat.succ_ne_zero _)]
    exact if_pos rfl
  receipts := by
    intro eventId
    change _ ∈ store.projectionReceipts ++ _ ↔
      _ ∈ ((projection.events store).take (version + 1)).map _
    rw [List.mem_append, exact.receipts, List.take_add_one, isEvent, List.map_append,
      List.mem_append]
    refine or_congr_right ((List.mem_singleton.trans receiptKey_inj).trans ?_)
    simp [commitOf]

/-- A request of a call keeps the projection, or folds the next event into it. -/
theorem Exact.advance (exact : projection.Exact store version) {call : ProjectionCall}
    (fits : projection.Fits (projection.events store) version call) :
    let next := projection.advance store call
    let folds := fun earlier => projection.snapshotAt (projection.events store) (earlier + 1)
    projection.events next.2.1 = projection.events store ∧ ∃ later ≥ version,
      projection.Exact next.2.1 later ∧ projection.Fits (projection.events store) later next.1 ∧
      (List.range version).map folds ++ next.2.2.toList = (List.range later).map folds := by
  have stays := fun {call} (fits : projection.Fits (projection.events store) version call) =>
    And.intro (Nat.le_refl version) (And.intro exact (And.intro fits (List.append_nil
      ((List.range version).map fun earlier =>
        projection.snapshotAt (projection.events store) (earlier + 1)))))
  cases call with
  | loading =>
    refine ⟨rfl, version, stays ⟨version, Nat.le_refl _, ?_, Nat.zero_le _⟩⟩
    rw [exact.stored]
    split
    · next isZero => rw [isZero]; rfl
    · rfl
  | reading snapshot index =>
    unfold Projector.advance
    dsimp only
    split
    · exact ⟨rfl, version, stays trivial⟩
    · rename_i event isEvent
      rcases fits with ⟨known, atMost, rfl, passed⟩
      have isNumber := seq_at exact.orderly isEvent
      have isLast : (projection.snapshotAt (projection.events store) known).lastSeq =
          (known : Int) - 1 := rfl
      split
      · exact ⟨rfl, version, stays ⟨known, atMost, rfl, isEvent, by omega, passed⟩⟩
      · exact ⟨rfl, version, stays ⟨known, atMost, rfl, by omega⟩⟩
  | committing snapshot index event =>
    rw [exact.commit fits]
    rcases fits with ⟨known, atMost, isSnapshot, isEvent, isBehind, passed⟩
    by_cases behind : index < version
    · rw [if_pos behind]
      exact ⟨rfl, version, stays ⟨known, atMost, isSnapshot, behind⟩⟩
    · rw [if_neg behind]
      have isNext : index = version := by omega
      subst isNext
      by_cases current : snapshot.version = index
      · rw [if_pos current]
        refine ⟨rfl, index + 1, Nat.le_succ _, exact.recorded isEvent, trivial, ?_⟩
        rw [List.range_succ, List.map_append]
        rfl
      · rw [if_neg current]
        exact ⟨rfl, index, stays trivial⟩
  | ended outcome => exact ⟨rfl, version, stays trivial⟩

/-- What others do leaves the projection as it is. -/
theorem Exact.other {call : EventCall} {answer : call.Answer}
    (exact : projection.Exact store version)
    (performed : store.perform dates scope call = .ok (answer, store'))
    (foreign : projection.isCommitOf scope call = false) : projection.Exact store' version := by
  rcases (InMemoryEventStore.perform_grows performed).streams projection.scope
    projection.streamId with ⟨added, grows⟩
  have orderly := InMemoryEventStore.perform_orderly exact.orderly performed
  rcases InMemoryEventStore.perform_projections performed with
    ⟨sameProjections, sameReceipts⟩ | ⟨commit, snapshot, rfl, rfl⟩
  · refine exact.grow orderly grows ?_ (fun eventId => by rw [sameReceipts])
    unfold load InMemoryEventStore.loadProjection
    rw [sameProjections]
  · have others := of_decide_eq_false foreign
    refine exact.grow orderly grows ?_ ?_
    · unfold load InMemoryEventStore.loadProjection InMemoryEventStore.recorded
      rw [OrderedMap.get?_set]
      exact if_neg (fun same => others (projectionKey_inj.mp same).symm)
    · intro eventId
      refine List.mem_append.trans (or_iff_left (fun isNew => ?_))
      have same := receiptKey_inj.mp (List.mem_singleton.mp isNew)
      simp only [Prod.mk.injEq] at same others
      exact others ⟨same.1.symm, same.2.1.symm, same.2.2.1.symm⟩

theorem Folding.act {projecting : Projecting} (folding : projection.Folding projecting version)
    (action : ProjectionAction) :
    ∃ later, projection.Folding (projection.act dates projecting action) later := by
  cases action with
  | called =>
    refine ⟨version, folding.exact, ?_, folding.applied⟩
    intro call member
    rcases List.mem_append.mp member with isOld | isNew
    · exact folding.fits call isOld
    · rw [List.mem_singleton.mp isNew]
      trivial
  | advanced index =>
    unfold Projector.act
    dsimp only
    split
    · exact ⟨version, folding⟩
    · rename_i call isCall
      have fits := folding.fits call (List.mem_of_getElem? isCall)
      rcases folding.exact.advance fits with
        ⟨sameEvents, later, isLater, exact, isNext, isApplied⟩
      refine ⟨later, exact, ?_, ?_⟩
      · intro other member
        rw [sameEvents]
        rcases List.mem_or_eq_of_mem_set member with isOld | rfl
        · have kept : projection.Fits (projection.events projecting.store ++ []) later other :=
            (folding.fits other isOld).mono folding.exact.within isLater
          rw [List.append_nil] at kept
          exact kept
        · exact isNext
      · rw [folding.applied, sameEvents]
        exact isApplied
  | other scope call =>
    unfold Projector.act
    dsimp only
    split
    · exact ⟨version, folding⟩
    · rename_i foreign
      unfold atomically
      dsimp only
      split
      · rename_i answer store' performed
        rcases (InMemoryEventStore.perform_grows performed).streams projection.scope
          projection.streamId with ⟨added, grows⟩
        have within := folding.exact.within
        refine ⟨version, folding.exact.other performed (Bool.not_eq_true _ ▸ foreign), ?_, ?_⟩
        · intro other member
          change projection.Fits (projection.events store') version other
          rw [show projection.events store' = _ from grows]
          exact (folding.fits other member).mono within (Nat.le_refl _)
        · change projecting.applied = _
          rw [folding.applied, show projection.events store' =
            projection.events projecting.store ++ added from grows]
          refine List.map_congr_left (fun earlier member => ?_)
          have before := (List.mem_range.mp member).trans_le within
          exact (snapshotAt_append before).symm
      · exact ⟨version, folding⟩

theorem folding_after (dates : Dates) (projection : Projector) (actions : List ProjectionAction) :
    let last := actions.foldl (projection.act dates) ⟨.empty, [], []⟩
    projection.Folding last last.applied.length := by
  have start : projection.Folding ⟨.empty, [], []⟩ 0 := by
    refine ⟨⟨InMemoryEventStore.orderly_empty, Nat.zero_le _, rfl, ?_⟩, nofun, rfl⟩
    exact fun eventId => ⟨nofun, nofun⟩
  have run : ∀ (actions : List ProjectionAction) (projecting : Projecting) (version : Nat),
      projection.Folding projecting version →
      ∃ later, projection.Folding (actions.foldl (projection.act dates) projecting) later := by
    intro actions
    induction actions with
    | nil => exact fun projecting version folding => ⟨version, folding⟩
    | cons action rest ih =>
      intro projecting version folding
      rcases folding.act action with ⟨later, next⟩
      exact ih _ later next
  rcases run actions _ 0 start with ⟨version, folding⟩
  have counted := congrArg List.length folding.applied
  rw [List.length_map, List.length_range] at counted
  rw [← counted] at folding
  exact folding

/-- Whatever calls and writers do and in which order, the committed snapshots are the
folds of the first events, one event more each time, and the last one is stored. -/
theorem projections_are_folds (dates : Dates) (projection : Projector)
    (actions : List ProjectionAction) :
    let last := actions.foldl (projection.act dates) ⟨.empty, [], []⟩
    last.applied.length ≤ (projection.events last.store).length ∧
    last.applied = (List.range last.applied.length).map
      (fun earlier => projection.snapshotAt (projection.events last.store) (earlier + 1)) ∧
    projection.load last.store = last.applied.getLast? := by
  have folding := folding_after dates projection actions
  refine ⟨folding.exact.within, folding.applied, ?_⟩
  rw [folding.exact.stored]
  generalize (actions.foldl (projection.act dates) ⟨.empty, [], []⟩) = last at folding ⊢
  rw [folding.applied, List.length_map, List.length_range]
  cases last.applied.length with
  | zero => rfl
  | succ version =>
    rw [if_neg (Nat.succ_ne_zero _), List.range_succ, List.map_append, List.getLast?_append]
    rfl

/-- A call returns undefined only when every event is folded.  Its commit is passed over
when the event is folded already, applied when the call is up to date, and else refused
for the version. -/
theorem calls_end_in_order (dates : Dates) (projection : Projector)
    (actions : List ProjectionAction) :
    let last := actions.foldl (projection.act dates) ⟨.empty, [], []⟩
    let folded := last.applied.length
    (∀ snapshot index, .reading snapshot index ∈ last.calls →
      (projection.advance last.store (.reading snapshot index)).1 = .ended (.ok none) →
      folded = (projection.events last.store).length) ∧
    ∀ snapshot index event, .committing snapshot index event ∈ last.calls →
      (projection.advance last.store (.committing snapshot index event)).1 =
        if index < folded then .reading snapshot (index + 1)
        else if snapshot.version = folded then
          .ended (.ok (some
            ⟨projection.snapshotAt (projection.events last.store) (folded + 1), true⟩))
        else .ended (.error .projectionVersionConflictError) := by
  have folding := folding_after dates projection actions
  refine ⟨fun snapshot index member ended => ?_, fun snapshot index event member => ?_⟩
  · rcases folding.fits _ member with ⟨known, atMost, isSnapshot, passed⟩
    have within := folding.exact.within
    unfold Projector.advance at ended
    dsimp only at ended
    split at ended
    · rename_i isLast
      have atEnd := List.getElem?_eq_none_iff.mp isLast
      omega
    · split at ended
      · cases ended
      · cases ended
  · rw [folding.exact.commit (folding.fits _ member)]
    split
    · rfl
    · split
      · rfl
      · rfl

end Projector

end AnnaAgent.EventStore
