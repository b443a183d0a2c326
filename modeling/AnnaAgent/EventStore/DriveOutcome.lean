/-
The outcome of a drive and the durable outcome of its run.

A drive takes the outcome of the stream it reads, or appends the one that its
kernel returned.  The two agree as long as nothing else decides the run between
the read and the end of the drive and the stream does not end in an older
suspension.
-/

import AnnaAgent.EventStore.RuntimeSteps

namespace AnnaAgent.EventStore

open Foundation

variable {dates : Dates} {outcome : OutcomeStatus} {events : List Event}

theorem settledBy_some (isSettled : settledBy events = some outcome) :
    ∃ early last, events = early ++ [last] ∧
      terminalOutcome last.type = some { status := some outcome } := by
  unfold settledBy at isSettled
  split at isSettled
  · cases isSettled
  · rename_i last isLast
    split at isSettled
    · refine ⟨events.dropLast, last, ?_, ?_⟩
      · have present : last ∈ events.getLast? := isLast
        exact (List.dropLast_append_getLast? last present).symm
      · unfold terminalOutcome
        unfold outcomeForTerminalEvent at isSettled
        rw [isSettled]
    · cases isSettled

theorem settledBy_none_open (isOpen : settledBy events = none) {last : Event}
    (isLast : events.getLast? = some last) : isTerminalEvent last.type = false := by
  unfold settledBy at isOpen
  rw [isLast] at isOpen
  dsimp only at isOpen
  cases terminal : isTerminalEvent last.type with
  | false => rfl
  | true =>
    rw [terminal, Bool.true_or, if_pos rfl] at isOpen
    unfold outcomeForTerminalEvent at isOpen
    unfold isTerminalEvent at terminal
    have cases' := of_decide_eq_true terminal
    simp only [List.mem_cons, List.not_mem_nil, or_false] at cases'
    rcases cases' with isType | isType | isType | isType
    all_goals
      rw [isType] at isOpen
      cases isOpen

theorem terminalOutcome_eventType (outcome : OutcomeStatus) :
    terminalOutcome outcome.eventType = some { status := some outcome } := by
  cases outcome with
  | _ => decide

def Stays (outcome : OutcomeStatus) (later : List Event) : Prop :=
  standing (some { status := some outcome }) later = some { status := some outcome }

theorem standing_of_stays {early later : List Event} {event : Event}
    (isOutcome : terminalOutcome event.type = some { status := some outcome })
    (stays : Stays outcome later) :
    standing none (early ++ [event] ++ later) = some { status := some outcome } := by
  rw [standing_append, standing_concat]
  unfold nextOutcome
  rw [isOutcome]
  exact stays

/-- The ids of a command are not blank. -/
structure StartRun.Named (command : StartRun) : Prop where
  runId : command.runId.toList.all isSpace = false
  workspaceId : command.workspaceId.toList.all isSpace = false
  channelId : command.channelId.toList.all isSpace = false

variable {command : StartRun}

theorem cloneStartRun_ok {cloned : StartRun} (parsed : cloneStartRun command = .ok cloned) :
    cloned = command ∧ command.Named := by
  unfold cloneStartRun at parsed
  obtain ⟨parentRunId, isParent, parsed⟩ := bind_ok parsed
  obtain ⟨parentEventId, isParentEvent, parsed⟩ := bind_ok parsed
  split at parsed
  · cases parsed
  · obtain ⟨laneId, isLane, parsed⟩ := bind_ok parsed
    obtain ⟨commandId, isCommand, parsed⟩ := bind_ok parsed
    obtain ⟨runId, isRun, parsed⟩ := bind_ok parsed
    obtain ⟨workspaceId, isWorkspace, parsed⟩ := bind_ok parsed
    obtain ⟨channelId, isChannel, parsed⟩ := bind_ok parsed
    cases parsed
    have optional : ∀ {input result : Option String} {name : String},
        parseOptionalId input name = .ok result → result = input := by
      intro input result name parsedId
      cases input with
      | none =>
        cases parsedId
        rfl
      | some text =>
        obtain ⟨id, isId, parsedId⟩ := bind_ok parsedId
        cases parsedId
        rw [expectNonEmptyString_eq isId]
    refine ⟨?_, notBlank_of_parsed isRun, notBlank_of_parsed isWorkspace,
      notBlank_of_parsed isChannel⟩
    rw [optional isParent, optional isParentEvent, optional isLane, expectNonEmptyString_eq isCommand,
      expectNonEmptyString_eq isRun, expectNonEmptyString_eq isWorkspace,
      expectNonEmptyString_eq isChannel]

variable {type : String} {scope : ChannelScope} {stamp : Stamp}

theorem parseRunEvent {store : InMemoryEventStore} (named : command.Named)
    (usable : stamp.usable dates store scope = true) (seq : Nat)
    (typed : type.toList.all isSpace = false) (payload : List (String × Json)) :
    parseCanonicalEvent dates (runEvent command stamp seq type payload) =
      .ok (runEvent command stamp seq type payload) := by
  unfold Stamp.usable at usable
  simp only [Bool.and_eq_true, Bool.not_eq_true'] at usable
  obtain ⟨⟨⟨idNotBlank, timeNotBlank⟩, parses⟩, _⟩ := usable
  unfold parseCanonicalEvent parseId parseTimestamp runEvent
  dsimp only
  rw [parsed_of_notBlank _ idNotBlank, parsed_of_notBlank _ named.workspaceId,
    parsed_of_notBlank _ named.channelId, parsed_of_notBlank _ named.runId,
    parsed_of_notBlank _ typed, parsed_of_notBlank _ timeNotBlank]
  have isDate : ¬ dates.parse stamp.timestamp = none := by
    intro absent
    rw [absent] at parses
    cases parses
  change (do
    let timestamp ← (if dates.parse stamp.timestamp = none then
      Except.error (Thrown.schemaValidationError _) else Except.ok stamp.timestamp)
    _) = _
  rw [if_neg isDate]
  rfl

theorem append_runEvent {store : InMemoryEventStore} (orderly : store.Orderly)
    (named : command.Named) (usable : stamp.usable dates store command.toChannelScope = true)
    (typed : type.toList.all isSpace = false) (payload : List (String × Json))
    (isOpen : settledBy (store.streamEvents command.toChannelScope command.runId) = none) :
    ∃ store', store.append dates command.toChannelScope (runEvent command stamp
      (store.streamEvents command.toChannelScope command.runId).length type payload) =
        .ok ((), store') := by
  have unused : store.eventsById.get? (scopedKey command.toChannelScope "event" stamp.id) = none := by
    unfold Stamp.usable at usable
    exact Option.isNone_iff_eq_none.1 (Bool.and_eq_true_iff.1 usable).2
  have notTerminated : (store.streamEvents command.toChannelScope command.runId).any
      (fun stored => isTerminalEvent stored.type) = false := by
    rcases List.eq_nil_or_concat (store.streamEvents command.toChannelScope command.runId) with
      isEmpty | ⟨early, last, isConcat⟩
    · rw [isEmpty]
      rfl
    · have terminated := orderly.terminated command.toChannelScope command.runId
      rw [isConcat, List.concat_eq_append] at terminated isOpen ⊢
      rw [List.any_append, Bool.or_eq_false_iff]
      constructor
      · rw [List.any_eq_false]
        intro event member
        rw [(List.pairwise_append.1 terminated).2.2 event member last (List.mem_singleton.2 rfl)]
        exact Bool.false_ne_true
      · rw [List.any_cons, List.any_nil, Bool.or_false]
        exact settledBy_none_open isOpen List.getLast?_concat
  unfold InMemoryEventStore.append
  rw [parseRunEvent named usable _ typed payload]
  refine ⟨store.pushEvent command.toChannelScope (runEvent command stamp
    (store.streamEvents command.toChannelScope command.runId).length type payload), ?_⟩
  have inScope : assertScope command.toChannelScope (runEvent command stamp
      (store.streamEvents command.toChannelScope command.runId).length type payload).scope =
        .ok () := assertScope_self _
  dsimp only [bind, Except.bind]
  rw [inScope]
  dsimp only [runEvent]
  rw [unused]
  dsimp only
  have atEnd : ¬ (store.streamEvents command.toChannelScope command.runId).length ≠
      (store.streamEvents command.toChannelScope command.runId).length := fun moved => moved rfl
  refine (if_neg atEnd).trans ?_
  exact if_neg (fun terminated => Bool.false_ne_true (notTerminated.symm.trans terminated))

variable {runId : RunId}

theorem claimed_of_getRun {store : InMemoryEventStore} {run : RunView}
    (found : store.getRun scope runId = some run) :
    ∃ command, store.getRunCommand scope runId = some command := by
  unfold InMemoryEventStore.getRun at found
  cases claimed : store.getRunCommand scope runId with
  | none =>
    rw [claimed] at found
    cases found
  | some command => exact ⟨command, rfl⟩

/-- The command has been claimed. -/
def BeginPoint.admitted : BeginPoint → Bool
  | .checkingParent _ | .claiming | .answered _ => false
  | _ => true

structure Begin.Fits (store : InMemoryEventStore) (begun : Begin) : Prop where
  named : begun.point.admitted = true → begun.command.Named
  claimed : ∀ {queued : RunView}, begun.point = .gotQueued (some queued) →
    ∃ command, store.getRunCommand begun.command.toChannelScope begun.command.runId = some command

/-- What a drive has read is the beginning of its stream, and what it has
appended is where it says. -/
structure Drive.Fits (store : InMemoryEventStore) (drive : Drive) : Prop where
  claimed : ∃ command,
    store.getRunCommand drive.command.toChannelScope drive.command.runId = some command
  named : drive.command.Named
  reading : ∀ {outcome : OutcomeStatus}, drive.point = .reading outcome →
    drive.returned = some outcome
  settling : ∀ {outcome : OutcomeStatus} {events : List Event},
    drive.point = .settling outcome events → drive.returned = some outcome ∧
      events <+: store.streamEvents drive.command.toChannelScope drive.command.runId
  failing : ∀ {events : List Event}, drive.point = .failing events →
    events <+: store.streamEvents drive.command.toChannelScope drive.command.runId
  appended : ∀ {outcome : OutcomeStatus} {seq : Nat}, drive.point = .appended outcome seq →
    ∃ early event, early.length = seq ∧ event.type = outcome.eventType ∧
      early ++ [event] <+: store.streamEvents drive.command.toChannelScope drive.command.runId

structure RunRuntime.Fits (runtime : RunRuntime) : Prop where
  orderly : runtime.store.Orderly
  begins : ∀ {index : Nat} {begun : Begin}, runtime.begins[index]? = some begun →
    begun.Fits runtime.store
  drives : ∀ {index : Nat} {drive : Drive}, runtime.drives[index]? = some drive →
    drive.Fits runtime.store

variable {drive : Drive}

section Keep

variable {store store' : InMemoryEventStore}

theorem InMemoryEventStore.Grows.longer (grows : store.Grows store') {streamId : StreamId}
    (read : events <+: store.streamEvents scope streamId) :
    events <+: store'.streamEvents scope streamId := by
  obtain ⟨added, isLater⟩ := grows.streams scope streamId
  rw [isLater]
  exact read.trans (List.prefix_append _ _)

theorem Begin.Fits.grows {begun : Begin} (fits : begun.Fits store) (grows : store.Grows store') :
    begun.Fits store' := by
  refine ⟨fits.named, ?_⟩
  intro queued at'
  obtain ⟨command, found⟩ := fits.claimed at'
  exact ⟨command, grows.claimed found⟩

theorem Drive.Fits.grows (fits : drive.Fits store) (grows : store.Grows store') :
    drive.Fits store' := by
  obtain ⟨command, found⟩ := fits.claimed
  refine ⟨⟨command, grows.claimed found⟩, fits.named, fits.reading, ?_, ?_, ?_⟩
  · intro outcome events at'
    exact ⟨(fits.settling at').1, grows.longer (fits.settling at').2⟩
  · intro events at'
    exact grows.longer (fits.failing at')
  · intro outcome seq at'
    obtain ⟨early, event, isSeq, isType, read⟩ := fits.appended at'
    exact ⟨early, event, isSeq, isType, grows.longer read⟩

theorem Begin.Advances.fits {active : OrderedMap String Nat} {begun : Begin} {point : BeginPoint}
    (advances : begun.Advances dates store active stamp (.goes store' point))
    (fits : begun.Fits store) : ({ begun with point } : Begin).Fits store' := by
  have named : begun.point.admitted = true → begun.command.Named := fits.named
  cases advances with
  | lacksParent at' | hasParent at' | conflicts at' | missing at' | refused at'
  | ended at' => exact ⟨nofun, nofun⟩
  | claims at' succeeded =>
    obtain ⟨cloned, isClone, _⟩ := bind_ok succeeded
    exact ⟨fun _ => (cloneStartRun_ok isClone).2, nofun⟩
  | gets at' | reads at' | hasEvents at' present | queues at' usable appended =>
    exact ⟨fun _ => named (by rw [at']; rfl), nofun⟩
  | checks at' =>
    refine ⟨fun _ => named (by rw [at']; rfl), ?_⟩
    intro queued isPoint
    unfold Begin.check at isPoint
    split at isPoint
    · split at isPoint
      · cases isPoint
      · split at isPoint
        · cases isPoint
        · cases isPoint
    · split at isPoint
      · cases isPoint
      · split at isPoint
        · cases isPoint
        · cases isPoint
  | getsQueued at' =>
    refine ⟨fun _ => named (by rw [at']; rfl), ?_⟩
    intro queued isPoint
    exact claimed_of_getRun (BeginPoint.gotQueued.inj isPoint)

theorem runEvent_appended {seq : Nat} {payload : List (String × Json)}
    (usable : stamp.usable dates store command.toChannelScope = true)
    (appended : store.append dates command.toChannelScope (runEvent command stamp seq type payload) = .ok ((), store')) :
    seq = (store.streamEvents command.toChannelScope command.runId).length ∧
      store'.streamEvents command.toChannelScope command.runId =
        store.streamEvents command.toChannelScope command.runId ++
          [runEvent command stamp seq type payload] := by
  have unused : store.eventsById.get? (scopedKey command.toChannelScope "event" stamp.id) = none := by
    unfold Stamp.usable at usable
    exact Option.isNone_iff_eq_none.1 (Bool.and_eq_true_iff.1 usable).2
  rcases InMemoryEventStore.append_ok appended with ⟨_, existing, found, _⟩ | pushed
  · have absent := unused.symm.trans found
    cases absent
  · refine ⟨pushed.atEnd, ?_⟩
    rw [pushed.streamEvents, if_pos ⟨rfl, rfl⟩]

theorem Drive.Advances.fits {point : DrivePoint}
    (advances : drive.Advances dates store stamp store' point) (fits : drive.Fits store) :
    ({ drive with point } : Drive).Fits store' := by
  have later := fits.grows advances.atMostOneCall.grows
  refine ⟨later.claimed, later.named, ?_, ?_, ?_, ?_⟩
  · intro outcome isPoint
    cases advances with
    | _ => cases isPoint
  · intro outcome events isPoint
    cases advances with
    | reads at' =>
      cases isPoint
      exact ⟨fits.reading at', List.prefix_rfl⟩
    | _ => cases isPoint
  · intro events isPoint
    cases advances with
    | readsAgain at' =>
      cases isPoint
      exact List.prefix_rfl
    | _ => cases isPoint
  · intro outcome seq isPoint
    cases advances with
    | @records _ events _ at' isOpen usable appended =>
      cases isPoint
      obtain ⟨isSeq, isStream⟩ := runEvent_appended usable appended
      refine ⟨_, outcomeEvent drive.command stamp events.length outcome, isSeq.symm, rfl, ?_⟩
      rw [isStream]
      exact List.prefix_rfl
    | @fails events _ at' isOpen usable appended =>
      cases isPoint
      obtain ⟨isSeq, isStream⟩ := runEvent_appended usable appended
      refine ⟨_, failureEvent drive.command stamp events.length, isSeq.symm, by rfl, ?_⟩
      rw [isStream]
      exact List.prefix_rfl
    | _ => cases isPoint

end Keep

theorem Begin.first_fits (store : InMemoryEventStore) (command : StartRun) (allowRunning : Bool) :
    (Begin.first command allowRunning).Fits store := by
  unfold Begin.first
  cases command.parentRunId with
  | none | some parentRunId => exact ⟨nofun, nofun⟩

theorem RunRuntime.Step.fits {before after : RunRuntime} {move : RuntimeMove}
    (step : RunRuntime.Step dates before move after) (fits : before.Fits) : after.Fits := by
  have grows := step.grows
  refine ⟨step.orderly fits.orderly, ?_, ?_⟩
  · intro index begun isBegin
    cases step.effect with
    | begins isOpen isFree =>
      rcases at_concat isBegin with ⟨_, isNew⟩ | was
      · rw [isNew]
        exact Begin.first_fits _ _ _
      · exact fits.begins was
    | goes was advances =>
      rcases at_set isBegin with ⟨_, isNew⟩ | ⟨_, was'⟩
      · rw [isNew]
        exact advances.fits (fits.begins was)
      · exact (fits.begins was').grows grows
    | drives was at' =>
      rcases at_set isBegin with ⟨_, isNew⟩ | ⟨_, was'⟩
      · rw [isNew]
        exact ⟨nofun, nofun⟩
      · exact fits.begins was'
    | _ => exact (fits.begins isBegin).grows grows
  · intro index drive isDrive
    cases step.effect with
    | drives was at' =>
      rcases at_concat isDrive with ⟨_, isNew⟩ | was'
      · rw [isNew]
        have begun := fits.begins was
        exact ⟨begun.claimed at', begun.named (by rw [at']; rfl), nofun, nofun, nofun, nofun⟩
      · exact fits.drives was'
    | calls was inKernel =>
      rcases at_set isDrive with ⟨_, isNew⟩ | ⟨_, was'⟩
      · have later := (fits.drives was).grows grows
        rw [isNew]
        exact ⟨later.claimed, later.named, later.reading, later.settling, later.failing,
          later.appended⟩
      · exact (fits.drives was').grows grows
    | returns was inKernel =>
      rcases at_set isDrive with ⟨_, isNew⟩ | ⟨_, was'⟩
      · have held := fits.drives was
        rw [isNew]
        refine ⟨held.claimed, held.named, ?_, nofun, nofun, nofun⟩
        intro outcome isPoint
        cases isPoint
        rfl
      · exact fits.drives was'
    | rejects was inKernel =>
      rcases at_set isDrive with ⟨_, isNew⟩ | ⟨_, was'⟩
      · have held := fits.drives was
        rw [isNew]
        exact ⟨held.claimed, held.named, nofun, nofun, nofun, nofun⟩
      · exact fits.drives was'
    | advances was advances =>
      rcases at_set isDrive with ⟨_, isNew⟩ | ⟨_, was'⟩
      · rw [isNew]
        exact advances.fits (fits.drives was)
      · exact (fits.drives was').grows grows
    | _ => exact (fits.drives isDrive).grows grows

theorem initial_fits : RunRuntime.initial.Fits :=
  ⟨InMemoryEventStore.orderly_empty, nofun, nofun⟩

/-! ### Undisturbed drives -/

/-- What the kernel returned without deciding the run itself. -/
def Drive.owed (drive : Drive) : Option OutcomeStatus :=
  if drive.decided then none else drive.returned

theorem Drive.returned_of_owed (isOwed : drive.owed = some outcome) :
    drive.returned = some outcome := by
  unfold Drive.owed at isOwed
  split at isOwed
  · cases isOwed
  · exact isOwed

/-- The outcome that the drive has found still stands and is the one its kernel
returned. -/
def Drive.Finds (drive : Drive) (events stream : List Event) : Prop :=
  ∀ settled ∈ settledBy events,
    Stays settled (stream.drop events.length) ∧ ∀ owed ∈ drive.owed, settled = owed

/-- What was added to the stream since the drive looked at it leaves the outcome
standing that the drive found or appended, and the stream does not end in an
outcome that the kernel did not return. -/
def Drive.Undisturbed (stream : List Event) (drive : Drive) : Prop :=
  match drive.point with
  | .settling _ events => drive.Finds events stream
  | .appended outcome seq => Stays outcome (stream.drop (seq + 1))
  | .failing events =>
    drive.Finds events stream ∧
    (settledBy events = none → ∀ owed ∈ drive.owed, owed = .failed ∧ stream.length = events.length)
  | _ => True

def RunRuntime.Undisturbed (before : RunRuntime) : RuntimeMove → Prop
  | .driveStep index _ => ∀ drive ∈ before.drives[index]?,
      drive.Undisturbed (before.store.streamEvents drive.command.toChannelScope drive.command.runId)
  | _ => True

instance (outcome : OutcomeStatus) (later : List Event) : Decidable (Stays outcome later) :=
  inferInstanceAs (Decidable (_ = _))

instance (drive : Drive) (events stream : List Event) : Decidable (drive.Finds events stream) :=
  inferInstanceAs (Decidable (∀ settled ∈ settledBy events, _ ∧ ∀ owed ∈ drive.owed, _ = _))

instance (stream : List Event) : (drive : Drive) → Decidable (drive.Undisturbed stream)
  | ⟨command, .settling outcome events, returned, decided⟩ =>
    inferInstanceAs (Decidable
      (Drive.Finds ⟨command, .settling outcome events, returned, decided⟩ events stream))
  | ⟨_, .appended outcome seq, _, _⟩ =>
    inferInstanceAs (Decidable (Stays outcome (stream.drop (seq + 1))))
  | ⟨command, .failing events, returned, decided⟩ =>
    inferInstanceAs (Decidable
      (Drive.Finds ⟨command, .failing events, returned, decided⟩ events stream ∧
        (settledBy events = none →
          ∀ owed ∈ Drive.owed ⟨command, .failing events, returned, decided⟩,
            owed = .failed ∧ stream.length = events.length)))
  | ⟨_, .kernel, _, _⟩ | ⟨_, .reading _, _, _⟩ | ⟨_, .recovering, _, _⟩ | ⟨_, .resolved _, _, _⟩
  | ⟨_, .rejected, _, _⟩ => .isTrue trivial

instance (before : RunRuntime) : (move : RuntimeMove) → Decidable (before.Undisturbed move)
  | .driveStep index _ =>
    inferInstanceAs (Decidable (∀ drive ∈ before.drives[index]?, drive.Undisturbed _))
  | .call _ _ | .beginStep _ _ | .clearInFlight _ | .kernelCall _ _ _ | .kernelReturns _ _
  | .kernelRejects _ | .clearActive _ | .settleInterrupted _ | .settleStep _ _ | .stop _ _
  | .close | .write _ _ => .isTrue trivial

/-- A drive whose promise is settled by this move resolves with the outcome that
the run is reported with, and with the one that its kernel returned. -/
def TellsOutcome (move : Move RunRuntime RuntimeMove) : Prop :=
  ∀ index stamp drive, move.label = .driveStep index stamp →
    move.after.drives[index]? = some drive →
      (∀ outcome, drive.point = .resolved outcome →
        move.after.store.Reports drive.command.toChannelScope drive.command.runId outcome) ∧
      ∀ owed, drive.owed = some owed → drive.point.isSettled = true → drive.point = .resolved owed

/-- An outcome that a drive has appended is the one that its kernel returned. -/
def RunRuntime.Pays (runtime : RunRuntime) : Prop :=
  ∀ {index : Nat} {drive : Drive}, runtime.drives[index]? = some drive →
    ∀ {outcome : OutcomeStatus} {seq : Nat}, drive.point = .appended outcome seq →
      ∀ {owed : OutcomeStatus}, drive.owed = some owed → outcome = owed

section Drives

variable {before after : RunRuntime} {move : RuntimeMove}

theorem RunRuntime.Step.pays (step : RunRuntime.Step dates before move after) (fits : before.Fits)
    (pays : before.Pays) (undisturbed : before.Undisturbed move) : after.Pays := by
  intro index drive isDrive outcome seq isPoint owed owes
  cases step.effect with
  | drives was at' =>
    rcases at_concat isDrive with ⟨_, isNew⟩ | was'
    · rw [isNew] at isPoint
      cases isPoint
    · exact pays was' isPoint owes
  | calls was inKernel =>
    rcases at_set isDrive with ⟨_, isNew⟩ | ⟨_, was'⟩
    · rw [isNew] at isPoint
      have impossible := inKernel.symm.trans isPoint
      cases impossible
    · exact pays was' isPoint owes
  | returns was inKernel | rejects was inKernel =>
    rcases at_set isDrive with ⟨_, isNew⟩ | ⟨_, was'⟩
    · rw [isNew] at isPoint
      cases isPoint
    · exact pays was' isPoint owes
  | advances was advances =>
    rcases at_set isDrive with ⟨_, isNew⟩ | ⟨_, was'⟩
    · have quiet := undisturbed _ was
      unfold Drive.Undisturbed at quiet
      rw [isNew] at isPoint owes
      cases advances with
      | records at' isOpen usable appended =>
        cases isPoint
        have returned := ((fits.drives was).settling at').1.symm.trans (Drive.returned_of_owed owes)
        exact Option.some.inj returned
      | fails at' isOpen usable appended =>
        cases isPoint
        rw [at'] at quiet
        exact (quiet.2 isOpen owed owes).1.symm
      | _ => cases isPoint
    · exact pays was' isPoint owes
  | _ => exact pays isDrive isPoint owes

theorem reports_settled {store : InMemoryEventStore} (orderly : store.Orderly)
    (claimed : store.getRunCommand scope runId = some command)
    (isSettled : settledBy events = some outcome) (read : events <+: store.streamEvents scope runId)
    (stays : Stays outcome ((store.streamEvents scope runId).drop events.length)) :
    store.Reports scope runId outcome := by
  rw [InMemoryEventStore.reports_iff orderly claimed]
  obtain ⟨early, last, isEvents, isOutcome⟩ := settledBy_some isSettled
  rw [← List.prefix_iff_eq_append.1 read, isEvents]
  rw [isEvents] at stays
  exact standing_of_stays isOutcome stays

theorem reports_appended {store : InMemoryEventStore} {early : List Event} {event : Event}
    (orderly : store.Orderly) (claimed : store.getRunCommand scope runId = some command)
    (isType : event.type = outcome.eventType)
    (read : early ++ [event] <+: store.streamEvents scope runId)
    (stays : Stays outcome ((store.streamEvents scope runId).drop (early.length + 1))) :
    store.Reports scope runId outcome := by
  rw [InMemoryEventStore.reports_iff orderly claimed, ← List.prefix_iff_eq_append.1 read,
    List.length_append, List.length_singleton]
  refine standing_of_stays ?_ stays
  rw [isType]
  exact terminalOutcome_eventType outcome

theorem tellsOutcome_of_undisturbed (step : RunRuntime.Step dates before move after)
    (fits : before.Fits) (pays : before.Pays) (undisturbed : before.Undisturbed move) :
    TellsOutcome ⟨before, move, after⟩ := by
  intro index stamp drive' isMove isDrive
  dsimp only at isMove isDrive ⊢
  subst isMove
  have orderly := step.orderly fits.orderly
  cases step.effect with
  | advances was advances =>
    have quiet := undisturbed _ was
    have held := fits.drives was
    obtain ⟨command, claimed⟩ := held.claimed
    unfold Drive.Undisturbed at quiet
    rcases at_set isDrive with ⟨_, isNew⟩ | ⟨moved, _⟩
    · rw [isNew]
      dsimp only at orderly ⊢
      cases advances with
      | finds at' isSettled =>
        rw [at'] at quiet
        obtain ⟨stays, isOwed⟩ := quiet _ isSettled
        constructor
        · intro outcome isPoint
          cases isPoint
          exact reports_settled orderly claimed isSettled (held.settling at').2 stays
        · intro owed owes _
          rw [isOwed owed owes]
      | returns at' =>
        rw [at'] at quiet
        obtain ⟨early, event, isSeq, isType, read⟩ := held.appended at'
        constructor
        · intro outcome isPoint
          cases isPoint
          rw [← isSeq] at quiet
          exact reports_appended orderly claimed isType read quiet
        · intro owed owes _
          rw [pays was at' owes]
      | findsAgain at' isSettled =>
        rw [at'] at quiet
        obtain ⟨stays, isOwed⟩ := quiet.1 _ isSettled
        constructor
        · intro outcome isPoint
          cases isPoint
          exact reports_settled orderly claimed isSettled (held.failing at') stays
        · intro owed owes _
          rw [isOwed owed owes]
      | rejects at' isOpen usable failed =>
        rw [at'] at quiet
        refine ⟨nofun, ?_⟩
        intro owed owes _
        obtain ⟨_, sameLength⟩ := quiet.2 isOpen owed owes
        have sameStream := (held.failing at').eq_of_length sameLength.symm
        rw [sameStream] at isOpen failed
        have typed : "run.failed".toList.all isSpace = false := by decide
        obtain ⟨store', appended⟩ := append_runEvent orderly held.named usable typed
          [("errorType", .str "runtime_bridge_failed")] isOpen
        unfold failureEvent at failed
        rw [appended] at failed
        cases failed
      | _ => exact ⟨nofun, nofun⟩
    · exact absurd rfl moved

end Drives

theorem drives_tell_durable_outcome {last : RunRuntime} {trace : List (Move RunRuntime RuntimeMove)}
    (run : Run (RunRuntime.Step dates) .initial trace last)
    (undisturbed : ∀ move ∈ trace, move.before.Undisturbed move.label) :
    ∀ move ∈ trace, TellsOutcome move := by
  intro move member
  obtain ⟨early, late, isTrace⟩ := List.append_of_mem member
  rw [isTrace] at run undisturbed
  obtain ⟨reached, step, _⟩ := run.around
  have held : move.before.Fits ∧ move.before.Pays := by
    refine reached.keeps (fun runtime => runtime.Fits ∧ runtime.Pays) ?_ ⟨initial_fits, nofun⟩
    intro earlier isEarlier taken holds
    have quiet := undisturbed earlier (List.mem_append_left _ isEarlier)
    exact ⟨taken.fits holds.1, taken.pays holds.1 holds.2 quiet⟩
  exact tellsOutcome_of_undisturbed step held.1 held.2
    (undisturbed move (List.mem_append_right _ List.mem_cons_self))

def resumeDraft : List RuntimeMove :=
  .call draftRun true :: List.replicate 7 (.beginStep 1 (stamped "")) ++
    [.kernelReturns 1 .completed, .driveStep 1 (stamped "")]

theorem drives_tell_durable_outcome_asking :
    (RunRuntime.initial.trace fixedDates (startDraft ++ askForInput)).Forall TellsOutcome :=
  List.forall_iff_forall_mem.2 (drives_tell_durable_outcome
    (RunRuntime.initial.run_trace fixedDates (startDraft ++ askForInput)) (by decide +kernel))

/-- A resumed run completes, but its drive resolves with the suspension it was
resumed from. -/
theorem drive_resolves_with_old_suspension :
    ¬ ∀ (dates : Dates) (last : RunRuntime) (trace : List (Move RunRuntime RuntimeMove)),
      Run (RunRuntime.Step dates) .initial trace last → ∀ move ∈ trace, TellsOutcome move := by
  intro claimed
  have early := RunRuntime.initial.run_trace fixedDates (startDraft ++ askForInput ++ resumeDraft)
  have drive : (((RunRuntime.initial.finish fixedDates
      (startDraft ++ askForInput ++ resumeDraft)).step fixedDates
        (.driveStep 1 (stamped ""))).bind (fun after => after.drives[1]?)).map
          (fun drive => (drive.point, drive.owed)) =
      some (.resolved .awaitingInput, some .completed) := by decide +kernel
  obtain ⟨resumed, found, facts⟩ := Option.map_eq_some_iff.1 drive
  obtain ⟨after, isAfter, isResumed⟩ := Option.bind_eq_some_iff.1 found
  have isPoint : resumed.point = .resolved .awaitingInput := congrArg Prod.fst facts
  have owes : resumed.owed = some .completed := congrArg Prod.snd facts
  have tells := claimed fixedDates after _ (early.append (.single isAfter)) _
    (List.mem_append_right _ (List.mem_singleton.2 rfl)) 1 (stamped "") resumed rfl isResumed
  have resolved := tells.2 .completed owes (by rw [isPoint]; rfl)
  rw [isPoint] at resolved
  cases resolved

end AnnaAgent.EventStore
