/-
What the posts of one workbench run are answered.

All posts share the record that the first of them creates, and only that post
ever starts it.  The answers agree with what is recorded in a run of the host
in which an admission that is not started fails in the way it is recorded, no
crash finds an admission that is neither recorded nor claimed, and no admission
ends while another post still holds the record as it was before.
-/

import AnnaAgent.Host.RunAdmission
import AnnaAgent.Host.SessionAtomicity

namespace AnnaAgent.Host.Admission

open Foundation

theorem sameRunIdentity_of_both {left right request : WorkbenchRunRecord}
    (sameLeft : sameRunIdentity left request = true)
    (sameRight : sameRunIdentity right request = true) : sameRunIdentity left right = true := by
  simp only [sameRunIdentity, Bool.and_eq_true, decide_eq_true_eq] at sameLeft sameRight ⊢
  simp [sameLeft, sameRight]

variable {run : WorkbenchRunRecord}

theorem Candidate.sessionId {request : WorkbenchRunRecord} (candidate : Candidate request run) :
    run.sessionId = request.sessionId := by
  have identity := candidate.identity
  simp only [sameRunIdentity, Bool.and_eq_true, decide_eq_true_eq] at identity
  simp [identity]

def Service.record (request : WorkbenchRunRecord) (service : Service) : Option WorkbenchRunRecord :=
  service.state.runOfSource request.sessionId request.sourceEventId

/-- The id of the run that the source event has. -/
def Service.Holds (request : WorkbenchRunRecord) (service : Service) (id : String) : Prop :=
  ∃ run, service.record request = some run ∧ run.runId = id

variable {service : Service} {id actor : String} {found : WorkbenchRunRecord}
  {state : WorkbenchState} {status : AdmissionStatus} {phase : Phase} {answer : Answer}
variable {other : String}

theorem Service.Holds.unique {request : WorkbenchRunRecord} (holds : service.Holds request id)
    (alsoHolds : service.Holds request other) : id = other := by
  rcases holds with ⟨run, isRun, sameId⟩
  rcases alsoHolds with ⟨_, isOther, rfl⟩
  rw [isRun] at isOther
  cases isOther
  exact sameId.symm

theorem createOrGetRun_existing {request : WorkbenchRunRecord} (candidate : Candidate request run)
    (isFound : state.runOfSource request.sessionId request.sourceEventId = some found)
    (identity : sameRunIdentity found request = true) :
    createOrGetRun run state = (.existing found, state) := by
  unfold createOrGetRun
  rw [candidate.sessionId, candidate.source, isFound]
  change (if sameRunIdentity found run = true then _ else _) = _
  rw [if_pos (sameRunIdentity_of_both identity candidate.identity)]

theorem createOrGetRun_created {request : WorkbenchRunRecord} (candidate : Candidate request run)
    (absent : state.runOfSource request.sessionId request.sourceEventId = none)
    (unused : run.runId ∉ state.runIds) :
    createOrGetRun run state = (.created run,
      { sessions := touchSession run state.sessions
        runs := state.runs ++ [run] }) := by
  apply createOrGetRun_absent _ unused
  rw [candidate.sessionId, candidate.source]
  exact absent

theorem created_found {request : WorkbenchRunRecord} (sessions : List WorkbenchSessionRecord)
    (candidate : Candidate request run)
    (absent : state.runOfSource request.sessionId request.sourceEventId = none)
    (unused : run.runId ∉ state.runIds) :
    WorkbenchState.runOfSource { sessions := sessions, runs := state.runs ++ [run] }
        request.sessionId request.sourceEventId = some run ∧
      WorkbenchState.getRun { sessions := sessions, runs := state.runs ++ [run] } run.runId =
        some run := by
  have notById : state.runs.find? (fun item => item.runId = run.runId) = none :=
    getRun_eq_none unused
  unfold WorkbenchState.runOfSource at absent
  unfold WorkbenchState.runOfSource WorkbenchState.getRun
  rw [List.find?_append, List.find?_append, absent, notById]
  simp [candidate.sessionId, candidate.source]

def marked (run : WorkbenchRunRecord) (status : AdmissionStatus) (error : Option String) :
    WorkbenchRunRecord :=
  { run with
    admissionStatus := some status
    admissionError := error.or run.admissionError }

variable {error : Option String}

theorem marked_found {request : WorkbenchRunRecord} {after : WorkbenchState}
    (isRun : state.runOfSource request.sessionId request.sourceEventId = some run)
    (byId : state.getRun run.runId = some run)
    (marking : markRunAdmission run.runId status error state = .ok after) :
    after.runOfSource request.sessionId request.sourceEventId = some (marked run status error) ∧
      after.getRun run.runId = some (marked run status error) := by
  have isSource := List.find?_some isRun
  unfold markRunAdmission at marking
  rw [byId] at marking
  cases marking
  constructor
  · exact find?_updateFirst_of_both byId isRun isSource
  · exact find?_updateFirst_of_both byId byId (decide_eq_true rfl)

/-! ### One record, one start -/

/-- What a post knows of a record once it has read it. -/
structure Service.Read (request : WorkbenchRunRecord) (service : Service)
    (run : WorkbenchRunRecord) : Prop where
  holds : service.Holds request run.runId
  recorded : run.admissionStatus ≠ none
  started : run.admissionStatus = some .started → run.runId ∈ service.started

def Phase.Fits (request : WorkbenchRunRecord) (service : Service) (id : String) : Phase → Prop
  | .lookingUp run =>
    run.runId = id ∧ id ∉ service.state.runIds ∧ Candidate request run
  | .preparing => service.Holds request id
  | .starting => service.Holds request id ∧ id ∈ service.started
  | .markingStarted => service.Holds request id ∧ id ∈ service.started
  | .markingFailed _ outcome => service.Holds request id ∧ outcome ≠ .ok
  | .settling outcome answer =>
    service.Holds request id ∧ (outcome = .ok → id ∈ service.started) ∧
      ∀ runId, answer = .accepted runId → runId ∈ service.started
  | .readingEvents found => service.Read request found
  | .deciding found canonical =>
    service.Read request found ∧ (canonical = true → found.runId ∈ service.started)
  | .awaiting runId => service.Holds request runId
  | .rereading runId => runId ∈ service.started

structure Consistent (request : WorkbenchRunRecord) (service : Service) : Prop where
  identity : ∀ run, service.record request = some run → sameRunIdentity run request = true
  byId : ∀ run, service.record request = some run → service.state.getRun run.runId = some run
  recorded : ∀ run, service.record request = some run → service.Read request run
  posts : ∀ id phase, service.posts id = some phase → phase.Fits request service id
  claimed : ∀ id, service.claimed id = true → id ∈ service.started
  started : ∀ id ∈ service.started, service.Holds request id
  outcomes : ∀ id, service.outcomes id = some .ok → id ∈ service.started
  answers : ∀ id runId, (id, .accepted runId) ∈ service.answers → runId ∈ service.started

/-- What a step of the post `actor` leaves to the other posts. -/
structure Grows (request : WorkbenchRunRecord) (actor : String) (before after : Service) :
    Prop where
  holds : ∀ id, before.Holds request id → after.Holds request id
  started : ∀ id ∈ before.started, id ∈ after.started
  runIds : ∀ id ∈ after.state.runIds, id ∈ before.state.runIds ∨ id = actor

theorem Grows.of_state {request : WorkbenchRunRecord} {before after : Service}
    (sameState : after.state = before.state) (started : ∀ id ∈ before.started, id ∈ after.started) :
    Grows request actor before after := by
  refine ⟨?_, started, ?_⟩
  · intro id holds
    unfold Service.Holds Service.record
    rw [sameState]
    exact holds
  · intro id member
    rw [sameState] at member
    exact Or.inl member

theorem Service.Read.grows {request : WorkbenchRunRecord} {before after : Service}
    (read : before.Read request run) (grows : Grows request actor before after) :
    after.Read request run :=
  { holds := grows.holds _ read.holds
    recorded := read.recorded
    started := fun isStarted => grows.started _ (read.started isStarted) }

theorem Phase.Fits.grows {request : WorkbenchRunRecord} {before after : Service}
    (fits : phase.Fits request before id) (grows : Grows request actor before after)
    (other : id ≠ actor) : phase.Fits request after id := by
  cases phase with
  | lookingUp run =>
    refine ⟨fits.1, ?_, fits.2.2⟩
    intro member
    rcases grows.runIds id member with early | isActor
    · exact fits.2.1 early
    · exact other isActor
  | preparing | awaiting runId => exact grows.holds _ fits
  | starting | markingStarted => exact ⟨grows.holds _ fits.1, grows.started _ fits.2⟩
  | markingFailed recorded outcome => exact ⟨grows.holds _ fits.1, fits.2⟩
  | settling outcome answer =>
    refine ⟨grows.holds _ fits.1, ?_, ?_⟩
    · intro isOk
      exact grows.started _ (fits.2.1 isOk)
    · intro runId isAccepted
      exact grows.started _ (fits.2.2 runId isAccepted)
  | readingEvents found => exact Service.Read.grows fits grows
  | deciding found canonical =>
    refine ⟨Service.Read.grows fits.1 grows, ?_⟩
    intro isCanonical
    exact grows.started _ (fits.2 isCanonical)
  | rereading runId => exact grows.started _ fits

theorem posts_update {posts : String → Option Phase} {next : Option Phase}
    {P : String → Phase → Prop}
    (others : ∀ other phase, other ≠ id → posts other = some phase → P other phase)
    (own : ∀ phase, next = some phase → P id phase) (other : String) (phase : Phase)
    (here : Function.update posts id next other = some phase) : P other phase := by
  by_cases isActor : other = id
  · subst isActor
    rw [Function.update_self] at here
    exact own phase here
  · rw [Function.update_of_ne isActor] at here
    exact others other phase isActor here

variable {request : WorkbenchRunRecord} {before after : Service} {outcome : Outcome}

section

variable (consistent : Consistent request before)

include consistent

theorem Consistent.moveTo (fits : phase.Fits request before id)
    : Consistent request (before.moveTo id phase) := by
  have grows : Grows request id before (before.moveTo id phase) :=
    .of_state rfl (fun _ member => member)
  refine { consistent with recorded := ?_, posts := ?_ }
  · intro run isRun
    exact (consistent.recorded run isRun).grows grows
  · apply posts_update
    · intro other phase' isOther here
      exact (consistent.posts other phase' here).grows grows isOther
    · intro phase' isPhase
      cases isPhase
      cases phase with
      | readingEvents found => exact Service.Read.grows fits grows
      | deciding found canonical => exact ⟨Service.Read.grows fits.1 grows, fits.2⟩
      | _ => exact fits

theorem Consistent.reply (accepts : ∀ runId, answer = .accepted runId → runId ∈ before.started) :
    Consistent request (before.reply id answer) := by
  have grows : Grows request id before (before.reply id answer) :=
    .of_state rfl (fun _ member => member)
  refine { consistent with recorded := ?_, posts := ?_, answers := ?_ }
  · intro run isRun
    exact (consistent.recorded run isRun).grows grows
  · apply posts_update
    · intro other phase' isOther here
      exact (consistent.posts other phase' here).grows grows isOther
    · intro phase' isPhase
      cases isPhase
  · intro other runId member
    rcases List.mem_append.1 member with early | isLast
    · exact consistent.answers other runId early
    · cases List.mem_singleton.1 isLast
      exact accepts runId rfl

theorem Consistent.marked (holds : before.Holds request id)
    (isStarted : status = .started → id ∈ before.started)
    (marking : markRunAdmission id status error before.state = .ok state) :
    Consistent request { before with state } ∧ Grows request id before { before with state } := by
  rcases holds with ⟨run, isRun, rfl⟩
  rcases marked_found isRun (consistent.byId run isRun) marking with ⟨bySource, byId⟩
  have grows : Grows request run.runId before { before with state } := by
    refine ⟨?_, fun _ member => member, ?_⟩
    · intro other holds
      have same : run.runId = other := Service.Holds.unique ⟨run, isRun, rfl⟩ holds
      exact ⟨_, bySource, same⟩
    · intro other member
      change other ∈ state.runIds at member
      rw [(markRunAdmission_ok marking).2.1] at member
      exact Or.inl member
  refine ⟨?_, grows⟩
  refine { consistent with
    identity := ?_, byId := ?_, recorded := ?_, posts := ?_, started := ?_ }
  · intro other isOther
    cases bySource.symm.trans isOther
    exact consistent.identity run isRun
  · intro other isOther
    cases bySource.symm.trans isOther
    exact byId
  · intro other isOther
    cases bySource.symm.trans isOther
    refine ⟨⟨_, bySource, rfl⟩, ?_, ?_⟩
    · intro isNone
      cases isNone
    · intro same
      cases same
      exact isStarted rfl
  · intro other phase here
    have fits := consistent.posts other phase here
    by_cases isActor : other = run.runId
    · cases phase with
      | lookingUp later =>
        apply absurd fits.2.1
        rw [isActor, not_not]
        exact List.mem_map_of_mem (List.mem_of_find?_eq_some isRun)
      | preparing | awaiting runId => exact grows.holds _ fits
      | starting | markingStarted | markingFailed recorded outcome
      | settling outcome answer => exact ⟨grows.holds _ fits.1, fits.2⟩
      | readingEvents found => exact Service.Read.grows fits grows
      | deciding found canonical => exact ⟨Service.Read.grows fits.1 grows, fits.2⟩
      | rereading runId => exact fits
    · exact fits.grows grows isActor
  · intro other member
    exact grows.holds _ (consistent.started other member)

theorem Consistent.lookUp (here : before.posts id = some (.lookingUp run)) :
    Consistent request (before.lookUp id run) := by
  rcases consistent.posts id _ here with ⟨rfl, unused, candidate⟩
  cases isRecord : before.record request with
  | some found =>
    unfold Service.lookUp
    rw [createOrGetRun_existing candidate isRecord (consistent.identity found isRecord)]
    apply consistent.moveTo
    exact consistent.recorded found isRecord
  | none =>
    rcases created_found (touchSession run before.state.sessions) candidate isRecord unused with
      ⟨bySource, byId⟩
    unfold Service.lookUp
    rw [createOrGetRun_created candidate isRecord unused]
    dsimp only
    have absent : ∀ other, ¬ before.Holds request other := by
      rintro other ⟨found, isFound, _⟩
      rw [isRecord] at isFound
      cases isFound
    have grows : Grows request run.runId before
        ({ before with
          state :=
            { sessions := touchSession run before.state.sessions
              runs := before.state.runs ++ [run] }
          pending := Function.update before.pending run.runId true }.moveTo run.runId
            .preparing) := by
      refine ⟨?_, fun _ member => member, ?_⟩
      · intro other holds
        exact absurd holds (absent other)
      · intro other member
        change other ∈ (before.state.runs ++ [run]).map WorkbenchRunRecord.runId at member
        rw [List.map_append, List.mem_append] at member
        rcases member with early | isLast
        · exact Or.inl early
        · exact Or.inr (List.mem_singleton.1 isLast)
    refine { consistent with
      identity := ?_, byId := ?_, recorded := ?_, posts := ?_, started := ?_ }
    · intro other isOther
      cases bySource.symm.trans isOther
      exact candidate.identity
    · intro other isOther
      cases bySource.symm.trans isOther
      exact byId
    · intro other isOther
      cases bySource.symm.trans isOther
      refine ⟨⟨run, bySource, rfl⟩, ?_, ?_⟩
      · rw [candidate.pending]
        exact fun isNone => by cases isNone
      · rw [candidate.pending]
        exact fun isStarted => by cases isStarted
    · apply posts_update
      · intro other phase isOther here
        exact (consistent.posts other phase here).grows grows isOther
      · intro phase isPhase
        cases isPhase
        exact ⟨run, bySource, rfl⟩
    · intro other member
      exact absurd (consistent.started other member) (absent other)

theorem Consistent.decide {canonical : Bool}
    (here : before.posts id = some (.deciding found canonical)) :
    Consistent request (before.decide id found canonical) := by
  rcases consistent.posts id _ here with ⟨read, isStarted⟩
  unfold Service.decide
  split
  · rename_i isCanonical
    apply consistent.reply
    intro runId same
    cases same
    exact isStarted isCanonical
  · split
    · apply consistent.reply
      intro runId same
      cases same
    · split
      · apply consistent.moveTo
        exact read.holds
      · apply consistent.reply
        intro runId same
        cases same
    · rename_i notFailed notPending
      apply consistent.moveTo
      apply read.started
      cases isStatus : found.admissionStatus with
      | none => exact absurd isStatus read.recorded
      | some status =>
        cases status with
        | pending => exact absurd isStatus notPending
        | started => rfl
        | failed => exact absurd isStatus notFailed

theorem Consistent.prepared (here : before.posts id = some .preparing) :
    Consistent request ({ before with started := before.started ++ [id] }.moveTo id .starting) := by
  have holds : before.Holds request id := consistent.posts id _ here
  have kept : ∀ other ∈ before.started, other ∈ before.started ++ [id] :=
    fun _ member => List.mem_append_left _ member
  have grows : Grows request id before { before with started := before.started ++ [id] } :=
    .of_state rfl kept
  have longer : Consistent request { before with started := before.started ++ [id] } := by
    refine { consistent with
      recorded := ?_, posts := ?_, claimed := ?_, started := ?_, outcomes := ?_, answers := ?_ }
    · intro run isRun
      exact (consistent.recorded run isRun).grows grows
    · intro other phase isPhase
      by_cases isActor : other = id
      · subst isActor
        cases here.symm.trans isPhase
        exact holds
      · exact (consistent.posts other phase isPhase).grows grows isActor
    · intro other isClaimed
      exact kept _ (consistent.claimed other isClaimed)
    · intro other member
      rcases List.mem_append.1 member with early | isLast
      · exact consistent.started other early
      · rw [List.mem_singleton.1 isLast]
        exact holds
    · intro other isOk
      exact kept _ (consistent.outcomes other isOk)
    · intro other runId member
      exact kept _ (consistent.answers other runId member)
  apply longer.moveTo
  exact ⟨holds, List.mem_append_right _ (List.mem_singleton.2 rfl)⟩

theorem Consistent.settle (here : before.posts id = some (.settling outcome answer)) :
    Consistent request (before.settle id outcome answer) := by
  have fits := consistent.posts id _ here
  have settled : Consistent request
      { before with
        pending := Function.update before.pending id false
        outcomes := Function.update before.outcomes id (some outcome) } := by
    have grows : Grows request id before
        { before with
          pending := Function.update before.pending id false
          outcomes := Function.update before.outcomes id (some outcome) } :=
      .of_state rfl (fun _ member => member)
    refine { consistent with recorded := ?_, posts := ?_, outcomes := ?_ }
    · intro run isRun
      exact (consistent.recorded run isRun).grows grows
    · intro other phase isPhase
      by_cases isActor : other = id
      · subst isActor
        cases here.symm.trans isPhase
        exact fits
      · exact (consistent.posts other phase isPhase).grows grows isActor
    · intro other isOk
      change Function.update before.outcomes id (some outcome) other = some .ok at isOk
      by_cases isActor : other = id
      · subst isActor
        rw [Function.update_self] at isOk
        exact fits.2.1 (Option.some.inj isOk)
      · rw [Function.update_of_ne isActor] at isOk
        exact consistent.outcomes other isOk
  exact settled.reply fits.2.2

theorem Consistent.restart : Consistent request before.restart := by
  have grows : Grows request "" before before.restart := .of_state rfl (fun _ member => member)
  refine { consistent with recorded := ?_, posts := ?_, outcomes := ?_ }
  · intro run isRun
    exact (consistent.recorded run isRun).grows grows
  · intro id phase here
    cases here
  · intro id isOk
    cases isOk

theorem Consistent.claims (here : before.posts id = some .starting) :
    Consistent request { before with claimed := Function.update before.claimed id true } := by
  have fits := consistent.posts id _ here
  have grows : Grows request "" before
      { before with claimed := Function.update before.claimed id true } :=
    .of_state rfl (fun _ member => member)
  refine { consistent with recorded := ?_, posts := ?_, claimed := ?_ }
  · intro run isRun
    exact (consistent.recorded run isRun).grows grows
  · intro other phase isPhase
    have otherFits := consistent.posts other phase isPhase
    cases phase with
    | readingEvents found => exact Service.Read.grows otherFits grows
    | deciding found canonical => exact ⟨Service.Read.grows otherFits.1 grows, otherFits.2⟩
    | _ => exact otherFits
  · intro other isClaimed
    by_cases isActor : other = id
    · rw [isActor]
      exact fits.2
    · change Function.update before.claimed id true other = true at isClaimed
      rw [Function.update_of_ne isActor] at isClaimed
      exact consistent.claimed other isClaimed

end

theorem StartError.outcome_ne_ok (error : StartError) : error.outcome ≠ .ok := by
  intro isOk
  cases error with
  | http code => cases isOk
  | modelNotConfigured => cases isOk
  | other => cases isOk

theorem Consistent.step {event : Event} (consistent : Consistent request before)
    (taken : Step request before event after) : Consistent request after := by
  cases taken with
  | posted run candidate unused fresh =>
    apply consistent.moveTo
    exact ⟨rfl, unused, candidate⟩
  | lookedUp here => exact consistent.lookUp here
  | lookupFailed here =>
    apply consistent.reply
    intro runId isAccepted
    cases isAccepted
  | prepared here => exact consistent.prepared here
  | @prepareFailed id error here =>
    have fits : before.Holds request id := consistent.posts id _ here
    apply consistent.moveTo
    exact ⟨fits, error.outcome_ne_ok⟩
  | claimed here => exact consistent.claims here
  | @startReturned id here isClaimed =>
    have fits := consistent.posts id _ here
    apply consistent.moveTo
    exact fits
  | @startFailed id error here =>
    have fits := consistent.posts id _ here
    apply consistent.moveTo
    exact ⟨fits.1, error.outcome_ne_ok⟩
  | @markedStarted id state here marking =>
    have fits := consistent.posts id _ here
    rcases consistent.marked fits.1 (fun _ => fits.2) marking with ⟨marked, grows⟩
    apply marked.moveTo
    refine ⟨grows.holds _ fits.1, fun _ => fits.2, ?_⟩
    intro runId isAccepted
    cases isAccepted
    exact fits.2
  | @markStartedFailed id here =>
    have fits := consistent.posts id _ here
    apply consistent.moveTo
    refine ⟨fits.1, ?_⟩
    intro isOk
    cases isOk
  | @markedFailed id recorded outcome state here marking =>
    have fits := consistent.posts id _ here
    rcases consistent.marked fits.1 (fun isStarted => by cases isStarted) marking with
      ⟨marked, grows⟩
    apply marked.moveTo
    refine ⟨grows.holds _ fits.1, fun isOk => absurd isOk fits.2, ?_⟩
    intro runId isAccepted
    cases outcome with
    | ok => exact absurd rfl fits.2
    | failed statusCode code | persistFailed statusCode code => cases isAccepted
  | @markFailedFailed id recorded outcome here =>
    have fits := consistent.posts id _ here
    apply consistent.moveTo
    refine ⟨fits.1, ?_, ?_⟩
    · intro isOk
      cases isOk
    · intro runId isAccepted
      cases isAccepted
  | settled here => exact consistent.settle here
  | @eventsRead id found here =>
    apply consistent.moveTo
    exact ⟨consistent.posts id _ here, consistent.claimed _⟩
  | decided here => exact consistent.decide here
  | @outcomeSeen id runId outcome here resolved =>
    apply consistent.reply
    intro accepted isAccepted
    cases outcome with
    | ok =>
      cases isAccepted
      exact consistent.outcomes _ resolved
    | failed statusCode code | persistFailed statusCode code => cases isAccepted
  | @reread id runId here =>
    apply consistent.reply
    intro accepted isAccepted
    cases isAccepted
    exact consistent.posts id _ here
  | crashed => exact consistent.restart

/-! ### The failure that is recorded -/

def Service.Failed (request : WorkbenchRunRecord) (service : Service) (code : String) : Prop :=
  ∃ run, service.record request = some run ∧ run.admissionStatus = some .failed ∧
    run.admissionError = some code ∧ code ≠ "run_admission_pending"

def Service.Unsettled (request : WorkbenchRunRecord) (service : Service) : Prop :=
  ∀ run, service.record request = some run → run.admissionStatus = some .pending

def Service.Snapshot (request : WorkbenchRunRecord) (service : Service)
    (found : WorkbenchRunRecord) : Prop :=
  found.admissionStatus = some .failed →
    ∃ code, found.admissionError = some code ∧ service.Failed request code

def Phase.Agrees (request : WorkbenchRunRecord) (service : Service) (id : String) : Phase → Prop
  | .preparing => service.Unsettled request ∧ service.pending id = true
  | .starting => service.Unsettled request ∧ service.pending id = true
  | .markingStarted => service.Unsettled request ∧ service.pending id = true
  | .markingFailed recorded outcome =>
    (service.Unsettled request ∧ service.pending id = true) ∧
      recorded ≠ "run_admission_pending" ∧
      ∀ statusCode code, outcome = .failed statusCode code → recorded = code
  | .settling outcome answer =>
    (∀ statusCode code, outcome = .failed statusCode code → service.Failed request code) ∧
      ∀ statusCode code, answer = .refused statusCode code → service.Failed request code
  | .readingEvents found =>
    service.Snapshot request found ∧ (found.admissionStatus = some .pending →
      service.claimed found.runId = true ∨ service.pending found.runId = true)
  | .deciding found canonical =>
    service.Snapshot request found ∧ (found.admissionStatus = some .pending →
      canonical = false → service.pending found.runId = true)
  | _ => True

theorem Phase.Agrees.unsettled (agrees : phase.Agrees request service id)
    (unmarked : phase.unmarked = true) : service.Unsettled request ∧ service.pending id = true := by
  cases phase with
  | preparing => exact agrees
  | starting => exact agrees
  | markingStarted => exact agrees
  | markingFailed recorded outcome => exact agrees.1
  | _ => cases unmarked

theorem Phase.Fits.holds (fits : phase.Fits request service id) (unmarked : phase.unmarked = true) :
    service.Holds request id := by
  cases phase with
  | preparing => exact fits
  | starting => exact fits.1
  | markingStarted => exact fits.1
  | markingFailed recorded outcome => exact fits.1
  | _ => cases unmarked

structure Faithful (request : WorkbenchRunRecord) (service : Service) : Prop where
  /-- The admission goes on as long as the record is pending, or the run is claimed. -/
  underWay : ∀ run, service.record request = some run → run.admissionStatus = some .pending →
    service.claimed run.runId = true ∨
      ∃ phase, service.posts run.runId = some phase ∧ phase.unmarked = true
  failures : ∀ run, service.record request = some run → service.Snapshot request run
  posts : ∀ id phase, service.posts id = some phase → phase.Agrees request service id
  outcomes : ∀ id statusCode code, service.outcomes id = some (.failed statusCode code) →
    service.Failed request code
  answers : ∀ id statusCode code, (id, .refused statusCode code) ∈ service.answers →
    service.Failed request code

/-- What a step of the post `actor` leaves of the admission to the other posts. -/
structure Keeps (request : WorkbenchRunRecord) (actor : String) (before after : Service) :
    Prop where
  failed : ∀ code, before.Failed request code → after.Failed request code
  unsettled : ∀ id, id ≠ actor → before.Holds request id → before.Unsettled request →
    after.Unsettled request
  pending : ∀ id, before.pending id = true → after.pending id = true
  claimed : ∀ id, before.claimed id = true → after.claimed id = true

theorem Service.Snapshot.keeps (snapshot : before.Snapshot request found)
    (keeps : Keeps request actor before after) : after.Snapshot request found := by
  intro isFailed
  rcases snapshot isFailed with ⟨code, isError, failed⟩
  exact ⟨code, isError, keeps.failed code failed⟩

theorem Phase.Agrees.keeps (agrees : phase.Agrees request before id)
    (fits : phase.Fits request before id) (keeps : Keeps request actor before after)
    (other : id ≠ actor) : phase.Agrees request after id := by
  have stillOpen (unmarked : phase.unmarked = true) :
      after.Unsettled request ∧ after.pending id = true := by
    have early := agrees.unsettled unmarked
    exact ⟨keeps.unsettled id other (fits.holds unmarked) early.1, keeps.pending id early.2⟩
  cases phase with
  | lookingUp run => trivial
  | preparing | starting | markingStarted => exact stillOpen rfl
  | markingFailed recorded outcome => exact ⟨stillOpen rfl, agrees.2⟩
  | settling outcome answer =>
    refine ⟨?_, ?_⟩
    · intro statusCode code isFailed
      exact keeps.failed _ (agrees.1 statusCode code isFailed)
    · intro statusCode code isRefused
      exact keeps.failed _ (agrees.2 statusCode code isRefused)
  | readingEvents found =>
    refine ⟨agrees.1.keeps keeps, ?_⟩
    intro isPending
    rcases agrees.2 isPending with isClaimed | stillPending
    · exact Or.inl (keeps.claimed _ isClaimed)
    · exact Or.inr (keeps.pending _ stillPending)
  | deciding found canonical =>
    refine ⟨agrees.1.keeps keeps, ?_⟩
    intro isPending notCanonical
    exact keeps.pending _ (agrees.2 isPending notCanonical)
  | awaiting runId => trivial
  | rereading runId => trivial

section

variable (faithful : Faithful request before)

include faithful

theorem Faithful.moveTo (agrees : phase.Agrees request before id)
    (stays : ∀ old, before.posts id = some old → old.unmarked = true → phase.unmarked = true ∨ before.claimed id = true)
    :
    Faithful request (before.moveTo id phase) := by
  refine { faithful with underWay := ?_, posts := ?_ }
  · intro run isRun isPending
    rcases faithful.underWay run isRun isPending with isClaimed | ⟨old, isOld, unmarked⟩
    · exact Or.inl isClaimed
    · by_cases isActor : run.runId = id
      · subst isActor
        rcases stays old isOld unmarked with stillUnmarked | isClaimed
        · refine Or.inr ⟨phase, ?_, stillUnmarked⟩
          exact Function.update_self _ _ _
        · exact Or.inl isClaimed
      · refine Or.inr ⟨old, ?_, unmarked⟩
        change Function.update before.posts id (some phase) run.runId = some old
        rw [Function.update_of_ne isActor]
        exact isOld
  · apply posts_update
    · intro other phase' _ here
      have otherAgrees := faithful.posts other phase' here
      cases phase' with
      | _ => exact otherAgrees
    · intro phase' isPhase
      cases isPhase
      cases phase with
      | _ => exact agrees

theorem Faithful.reply (removes : ∀ old, before.posts id = some old → old.unmarked = false)
    (refuses : ∀ statusCode code, answer = .refused statusCode code → before.Failed request code) :
    Faithful request (before.reply id answer) := by
  refine { faithful with underWay := ?_, posts := ?_, answers := ?_ }
  · intro run isRun isPending
    rcases faithful.underWay run isRun isPending with isClaimed | ⟨old, isOld, unmarked⟩
    · exact Or.inl isClaimed
    · refine Or.inr ⟨old, ?_, unmarked⟩
      have notActor : run.runId ≠ id := by
        intro isActor
        rw [isActor] at isOld
        rw [removes old isOld] at unmarked
        cases unmarked
      change Function.update before.posts id none run.runId = some old
      rw [Function.update_of_ne notActor]
      exact isOld
  · apply posts_update
    · intro other phase' _ here
      have otherAgrees := faithful.posts other phase' here
      cases phase' with
      | _ => exact otherAgrees
    · intro phase' isPhase
      cases isPhase
  · intro other statusCode code member
    rcases List.mem_append.1 member with early | isLast
    · exact faithful.answers other statusCode code early
    · cases List.mem_singleton.1 isLast
      exact refuses statusCode code rfl

theorem Faithful.marked (consistent : Consistent request before) {old : Phase}
    (here : before.posts id = some old) (unmarked : old.unmarked = true)
    (marking : markRunAdmission id status error before.state = .ok state)
    (ended : status ≠ .pending)
    (fails : status = .failed → ∃ code, error = some code ∧ code ≠ "run_admission_pending")
    (settles : ∀ statusCode code, outcome = .failed statusCode code ∨ answer = .refused statusCode code → status = .failed ∧ error = some code) :
    Faithful request ({ before with state }.moveTo id (.settling outcome answer)) := by
  have wasOpen := (faithful.posts id old here).unsettled unmarked
  rcases (consistent.posts id old here).holds unmarked with ⟨run, isRun, rfl⟩
  rcases marked_found isRun (consistent.byId run isRun) marking with ⟨bySource, _⟩
  have failedIn (code : String) (isFailed : status = .failed) (isError : error = some code) :
      ({ before with state }.moveTo run.runId (.settling outcome answer)).Failed request code := by
    rcases fails isFailed with ⟨code', isCode, notPending⟩
    cases isError.symm.trans isCode
    refine ⟨_, bySource, ?_, ?_, notPending⟩
    · rw [isFailed]
      rfl
    · rw [isError]
      rfl
  have keeps : Keeps request run.runId before
      ({ before with state }.moveTo run.runId (.settling outcome answer)) := by
    refine ⟨?_, ?_, fun _ isPending => isPending, fun _ isClaimed => isClaimed⟩
    · rintro code ⟨failed, isFailed, hasFailed, _⟩
      rw [wasOpen.1 failed isFailed] at hasFailed
      cases hasFailed
    · intro other isOther holds
      exact absurd (holds.unique ⟨run, isRun, rfl⟩) isOther
  refine ⟨?_, ?_, ?_, ?_, ?_⟩
  · intro other isOther isPending
    cases bySource.symm.trans isOther
    exact absurd (Option.some.inj isPending) ended
  · intro other isOther isFailed
    cases bySource.symm.trans isOther
    have hasFailed := Option.some.inj isFailed
    rcases fails hasFailed with ⟨code, isCode, _⟩
    refine ⟨code, ?_, failedIn code hasFailed isCode⟩
    rw [isCode]
    rfl
  · apply posts_update
    · intro other phase isOther isPhase
      exact (faithful.posts other phase isPhase).keeps (consistent.posts other phase isPhase) keeps
        isOther
    · intro phase isPhase
      cases isPhase
      refine ⟨?_, ?_⟩
      · intro statusCode code isOutcome
        have settled := settles statusCode code (Or.inl isOutcome)
        exact failedIn code settled.1 settled.2
      · intro statusCode code isAnswer
        have settled := settles statusCode code (Or.inr isAnswer)
        exact failedIn code settled.1 settled.2
  · intro other statusCode code isOutcome
    exact keeps.failed code (faithful.outcomes other statusCode code isOutcome)
  · intro other statusCode code isAnswer
    exact keeps.failed code (faithful.answers other statusCode code isAnswer)

theorem Faithful.lookUp (consistent : Consistent request before)
    (here : before.posts id = some (.lookingUp run)) : Faithful request (before.lookUp id run) := by
  rcases consistent.posts id _ here with ⟨rfl, unused, candidate⟩
  cases isRecord : before.record request with
  | some found =>
    unfold Service.lookUp
    rw [createOrGetRun_existing candidate isRecord (consistent.identity found isRecord)]
    apply faithful.moveTo
    · refine ⟨faithful.failures found isRecord, ?_⟩
      intro isPending
      rcases faithful.underWay found isRecord isPending with isClaimed | ⟨old, isOld, unmarked⟩
      · exact Or.inl isClaimed
      · exact Or.inr ((faithful.posts _ old isOld).unsettled unmarked).2
    · intro old isOld unmarked
      cases here.symm.trans isOld
      cases unmarked
  | none =>
    rcases created_found (touchSession run before.state.sessions) candidate isRecord unused with
      ⟨bySource, _⟩
    unfold Service.lookUp
    rw [createOrGetRun_created candidate isRecord unused]
    dsimp only
    have keeps : Keeps request run.runId before
        ({ before with
          state :=
            { sessions := touchSession run before.state.sessions
              runs := before.state.runs ++ [run] }
          pending := Function.update before.pending run.runId true }.moveTo run.runId
            .preparing) := by
      refine ⟨?_, ?_, ?_, fun _ isClaimed => isClaimed⟩
      · rintro code ⟨failed, isFailed, _⟩
        rw [isRecord] at isFailed
        cases isFailed
      · rintro other _ ⟨found, isFound, _⟩
        rw [isRecord] at isFound
        cases isFound
      · intro other isPending
        change Function.update before.pending run.runId true other = true
        by_cases isActor : other = run.runId
        · rw [isActor, Function.update_self]
        · rw [Function.update_of_ne isActor]
          exact isPending
    refine ⟨?_, ?_, ?_, ?_, ?_⟩
    · intro other isOther _
      cases bySource.symm.trans isOther
      exact Or.inr ⟨.preparing, Function.update_self _ _ _, rfl⟩
    · intro other isOther isFailed
      cases bySource.symm.trans isOther
      rw [candidate.pending] at isFailed
      cases isFailed
    · apply posts_update
      · intro other phase isOther isPhase
        exact (faithful.posts other phase isPhase).keeps (consistent.posts other phase isPhase)
          keeps isOther
      · intro phase isPhase
        cases isPhase
        refine ⟨?_, Function.update_self _ _ _⟩
        intro other isOther
        cases bySource.symm.trans isOther
        exact candidate.pending
    · intro other statusCode code isOutcome
      exact keeps.failed code (faithful.outcomes other statusCode code isOutcome)
    · intro other statusCode code isAnswer
      exact keeps.failed code (faithful.answers other statusCode code isAnswer)

theorem Faithful.decide {canonical : Bool}
    (here : before.posts id = some (.deciding found canonical)) :
    Faithful request (before.decide id found canonical) := by
  rcases faithful.posts id _ here with ⟨snapshot, stillPending⟩
  have notUnmarked : ∀ old, before.posts id = some old → old.unmarked = false := by
    intro old isOld
    cases here.symm.trans isOld
    rfl
  have notCreator : ∀ (phase old : Phase), before.posts id = some old → old.unmarked = true →
      phase.unmarked = true ∨ before.claimed id = true := by
    intro phase old isOld unmarked
    rw [notUnmarked old isOld] at unmarked
    cases unmarked
  unfold Service.decide
  split
  · apply faithful.reply notUnmarked
    intro statusCode code isRefused
    cases isRefused
  · rename_i notCanonical
    split
    · rename_i isFailed
      rcases snapshot isFailed with ⟨code', isError, failed⟩
      apply faithful.reply notUnmarked
      intro statusCode code isRefused
      rw [isError] at isRefused
      cases isRefused
      exact failed
    · rename_i isPending
      rw [if_pos (stillPending isPending (Bool.eq_false_iff.2 notCanonical))]
      exact faithful.moveTo trivial (notCreator _)
    · exact faithful.moveTo trivial (notCreator _)

end

/-- Another post still holds the record as it was while the admission went on. -/
def Service.Overtaken (service : Service) (id : String) : Prop :=
  ∃ other found, found.runId = id ∧ found.admissionStatus = some .pending ∧
    (service.posts other = some (.deciding found false) ∨
      service.posts other = some (.readingEvents found) ∧ service.claimed id = false)

theorem Faithful.settle (faithful : Faithful request before)
    (here : before.posts id = some (.settling outcome answer))
    (notOvertaken : ¬ before.Overtaken id) :
    Faithful request (before.settle id outcome answer) := by
  have fits := faithful.posts id _ here
  have settled : Faithful request
      { before with
        pending := Function.update before.pending id false
        outcomes := Function.update before.outcomes id (some outcome) } := by
    refine { faithful with posts := ?_, outcomes := ?_ }
    · intro other phase isPhase
      have agrees := faithful.posts other phase isPhase
      have stillPending (runId : String) (isOther : runId ≠ id)
          (isPending : before.pending runId = true) :
          Function.update before.pending id false runId = true := by
        rw [Function.update_of_ne isOther]
        exact isPending
      have notActor (unmarked : phase.unmarked = true) : other ≠ id := by
        intro isActor
        rw [isActor] at isPhase
        cases here.symm.trans isPhase
        cases unmarked
      cases phase with
      | preparing | starting | markingStarted =>
        exact ⟨agrees.1, stillPending _ (notActor rfl) agrees.2⟩
      | markingFailed recorded outcome' =>
        exact ⟨⟨agrees.1.1, stillPending _ (notActor rfl) agrees.1.2⟩, agrees.2⟩
      | readingEvents found =>
        refine ⟨agrees.1, ?_⟩
        intro isPending
        by_cases isActor : found.runId = id
        · left
          cases isClaimed : before.claimed found.runId with
          | true => rfl
          | false =>
            rw [isActor] at isClaimed
            exact absurd ⟨other, found, isActor, isPending, Or.inr ⟨isPhase, isClaimed⟩⟩
              notOvertaken
        · rcases agrees.2 isPending with isClaimed | wasPending
          · exact Or.inl isClaimed
          · exact Or.inr (stillPending _ isActor wasPending)
      | deciding found canonical =>
        refine ⟨agrees.1, ?_⟩
        intro isPending notCanonical
        refine stillPending _ ?_ (agrees.2 isPending notCanonical)
        intro isActor
        rw [notCanonical] at isPhase
        exact notOvertaken ⟨other, found, isActor, isPending, Or.inl isPhase⟩
      | _ => exact agrees
    · intro other statusCode code isOutcome
      change Function.update before.outcomes id (some outcome) other = _ at isOutcome
      by_cases isActor : other = id
      · subst isActor
        rw [Function.update_self] at isOutcome
        exact fits.1 statusCode code (Option.some.inj isOutcome)
      · rw [Function.update_of_ne isActor] at isOutcome
        exact faithful.outcomes other statusCode code isOutcome
  apply settled.reply
  · intro old isOld
    cases here.symm.trans isOld
    rfl
  · exact fits.2

theorem Faithful.claims (faithful : Faithful request before) :
    Faithful request { before with claimed := Function.update before.claimed id true } := by
  have keeps : Keeps request "" before
      { before with claimed := Function.update before.claimed id true } := by
    refine ⟨fun _ failed => failed, fun _ _ _ unsettled => unsettled, fun _ isPending => isPending,
      ?_⟩
    intro other isClaimed
    change Function.update before.claimed id true other = true
    by_cases isActor : other = id
    · rw [isActor, Function.update_self]
    · rw [Function.update_of_ne isActor]
      exact isClaimed
  refine { faithful with underWay := ?_, posts := ?_ }
  · intro run isRun isPending
    rcases faithful.underWay run isRun isPending with isClaimed | creator
    · exact Or.inl (keeps.claimed _ isClaimed)
    · exact Or.inr creator
  · intro other phase isPhase
    have agrees := faithful.posts other phase isPhase
    cases phase with
    | readingEvents found =>
      refine ⟨agrees.1, ?_⟩
      intro isPending
      rcases agrees.2 isPending with isClaimed | stillPending
      · exact Or.inl (keeps.claimed _ isClaimed)
      · exact Or.inr stillPending
    | _ => exact agrees

theorem Faithful.restart (faithful : Faithful request before)
    (recovered : ∀ run, before.record request = some run → run.admissionStatus = some .pending →
      before.claimed run.runId = true) : Faithful request before.restart := by
  refine { faithful with underWay := ?_, posts := ?_, outcomes := ?_ }
  · intro run isRun isPending
    exact Or.inl (recovered run isRun isPending)
  · intro id phase here
    cases here
  · intro id statusCode code isOutcome
    cases isOutcome

/-- The moves after which the answers may no longer agree with the record: the
admission fails in another way than it is recorded, or the failure is not
recorded, or the host stops before the admission is recorded or claimed, or
another post still holds the record as it was. -/
def Orderly (request : WorkbenchRunRecord) (before : Service) : Event → Prop
  | .prepareFailed _ error => error = .modelNotConfigured
  | .startFailed _ error => error = .modelNotConfigured
  | .markFailedFailed id => before.claimed id = true
  | .settled id => ¬ before.Overtaken id
  | .crashed =>
    ∀ run, before.record request = some run → run.admissionStatus = some .pending →
      before.claimed run.runId = true
  | _ => True

theorem modelNotConfigured_agrees (isOpen : service.Unsettled request ∧ service.pending id = true) :
    Phase.Agrees request service id
      (.markingFailed StartError.modelNotConfigured.failureCode
        StartError.modelNotConfigured.outcome) := by
  refine ⟨isOpen, ?_, ?_⟩
  · decide
  · intro statusCode code isFailed
    cases isFailed
    rfl

theorem Faithful.step {event : Event} (faithful : Faithful request before)
    (consistent : Consistent request before) (taken : Step request before event after)
    (orderly : Orderly request before event) : Faithful request after := by
  cases taken with
  | posted run candidate unused fresh =>
    apply faithful.moveTo
    · trivial
    intro old isOld _
    rw [fresh] at isOld
    cases isOld
  | lookedUp here => exact faithful.lookUp consistent here
  | lookupFailed here | reread here =>
    apply faithful.reply
    · intro old isOld
      cases here.symm.trans isOld
      rfl
    · intro statusCode code isRefused
      cases isRefused
  | @prepared id here =>
    have agrees := faithful.posts id _ here
    have longer : Faithful request { before with started := before.started ++ [id] } := by
      refine { faithful with posts := ?_ }
      intro other phase isPhase
      have otherAgrees := faithful.posts other phase isPhase
      cases phase with
      | _ => exact otherAgrees
    exact longer.moveTo agrees (fun _ _ _ => Or.inl rfl)
  | @prepareFailed id error here | @startFailed id error here =>
    have agrees := faithful.posts id _ here
    cases orderly
    exact faithful.moveTo (modelNotConfigured_agrees agrees) (fun _ _ _ => Or.inl rfl)
  | claimed here => exact faithful.claims
  | @startReturned id here isClaimed =>
    have agrees := faithful.posts id _ here
    exact faithful.moveTo agrees (fun _ _ _ => Or.inl rfl)
  | markedStarted here marking =>
    apply faithful.marked consistent here rfl marking
    · intro isPending
      cases isPending
    · intro isFailed
      cases isFailed
    · rintro statusCode code (isOutcome | isAnswer)
      · cases isOutcome
      · cases isAnswer
  | @markStartedFailed id here =>
    have agrees := faithful.posts id _ here
    apply faithful.moveTo _ (fun _ _ _ => Or.inl rfl)
    refine ⟨agrees, ?_, ?_⟩
    · decide
    · intro statusCode code isFailed
      cases isFailed
  | @markedFailed id recorded outcome state here marking =>
    have agrees := faithful.posts id _ here
    apply faithful.marked consistent here rfl marking
    · intro isPending
      cases isPending
    · intro _
      exact ⟨recorded, rfl, agrees.2.1⟩
    · intro statusCode code isSettled
      refine ⟨rfl, ?_⟩
      rw [agrees.2.2 statusCode code]
      rcases isSettled with isOutcome | isAnswer
      · exact isOutcome
      · cases outcome with
        | ok | persistFailed otherStatus otherCode => cases isAnswer
        | failed otherStatus otherCode =>
          cases isAnswer
          rfl
  | @markFailedFailed id recorded outcome here =>
    apply faithful.moveTo
    · refine ⟨?_, ?_⟩
      · intro statusCode code isFailed
        cases isFailed
      · intro statusCode code isRefused
        cases isRefused
    · intro old isOld unmarked
      exact Or.inr orderly
  | settled here => exact faithful.settle here orderly
  | @eventsRead id found here =>
    have agrees := faithful.posts id _ here
    apply faithful.moveTo
    · refine ⟨agrees.1, ?_⟩
      intro isPending notCanonical
      rcases agrees.2 isPending with isClaimed | stillPending
      · rw [isClaimed] at notCanonical
        cases notCanonical
      · exact stillPending
    · intro old isOld unmarked
      cases here.symm.trans isOld
      cases unmarked
  | decided here => exact faithful.decide here
  | @outcomeSeen id runId outcome here resolved =>
    apply faithful.reply
    · intro old isOld
      cases here.symm.trans isOld
      rfl
    · intro statusCode code isRefused
      cases outcome with
      | ok | persistFailed otherStatus otherCode => cases isRefused
      | failed otherStatus otherCode =>
        cases isRefused
        exact faithful.outcomes _ _ _ resolved
  | crashed => exact faithful.restart orderly

/-! ### Every run of posts -/

theorem consistent_initial
    (absent : state.runOfSource request.sessionId request.sourceEventId = none) :
    Consistent request (initial state) := by
  have noRecord : ∀ run, (initial state).record request ≠ some run := by
    intro run isRun
    cases absent.symm.trans isRun
  refine ⟨fun run isRun => absurd isRun (noRecord run), fun run isRun => absurd isRun (noRecord run),
    fun run isRun => absurd isRun (noRecord run), ?_, ?_, ?_, ?_, ?_⟩
  · intro id phase here
    cases here
  · intro id isClaimed
    cases isClaimed
  · intro id member
    cases member
  · intro id isOk
    cases isOk
  · intro id runId member
    cases member

theorem faithful_initial (absent : state.runOfSource request.sessionId request.sourceEventId = none) :
    Faithful request (initial state) := by
  have noRecord : ∀ run, (initial state).record request ≠ some run := by
    intro run isRun
    cases absent.symm.trans isRun
  refine ⟨fun run isRun => absurd isRun (noRecord run), fun run isRun => absurd isRun (noRecord run),
    ?_, ?_, ?_⟩
  · intro id phase here
    cases here
  · intro id statusCode code isOutcome
    cases isOutcome
  · intro id statusCode code member
    cases member

variable {trace : List (Move Service Event)}

theorem consistent_run {first last : Service} (run : Run (Step request) first trace last)
    (consistent : Consistent request first) :
    Consistent request last :=
  run.invariant (Consistent request) (fun _ _ _ taken held => held.step taken) consistent

theorem faithful_run {first last : Service} (run : Run (Step request) first trace last)
    (orderly : ∀ move ∈ trace, Orderly request move.before move.label)
    (consistent : Consistent request first) (faithful : Faithful request first) :
    Faithful request last := by
  have both : Consistent request last ∧ Faithful request last := by
    apply run.keeps (fun service => Consistent request service ∧ Faithful request service)
    · intro move member taken held
      exact ⟨held.1.step taken, held.2.step held.1 taken (orderly move member)⟩
    · exact ⟨consistent, faithful⟩
  exact both.2

/-- However the posts of one run interleave, fail and are cut short, at most one
run is started, and it is the one that every accepted post is told.  While all
moves are orderly, what a refused post is told is the recorded failure. -/
theorem submission_starts_one_run {state : WorkbenchState} {trace : List (Move Service Event)}
    {last : Service}
    (absent : state.runOfSource request.sessionId request.sourceEventId = none)
    (run : Run (Step request) (initial state) trace last) :
    (∀ id ∈ last.started, ∀ other ∈ last.started, id = other) ∧
      (∀ id runId, (id, .accepted runId) ∈ last.answers → runId ∈ last.started) ∧
      ((∀ move ∈ trace, Orderly request move.before move.label) →
        ∀ id statusCode code, (id, .refused statusCode code) ∈ last.answers →
          (∃ record, last.record request = some record ∧
            record.admissionStatus = some .failed ∧ record.admissionError = some code) ∧
          code ≠ "run_admission_pending") := by
  have consistent := consistent_run run (consistent_initial absent)
  refine ⟨?_, consistent.answers, ?_⟩
  · intro id member other otherMember
    exact (consistent.started id member).unique (consistent.started other otherMember)
  · intro orderly id statusCode code member
    have faithful := faithful_run run orderly (consistent_initial absent) (faithful_initial absent)
    rcases faithful.answers id statusCode code member with
      ⟨record, isRecord, isFailed, isError, notPending⟩
    exact ⟨⟨record, isRecord, isFailed, isError⟩, notPending⟩

def submittedRun (runId : String) : WorkbenchRunRecord :=
  { runId
    sessionId := "session"
    workspaceId := "workspace"
    actorUserId := "user"
    channelId := "channel"
    projectId := none
    parentRunId := none
    surface := "product-chat"
    prompt := "Draft the summary."
    sourceEventId := "event"
    sourceEventDerived := none
    resourceRefs := []
    skillId := none
    agentId := none
    modelProfileId := none
    requestedArtifact := none
    conversationId := "session"
    conversationSource := none
    createdAt := "2026-01-01T00:00:00.000Z"
    updatedAt := "2026-01-01T00:00:00.000Z"
    admissionStatus := some .pending
    admissionError := none
    permissionMode := none
    goalId := none
    trigger := none }

theorem submittedRun_candidate (runId : String) :
    Candidate (submittedRun "first") (submittedRun runId) :=
  ⟨rfl, rfl, rfl⟩

theorem moveTo_posts_of_ne (isOther : other ≠ id) :
    (service.moveTo id phase).posts other = service.posts other :=
  Function.update_of_ne isOther _ _

theorem lookUp_posts_of_ne (isOther : other ≠ id) :
    (service.lookUp id run).posts other = service.posts other := by
  unfold Service.lookUp
  split
  · exact moveTo_posts_of_ne isOther
  · exact moveTo_posts_of_ne isOther
  · exact Function.update_of_ne isOther _ _

/-- The run of a first post that is refused for want of a model. -/
theorem submission_starts_one_run_refused :
    ∃ trace last, Run (Step (submittedRun "first")) (initial .empty) trace last ∧
      ("first", .refused 409 "model_not_configured") ∈ last.answers ∧
      (∃ record, last.record (submittedRun "first") = some record ∧
        record.admissionStatus = some .failed ∧
        record.admissionError = some "model_not_configured") := by
  have run : Run (Step (submittedRun "first")) (initial .empty) _ _ :=
    .cons (.posted (submittedRun "first") (submittedRun_candidate "first") List.not_mem_nil rfl)
      (.cons (@Step.lookedUp _ _ "first" (submittedRun "first") rfl)
        (.cons (@Step.prepareFailed _ _ "first" .modelNotConfigured rfl)
          (.cons (@Step.markedFailed _ _ "first" "model_not_configured"
              (.failed 409 "model_not_configured") _ rfl rfl)
            (.cons (@Step.settled _ _ "first" (.failed 409 "model_not_configured")
                (.refused 409 "model_not_configured") rfl) (.nil _)))))
  refine ⟨_, _, run, List.mem_singleton.2 rfl, ?_⟩
  refine ((submission_starts_one_run rfl run).2.2 ?_ _ _ _ (List.mem_singleton.2 rfl)).1
  intro move member
  simp only [List.mem_cons, List.not_mem_nil, or_false] at member
  rcases member with rfl | rfl | rfl | rfl | rfl
  · trivial
  · trivial
  · rfl
  · trivial
  · rintro ⟨other, found, _, _, isOther⟩
    by_cases isFirst : other = "first"
    · subst isFirst
      rcases isOther with isDeciding | ⟨isReading, _⟩
      · cases isDeciding
      · cases isReading
    · have noPost (phase : Phase) (later : WorkbenchState) :
          Service.posts (.moveTo { ((((initial .empty).moveTo "first"
              (.lookingUp (submittedRun "first"))).lookUp "first" (submittedRun "first")).moveTo
                "first" (.markingFailed "model_not_configured"
                  (.failed 409 "model_not_configured"))) with state := later } "first" phase)
            other = none := by
        rw [moveTo_posts_of_ne isFirst]
        change Service.posts (.moveTo _ _ _) other = none
        rw [moveTo_posts_of_ne isFirst, lookUp_posts_of_ne isFirst, moveTo_posts_of_ne isFirst]
        rfl
      rcases isOther with isDeciding | ⟨isReading, _⟩
      · cases (noPost _ _).symm.trans isDeciding
      · cases (noPost _ _).symm.trans isReading

/-- The host stops when the record has been written; the post that follows finds
the admission pending for ever. -/
theorem crash_leaves_the_admission_pending :
    ∃ trace last, Run (Step (submittedRun "first")) (initial .empty) trace last ∧
      trace.map Move.label = [.posted "first", .lookedUp "first", .crashed, .posted "second",
        .lookedUp "second", .eventsRead "second", .decided "second"] ∧
      last.answers = [("second", .refused 409 "run_admission_pending")] ∧ last.started = [] := by
  refine ⟨_, _,
    .cons (.posted (submittedRun "first") (submittedRun_candidate "first") List.not_mem_nil rfl)
      (.cons (@Step.lookedUp _ _ "first" (submittedRun "first") rfl)
        (.cons .crashed
          (.cons (.posted (submittedRun "second") (submittedRun_candidate "second") ?_ rfl)
            (.cons (@Step.lookedUp _ _ "second" (submittedRun "second") rfl)
              (.cons (@Step.eventsRead _ _ "second" (submittedRun "first") rfl)
                (.cons (@Step.decided _ _ "second" (submittedRun "first") false rfl)
                  (.nil _))))))), ?_, ?_, ?_⟩
  · decide
  · rfl
  · rfl
  · rfl

end AnnaAgent.Host.Admission
