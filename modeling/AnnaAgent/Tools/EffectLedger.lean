/-
The ledger of an effect over whole runs.

The stream of an effect is empty, or begins with a started event that is
recorded for one call, with one terminal event after it at most.  What an
execution may append, when it may call the sandbox and how it may end is a
contract; the executions keep it whatever the others do in between.
-/

import AnnaAgent.Tools.EffectReplay
import AnnaAgent.Tools.SandboxOnce

namespace AnnaAgent.Tools

open Foundation EventStore

def terminalTypes : List String :=
  ["tool.effect.succeeded", "tool.effect.failed", "tool.effect.unknown", "tool.effect.cancelled"]

/-- The entry is the started event of the call, first in the stream of its
effect. -/
def RecordedFor (digest : String → String) (streamId : StreamId) (entry : Entry) (cause : Cause) :
    Prop :=
  ∃ replayPolicy effectKey id timestamp,
    cause.replayPolicy = some replayPolicy ∧ cause.request.effectKey = some effectKey ∧
      streamId = effectStreamId effectKey ∧
      entry = ⟨startedEvent digest cause.request replayPolicy effectKey id timestamp 0, some cause⟩

inductive EffectHistory (digest : String → String) (streamId : StreamId) : List Entry → Prop
  | unstarted : EffectHistory digest streamId []
  | started {entry : Entry} {cause : Cause} (recorded : RecordedFor digest streamId entry cause) :
      EffectHistory digest streamId [entry]
  | finished {entry terminal : Entry} {cause : Cause}
      (recorded : RecordedFor digest streamId entry cause)
      (isTerminal : terminal.event.type ∈ terminalTypes) :
      EffectHistory digest streamId [entry, terminal]

variable {streamId : StreamId}

theorem RecordedFor.isStarted {digest : String → String} {entry : Entry} {cause : Cause}
    (recorded : RecordedFor digest streamId entry cause) :
    entry.event.type = "tool.effect.started" ∧ entry.event.seq = 0 ∧ entry.cause = some cause := by
  rcases recorded with ⟨_, _, _, _, _, _, _, isEntry⟩
  rw [isEntry]
  exact ⟨rfl, rfl, rfl⟩

theorem EffectHistory.started_unique {digest : String → String} {entries : List Entry}
    (history : EffectHistory digest streamId entries) {entry : Entry} (member : entry ∈ entries)
    (isStarted : entry.event.type = "tool.effect.started") :
    ∃ cause rest, entries = entry :: rest ∧ RecordedFor digest streamId entry cause := by
  cases history with
  | unstarted => exact absurd member List.not_mem_nil
  | started recorded =>
    rw [List.mem_singleton.1 member]
    exact ⟨_, _, rfl, recorded⟩
  | @finished first terminal cause recorded isTerminal =>
    rcases List.mem_cons.1 member with isFirst | isLast
    · rw [isFirst]
      exact ⟨_, _, rfl, recorded⟩
    · rw [List.mem_singleton.1 isLast] at isStarted
      rw [isStarted] at isTerminal
      exact absurd isTerminal (by decide)

theorem EffectHistory.head {digest : String → String} {entries : List Entry}
    (history : EffectHistory digest streamId entries) (nonempty : entries ≠ []) :
    ∃ entry ∈ entries, entry.event.type = "tool.effect.started" ∧ entry.event.seq = 0 := by
  cases history with
  | unstarted => exact absurd rfl nonempty
  | started recorded | finished recorded isTerminal =>
    exact ⟨_, List.mem_cons_self, recorded.isStarted.1, recorded.isStarted.2.1⟩

def Cause.executionKey (digest : String → String) (cause : Cause) : String :=
  match cause.request.effectKey, cause.replayPolicy with
  | some effectKey, some replayPolicy =>
    Tools.executionKey cause.request replayPolicy effectKey
      (effectIntentHash digest cause.request replayPolicy)
  | _, _ => ""

def World.Known (world : World) (cause : Cause) : Prop :=
  ∃ execution ∈ world.executions, execution.cause = cause

/-- How an execution may end: with a result only when the started event of the
stream is its own, or with a conflict; and with an error only when it agrees
with every started event that was recorded when it was entered. -/
def Fits (digest : String → String) (cause : Cause) (recorded : List Entry)
    (outcome : Except Thrown ToolResult) (world : World) : Prop :=
  match outcome with
  | .ok result =>
    ∀ effectKey, cause.request.effectKey = some effectKey →
      ∃ started ∈ world.entries (effectStreamId effectKey),
        started.event.type = "tool.effect.started" ∧
          (matchesCause digest started.event cause = true ∨ result = effectKeyConflict)
  | .error _ =>
    ∀ started ∈ recorded, started.event.type = "tool.effect.started" →
      matchesCause digest started.event cause = true

structure LedgerInv (digest : String → String) (world : World) : Prop where
  histories : ∀ streamId, EffectHistory digest streamId (world.entries streamId)
  known : ∀ streamId, ∀ entry ∈ world.entries streamId,
    ∃ cause, entry.cause = some cause ∧ world.Known cause
  settled : ∀ execution ∈ world.executions, ∀ outcome, execution.outcome = some outcome →
    Fits digest execution.cause execution.recorded outcome world
  inFlight : ∀ seam, ∀ entry ∈ world.inFlight seam, ∃ execution,
    world.executions[entry.2]? = some execution ∧ entry.1 = execution.cause.executionKey digest
  joined : ∀ joined ∈ world.joins, joined.cause.replayPolicy ≠ none ∧ ∃ execution,
    world.executions[joined.execution]? = some execution ∧
      joined.cause.executionKey digest = execution.cause.executionKey digest

def LedgerAllows (digest : String → String) : Request → World → Prop
  | .append event cause, world =>
    ∃ own, cause = some own ∧ world.Known own ∧
      (RecordedFor digest event.streamId ⟨event, cause⟩ own ∨
        (event.type ∈ terminalTypes ∧ event.seq = 1))
  | .sandboxExecute request replayPolicy, world =>
    replayPolicy ≠ none ∧ ∃ effectKey, request.effectKey = some effectKey ∧
      ∃ started ∈ world.entries (effectStreamId effectKey),
        started.event.type = "tool.effect.started" ∧
          started.cause = some ⟨request, replayPolicy⟩
  | .coordinate key cause, _ => cause.replayPolicy ≠ none ∧ key = cause.executionKey digest
  | .settle id outcome, world => ∀ execution, world.executions[id]? = some execution →
      Fits digest execution.cause execution.recorded outcome world
  | _, _ => True

theorem known_later {before after : World} {cause : Cause} (later : Later before after)
    (known : before.Known cause) : after.Known cause := by
  rcases known with ⟨execution, member, isCause⟩
  obtain ⟨id, found⟩ := List.mem_iff_getElem?.1 member
  obtain ⟨execution', found', sameCause, _⟩ := later.executions found
  exact ⟨execution', List.mem_of_getElem? found', sameCause.trans isCause⟩

variable {outcome : Except Thrown ToolResult}

theorem fits_later {digest : String → String} {before after : World} {cause : Cause}
    {recorded : List Entry} (later : Later before after)
    (fits : Fits digest cause recorded outcome before) :
    Fits digest cause recorded outcome after := by
  cases outcome with
  | error error => exact fits
  | ok result =>
    intro effectKey isKey
    rcases fits effectKey isKey with ⟨started, member, isStarted, agrees⟩
    exact ⟨started, (later.streams _).subset member, isStarted, agrees⟩

def Cause.recorded (digest : String → String) (durableEvents : List Event) (cause : Cause) :
    Recorded :=
  match cause.request.effectKey, cause.replayPolicy with
  | some effectKey, some replayPolicy =>
    recordedEffect durableEvents cause.request replayPolicy effectKey
      (effectIntentHash digest cause.request replayPolicy)
  | _, _ => .unrecorded

/-- From the events the durable path replays an outcome for the call, without a conflict. -/
structure Recalls (digest : String → String) (durableEvents : List Event) (cause : Cause)
    (replayed : ToolResult) : Prop where
  agrees : ∀ event ∈ durableEvents, event.type = "tool.effect.started" →
    matchesCause digest event cause = true
  replays : cause.recorded digest durableEvents = .result replayed

/-- How an execution ends that meets no conflict. -/
def Replayed (digest : String → String) (cause : Cause) (outcome : Except Thrown ToolResult)
    (world : World) : Prop :=
  ∀ result, outcome = .ok result → ∀ effectKey, cause.request.effectKey = some effectKey →
    (∀ event ∈ (world.streams (effectStreamId effectKey)).events,
      event.type = "tool.effect.started" → matchesCause digest event cause = true) →
    ∃ replayed, Recalls digest (world.streams (effectStreamId effectKey)).events cause replayed ∧
      Replays result replayed

section Replayed

variable {digest : String → String} {cause : Cause}

theorem entries_eq_streams (world : World) (streamId : StreamId) :
    (world.streams streamId).events = (world.entries streamId).map Entry.event := rfl

theorem final_of_recalls {entries longer : List Entry} {replayed : ToolResult}
    (history : EffectHistory digest streamId entries)
    (recalls : Recalls digest (entries.map Entry.event) cause replayed)
    (isLonger : entries <+: longer) (later : EffectHistory digest streamId longer) :
    longer = entries := by
  have replays := recalls.replays
  unfold Cause.recorded at replays
  split at replays
  · rename_i effectKey replayPolicy _ isPolicy
    cases history with
    | unstarted => cases replays
    | started recorded =>
      have isMatch := recalls.agrees _ (List.mem_singleton_self _) recorded.isStarted.1
      unfold matchesCause at isMatch
      rw [isPolicy] at isMatch
      rw [List.map_singleton, recordedEffect_started recorded.isStarted.1 isMatch] at replays
      cases replays
    | finished recorded isTerminal =>
      rcases isLonger with ⟨rest, rfl⟩
      cases later with
      | finished _ _ => rfl
  · cases replays

theorem replayed_later {before after : World} (later : Later before after)
    (inv : LedgerInv digest before) (invAfter : LedgerInv digest after)
    (replayed : Replayed digest cause outcome before) : Replayed digest cause outcome after := by
  intro result isResult effectKey isKey agrees
  have isLonger := later.streams (effectStreamId effectKey)
  rcases replayed result isResult effectKey isKey (by
    intro event member
    apply agrees event
    rw [entries_eq_streams] at member ⊢
    exact (isLonger.map Entry.event).subset member) with ⟨reused, recalls, replays⟩
  have same := final_of_recalls (inv.histories _) recalls isLonger (invAfter.histories _)
  refine ⟨reused, ?_, replays⟩
  rw [entries_eq_streams, same]
  exact recalls

end Replayed

section Keeps

variable {digest : String → String} {before after : World}

theorem inFlight_index {world : World} {id : ExecutionId} {key : String}
    (later : Later before world)
    (entered : ∃ execution, before.executions[id]? = some execution ∧
      key = execution.cause.executionKey digest) :
    ∃ execution, world.executions[id]? = some execution ∧
      key = execution.cause.executionKey digest := by
  rcases entered with ⟨execution, found, isKey⟩
  obtain ⟨execution', found', sameCause, _⟩ := later.executions found
  exact ⟨execution', found', by rw [sameCause, isKey]⟩

section

variable (inv : LedgerInv digest before)

include inv

theorem append_keeps {env : Env} {event : Event} {cause : Option Cause}
    (allowed : LedgerAllows digest (.append event cause) before) :
    LedgerInv digest (before.appendEntry env event cause).2 := by
  have later := appendEntry_later before env event cause
  rcases appendEntry_cases before env event cause with
    ⟨same, _⟩ | ⟨atEnd, stream, isAppended, isAfter⟩
  · rw [same]
    exact inv
  · rcases allowed with ⟨own, isOwn, known, kind⟩
    have sameExecutions : (before.appendEntry env event cause).2.executions = before.executions := by
      rw [isAfter]
    have sameJoins : (before.appendEntry env event cause).2.joins = before.joins := by
      rw [isAfter]
    have sameInFlight : (before.appendEntry env event cause).2.inFlight = before.inFlight := by
      rw [isAfter]
    refine ⟨?_, ?_, ?_, ?_, ?_⟩
    · intro streamId
      rw [isAfter, entries_update]
      by_cases same : streamId = event.streamId
      · rw [if_pos same, isAppended, same]
        rcases kind with recorded | ⟨isTerminal, isSecond⟩
        · have isFirst : event.seq = 0 := recorded.isStarted.2.1
          have isEmpty : before.entries event.streamId = [] :=
            List.length_eq_zero_iff.1 (atEnd.symm.trans isFirst)
          rw [isEmpty]
          exact .started recorded
        · have history := inv.histories event.streamId
          rw [isSecond] at atEnd
          cases held : before.entries event.streamId with
          | nil =>
            rw [held] at atEnd
            cases atEnd
          | cons entry rest =>
            rw [held] at atEnd history
            cases history with
            | started recorded => exact .finished recorded isTerminal
            | finished recorded _ => cases atEnd
      · rw [if_neg same]
        exact inv.histories streamId
    · intro streamId entry member
      rw [isAfter, entries_update] at member
      by_cases same : streamId = event.streamId
      · rw [if_pos same, isAppended] at member
        rcases List.mem_append.1 member with old | isNew
        · rcases inv.known _ entry old with ⟨oldCause, isOld, oldKnown⟩
          exact ⟨oldCause, isOld, known_later later oldKnown⟩
        · rw [List.mem_singleton.1 isNew]
          exact ⟨own, isOwn, known_later later known⟩
      · rw [if_neg same] at member
        rcases inv.known _ entry member with ⟨oldCause, isOld, oldKnown⟩
        exact ⟨oldCause, isOld, known_later later oldKnown⟩
    · intro execution member outcome isOutcome
      rw [sameExecutions] at member
      exact fits_later later (inv.settled execution member outcome isOutcome)
    · intro seam entry member
      rw [sameInFlight] at member
      rw [sameExecutions]
      exact inv.inFlight seam entry member
    · intro joined member
      rw [sameJoins] at member
      rw [sameExecutions]
      exact inv.joined joined member

theorem coordinate_keeps {seam : SeamId} {key : String} {cause : Cause}
    (allowed : LedgerAllows digest (.coordinate key cause) before) :
    LedgerInv digest (before.coordinate seam key cause).2 := by
  have later := coordinate_later before seam key cause
  rcases allowed with ⟨isPolicy, isKey⟩
  unfold World.coordinate at later ⊢
  split at later
  · rename_i execution found
    refine ⟨inv.histories, inv.known, inv.settled, inv.inFlight, ?_⟩
    intro joined member
    rcases List.mem_append.1 member with old | isNew
    · exact inv.joined joined old
    · rw [List.mem_singleton.1 isNew]
      have inside : (key, execution) ∈ before.inFlight seam := by
        obtain ⟨early, late, isSplit, _⟩ := List.lookup_eq_some_iff.1 found
        rw [isSplit]
        exact List.mem_append_right _ List.mem_cons_self
      rcases inv.inFlight seam _ inside with ⟨entered, isEntered, sameKey⟩
      exact ⟨isPolicy, entered, isEntered, by rw [← isKey, ← sameKey]⟩
  · dsimp only at later ⊢
    refine ⟨inv.histories, ?_, ?_, ?_, ?_⟩
    · intro streamId entry member
      rcases inv.known streamId entry member with ⟨own, isOwn, known⟩
      exact ⟨own, isOwn, known_later later known⟩
    · intro execution member outcome isOutcome
      rcases List.mem_append.1 member with old | isNew
      · exact fits_later later (inv.settled execution old outcome isOutcome)
      · rw [List.mem_singleton.1 isNew] at isOutcome
        cases isOutcome
    · intro other entry member
      by_cases same : other = seam
      · subst same
        change entry ∈ Function.update before.inFlight other _ other at member
        rw [Function.update_self] at member
        rcases List.mem_cons.1 member with isNew | old
        · rw [isNew]
          exact ⟨_, List.getElem?_concat_length, isKey⟩
        · exact inFlight_index later (inv.inFlight other entry old)
      · change entry ∈ Function.update before.inFlight seam _ other at member
        rw [Function.update_of_ne same] at member
        exact inFlight_index later (inv.inFlight other entry member)
    · intro joined member
      rcases inv.joined joined member with ⟨isJoinPolicy, entered⟩
      exact ⟨isJoinPolicy, inFlight_index later entered⟩

theorem settle_keeps {id : ExecutionId} (allowed : LedgerAllows digest (.settle id outcome) before) :
    LedgerInv digest (before.settle id outcome) := by
  have later := settle_later before id outcome
  refine ⟨inv.histories, ?_, ?_, ?_, ?_⟩
  · intro streamId entry member
    rcases inv.known streamId entry member with ⟨own, isOwn, known⟩
    exact ⟨own, isOwn, known_later later known⟩
  · intro execution member settled isSettled
    rcases settle_outcome member isSettled with isOld | ⟨old, rfl, found, sameCause, sameRecorded⟩
    · exact fits_later later (inv.settled execution isOld settled isSettled)
    · rw [sameCause, sameRecorded]
      exact fits_later later (allowed old found)
  · intro seam entry member
    exact inFlight_index later (inv.inFlight seam entry member)
  · intro joined member
    rcases inv.joined joined member with ⟨isJoinPolicy, entered⟩
    exact ⟨isJoinPolicy, inFlight_index later entered⟩

theorem inFlight_keeps {inFlight : SeamId → List (String × ExecutionId)}
    (fewer : ∀ seam, ∀ entry ∈ inFlight seam, entry ∈ before.inFlight seam) :
    LedgerInv digest { before with inFlight } :=
  ⟨inv.histories, inv.known, inv.settled,
    fun seam entry member => inv.inFlight seam entry (fewer seam entry member), inv.joined⟩

theorem perform_keeps {env : Env} {seam : SeamId} {request : Request}
    {answer : Except Thrown request.Response} (allowed : LedgerAllows digest request before)
    (done : perform env seam before request = some (answer, after)) : LedgerInv digest after := by
  rw [perform_left done]
  cases request with
  | append event cause => exact append_keeps inv allowed
  | coordinate key cause => exact coordinate_keeps inv allowed
  | settle execution outcome => exact settle_keeps inv allowed
  | removeInFlight key execution =>
    refine inFlight_keeps inv ?_
    intro other entry member
    by_cases same : other = seam
    · rw [same, Function.update_self] at member
      rw [same]
      exact (List.mem_filter.1 member).1
    · rw [Function.update_of_ne same] at member
      exact member
  | _ => exact inv

end

end Keeps

def ledgerContract (digest : String → String) (calls : Call → Prop)
    (meets : SeamId → (request : Request) → World → Except Thrown request.Response → Prop) :
    Contract World SeamId Request Request.Response Thrown :=
  { host := (host digest calls).within meets
    later := Later
    respects := host_respects digest calls meets
    inv := LedgerInv digest
    allowed := fun _ request world => LedgerAllows digest request world
    keeps := by
      rintro seam request before answer after ⟨⟨env, done⟩, _⟩ inv allowed
      exact perform_keeps inv allowed done
    stops := by
      intro seam before after stopped inv
      change after = { before with inFlight := _ } at stopped
      rw [stopped]
      refine inFlight_keeps inv ?_
      intro other entry member
      by_cases same : other = seam
      · rw [same, Function.update_self] at member
        exact absurd member List.not_mem_nil
      · rw [Function.update_of_ne same] at member
        exact member
    drifts := fun drifted => drifted.elim }

theorem ledgerInv_empty (digest : String → String) : LedgerInv digest World.empty :=
  { histories := fun _ => .unstarted
    known := nofun
    settled := nofun
    inFlight := nofun
    joined := nofun }

/-! ### Executions keep the contract -/

/-- Requests that are not the end of an execution. -/
def NotSettled : Request → Prop
  | .settle _ _ => False
  | _ => True

/-- A contract that asks for no more than the ledger does but where an execution ends. -/
structure OverLedger (digest : String → String)
    (contract : Contract World SeamId Request Request.Response Thrown) : Prop where
  performs : ∀ {seam request before answer after},
    contract.host.performs seam request before answer after →
      ∃ env, perform env seam before request = some (answer, after)
  later : ∀ {before after}, contract.later before after → Later before after
  inv : ∀ {world}, contract.inv world → LedgerInv digest world
  allowed : ∀ {seam request world}, NotSettled request → LedgerAllows digest request world →
    contract.allowed seam request world

section Ensures

open Contract

variable {digest : String → String}
  {contract : Contract World SeamId Request Request.Response Thrown}
  {seam : SeamId} {world : World} {request : ToolRequest} {replayPolicy : ReplayPolicy}
  {effectKey : String} {details : List (String × Json)}

theorem appendTerminal_ensures (overLedger : OverLedger digest contract) {β : Type} {type : String}
    {next : Unit → Async β} {post : Except Thrown β → World → Prop}
    (isTerminal : type ∈ terminalTypes) (known : world.Known ⟨request, some replayPolicy⟩)
    (ensures : ∀ now, Later world now → LedgerInv digest now → (∃ started id timestamp, now.entries (effectStreamId effectKey) = [started, ⟨effectEvent request replayPolicy effectKey id timestamp 1 type details, some ⟨request, some replayPolicy⟩⟩]) → contract.Ensures seam (next ()) post now)
    (failed : ∀ error now, Later world now → LedgerInv digest now → post (.error error) now) :
    contract.Ensures seam
      ((appendEffect request replayPolicy effectKey 1 type details).bind next) post world := by
  have fails : ∀ {middle : World}, Later world middle → ∀ error now, contract.later middle now →
      contract.inv now → post (.error error) now :=
    fun middleLater error now later held =>
      failed error now (middleLater.trans (overLedger.later later)) (overLedger.inv held)
  refine ensures_assoc (ensures_call_any (fun _ _ _ => overLedger.allowed trivial trivial) ?_
    (fails (Later.refl world)))
  intro id first firstLater _
  have toFirst := overLedger.later firstLater
  refine ensures_assoc (ensures_call_any (fun _ _ _ => overLedger.allowed trivial trivial) ?_
    (fails toFirst))
  intro timestamp second secondLater _
  have toSecond := toFirst.trans (overLedger.later secondLater)
  refine ensures_call ?_ ?_ (fails toSecond)
  · intro before beforeLater _
    exact overLedger.allowed trivial
      ⟨_, rfl, known_later (toSecond.trans (overLedger.later beforeLater)) known,
        Or.inr ⟨isTerminal, rfl⟩⟩
  · intro before beforeLater _ value third performed held
    rcases overLedger.performs performed with ⟨env, done⟩
    rcases appendEntry_ok (Option.some.inj done) with ⟨isSecond, isThird⟩
    have isOne : (before.entries (effectStreamId effectKey)).length = 1 := isSecond.symm
    rcases List.length_eq_one_iff.1 isOne with ⟨started, isStarted⟩
    have toThird := (toSecond.trans (overLedger.later beforeLater)).trans (perform_later done)
    refine ensures third toThird (overLedger.inv held) ⟨started, id, timestamp, ?_⟩
    have isAppended : third.entries (effectStreamId effectKey) =
        before.entries (effectStreamId effectKey) ++ _ := isThird
    rw [isAppended, isStarted]
    rfl

variable {sandbox : Sandbox}

theorem sandbox_ensures (overLedger : OverLedger digest contract)
    (isKey : request.effectKey = some effectKey)
    (own : ∃ started ∈ world.entries (effectStreamId effectKey), started.event.type =
      "tool.effect.started" ∧ started.cause = some ⟨request, some replayPolicy⟩) :
    contract.Ensures seam
      (sandbox.execute request (some replayPolicy)) (fun _ _ => True) world := by
  have allowed : ∀ before, Later world before →
      contract.allowed seam (.sandboxExecute request (some replayPolicy)) before := by
    intro before beforeLater
    rcases own with ⟨started, member, isStarted⟩
    exact overLedger.allowed trivial
      ⟨nofun, effectKey, isKey, started, (beforeLater.streams _).subset member, isStarted⟩
  cases sandbox with
  | direct =>
    exact ensures_request (fun before later _ => allowed before (overLedger.later later))
      (fun _ _ _ _ => trivial)
  | cancellable =>
    refine ensures_call_any (fun _ _ _ => overLedger.allowed trivial trivial) ?_
      (fun _ _ _ _ => trivial)
    intro aborted first firstLater _
    split
    · exact fun _ _ _ => trivial
    · exact ensures_request
        (fun before later _ => allowed before
          ((overLedger.later firstLater).trans (overLedger.later later)))
        (fun _ _ _ _ => trivial)

theorem appendOutcome_ensures (overLedger : OverLedger digest contract) {result : ToolResult}
    {cancelled : Bool} {β : Type} {next : Unit → Async β} {post : Except Thrown β → World → Prop}
    (isKnown : result.status ≠ .unknown) (known : world.Known ⟨request, some replayPolicy⟩)
    (ensures : ∀ now, Later world now → LedgerInv digest now →
      (∃ started id timestamp type details, RecordsOutcome effectKey result type details ∧
        now.entries (effectStreamId effectKey) =
          [started, ⟨effectEvent request replayPolicy effectKey id timestamp 1 type details,
            some ⟨request, some replayPolicy⟩⟩]) →
      contract.Ensures seam (next ()) post now)
    (failed : ∀ error now, Later world now → LedgerInv digest now → post (.error error) now) :
    contract.Ensures seam
      ((appendOutcome request replayPolicy effectKey 0 result cancelled).bind next) post world := by
  have recorded : ∀ {type details}, type ∈ terminalTypes →
      RecordsOutcome effectKey result type details →
      contract.Ensures seam
        ((appendEffect request replayPolicy effectKey 1 type details).bind next) post world := by
    intro type details isTerminal records
    refine appendTerminal_ensures overLedger isTerminal known ?_ failed
    rintro now later held ⟨started, id, timestamp, isFinished⟩
    exact ensures now later held ⟨started, id, timestamp, type, details, records, isFinished⟩
  unfold appendOutcome
  split
  · exact recorded (by decide) .cancelled
  · split
    · rename_i isSucceeded
      exact recorded (by decide) (.succeeded isSucceeded)
    · rename_i isFailed
      exact recorded (by decide) (.failed isFailed)
    · rename_i isUnknown
      exact absurd isUnknown isKnown

theorem fits_ok {recorded : List Entry} {result : ToolResult}
    (isKey : request.effectKey = some effectKey)
    (own : ∃ started ∈ world.entries (effectStreamId effectKey), started.event.type = "tool.effect.started" ∧ (matchesCause digest started.event ⟨request, some replayPolicy⟩ = true ∨ result = effectKeyConflict)) :
    Fits digest ⟨request, some replayPolicy⟩ recorded (.ok result) world := by
  intro other isOther
  have sameKey : effectKey = other := Option.some.inj (isKey.symm.trans isOther)
  exact sameKey ▸ own

/-- How an execution ends: as the ledger asks, with what is replayed from then on. -/
def Ends (digest : String → String) (cause : Cause) (recorded : List Entry)
    (outcome : Except Thrown ToolResult) (world : World) : Prop :=
  Fits digest cause recorded outcome world ∧ Replayed digest cause outcome world

theorem ends_later {before after : World} {cause : Cause} {recorded : List Entry}
    (later : Later before after) (inv : LedgerInv digest before) (invAfter : LedgerInv digest after)
    (ends : Ends digest cause recorded outcome before) : Ends digest cause recorded outcome after :=
  ⟨fits_later later ends.1, replayed_later later inv invAfter ends.2⟩

theorem ends_error {cause : Cause} {recorded : List Entry} {error : Thrown}
    (agreed : ∀ started ∈ recorded, started.event.type = "tool.effect.started" →
      matchesCause digest started.event cause = true) :
    Ends digest cause recorded (.error error) world :=
  ⟨agreed, fun _ impossible => nomatch impossible⟩

theorem ends_finished {recorded : List Entry} {result : ToolResult} {started : Entry} {id : EventId}
    {timestamp : Timestamp} {type : String} {cause : Option Cause}
    (isKey : request.effectKey = some effectKey)
    (isStarted : started.event.type = "tool.effect.started")
    (isMatch : matchesCause digest started.event ⟨request, some replayPolicy⟩ = true)
    (records : RecordsOutcome effectKey result type details)
    (isFinished : world.entries (effectStreamId effectKey) = [started, ⟨effectEvent request replayPolicy effectKey id timestamp 1 type details, cause⟩]) :
    Ends digest ⟨request, some replayPolicy⟩ recorded (.ok result) world := by
  refine ⟨fits_ok isKey ⟨started, ?_, isStarted, Or.inl isMatch⟩, ?_⟩
  · rw [isFinished]
    exact List.mem_cons_self
  · intro other isOther otherKey isOtherKey agrees
    cases isOther
    have sameKey : effectKey = otherKey := Option.some.inj (isKey.symm.trans isOtherKey)
    subst sameKey
    rcases recorded_outcome id timestamp 1 isStarted isMatch isKey records with
      ⟨replayed, recalls, replays⟩
    refine ⟨replayed, ⟨agrees, ?_⟩, replays⟩
    unfold Cause.recorded
    dsimp only
    rw [isKey, entries_eq_streams, isFinished]
    exact recalls

theorem startEffect_ensures (overLedger : OverLedger digest contract) {recorded : List Entry}
    (isKey : request.effectKey = some effectKey) (known : world.Known ⟨request, some replayPolicy⟩)
    (agreed : ∀ started ∈ recorded, started.event.type = "tool.effect.started" → matchesCause digest
      started.event ⟨request, some replayPolicy⟩ = true) :
    contract.Ensures seam
      (startEffect sandbox request replayPolicy effectKey
        (effectIntentHash digest request replayPolicy) 0)
      (Ends digest ⟨request, some replayPolicy⟩ recorded) world := by
  refine ensures_assoc (ensures_call_any (fun _ _ _ => overLedger.allowed trivial trivial) ?_
    (fun _ _ _ _ => ends_error agreed))
  intro id first firstLater _
  refine ensures_assoc (ensures_call_any (fun _ _ _ => overLedger.allowed trivial trivial) ?_
    (fun _ _ _ _ => ends_error agreed))
  intro timestamp second secondLater _
  have toSecond := (overLedger.later firstLater).trans (overLedger.later secondLater)
  refine ensures_call ?_ ?_ (fun _ _ _ _ => ends_error agreed)
  · intro before beforeLater _
    exact overLedger.allowed trivial
      ⟨_, rfl, known_later (toSecond.trans (overLedger.later beforeLater)) known,
        Or.inl ⟨replayPolicy, effectKey, id, timestamp, rfl, isKey, rfl, rfl⟩⟩
  · intro before beforeLater _ value third performed _
    rcases overLedger.performs performed with ⟨env, done⟩
    rcases appendEntry_ok (Option.some.inj done) with ⟨isFirst, isThird⟩
    have knownThird : third.Known ⟨request, some replayPolicy⟩ :=
      known_later (toSecond.trans ((overLedger.later beforeLater).trans (perform_later done))) known
    have isEmpty : before.entries (effectStreamId effectKey) = [] :=
      List.length_eq_zero_iff.1 isFirst.symm
    have onlyStarted : third.entries (effectStreamId effectKey) =
        [⟨startedEvent digest request replayPolicy effectKey id timestamp 0,
          some ⟨request, some replayPolicy⟩⟩] := by
      have isStream : third.entries (effectStreamId effectKey) =
          before.entries (effectStreamId effectKey) ++ _ := isThird
      rw [isStream, isEmpty]
      rfl
    have own : ⟨startedEvent digest request replayPolicy effectKey id timestamp 0,
        some ⟨request, some replayPolicy⟩⟩ ∈ third.entries (effectStreamId effectKey) := by
      rw [onlyStarted]
      exact List.mem_singleton_self _
    have finished : ∀ {result type details now}, Later third now → LedgerInv digest now →
        RecordsOutcome effectKey result type details →
        (∃ started id timestamp, now.entries (effectStreamId effectKey) =
          [started, ⟨effectEvent request replayPolicy effectKey id timestamp 1 type details,
            some ⟨request, some replayPolicy⟩⟩]) →
        Ends digest ⟨request, some replayPolicy⟩ recorded (.ok result) now := by
      rintro result type details now later held records ⟨started, id', timestamp', isFinished⟩
      have isPrefix := later.streams (effectStreamId effectKey)
      rw [onlyStarted, isFinished] at isPrefix
      rcases isPrefix with ⟨rest, isSplit⟩
      have isOwn := (List.cons.inj isSplit).1
      refine ends_finished isKey ?_ ?_ records isFinished
      · rw [← isOwn]
        rfl
      · rw [← isOwn]
        exact matches_own isKey
    have unknownEnsures : ∀ now, Later third now →
        contract.Ensures seam
          (appendUnknownEffectTerminal request replayPolicy effectKey 0)
          (Ends digest ⟨request, some replayPolicy⟩ recorded) now := by
      intro now nowLater
      refine appendTerminal_ensures overLedger (by decide) (known_later nowLater knownThird) ?_
        (fun _ _ _ _ => ends_error agreed)
      intro last lastLater heldLast isFinished end' endLater heldEnd
      exact ends_later (overLedger.later endLater) heldLast (overLedger.inv heldEnd)
        (finished (nowLater.trans lastLater) heldLast (.unknown rfl) isFinished)
    have called : contract.Ensures seam
        ((sandbox.execute request (some replayPolicy)).attempt) (fun _ _ => True) third :=
      ensures_attempt (sandbox_ensures overLedger isKey ⟨_, own, rfl, rfl⟩)
    refine ensures_bind called ?_ (fun _ _ _ _ _ => ends_error agreed)
    intro outcome fourth fourthLater _ _
    have toFourth := overLedger.later fourthLater
    cases outcome with
    | error error => exact unknownEnsures fourth toFourth
    | ok result =>
      dsimp only
      split
      · exact unknownEnsures fourth toFourth
      · rename_i isKnown
        refine ensures_call_any (fun _ _ _ => overLedger.allowed trivial trivial) ?_
          (fun _ _ _ _ => ends_error agreed)
        intro aborted fifth fifthLater _
        have toFifth := toFourth.trans (overLedger.later fifthLater)
        refine appendOutcome_ensures overLedger isKnown (known_later toFifth knownThird) ?_
          (fun _ _ _ _ => ends_error agreed)
        rintro last lastLater heldLast ⟨started, id', timestamp', type, details, records,
          isFinished⟩ end' endLater heldEnd
        exact ends_later (overLedger.later endLater) heldLast (overLedger.inv heldEnd)
          (finished (toFifth.trans lastLater) heldLast records
            ⟨started, id', timestamp', isFinished⟩)

/-- What an execution has read says how it goes on: a conflict with the started
event, a result that is recorded for the same intent, or no event at all. -/
theorem executeDurableEffect_ensures (overLedger : OverLedger digest contract)
    {recorded : List Entry} (isKey : request.effectKey = some effectKey)
    (known : world.Known ⟨request, some replayPolicy⟩)
    (isBeginning : recorded <+: world.entries (effectStreamId effectKey)) :
    contract.Ensures seam
      (executeDurableEffect sandbox request replayPolicy
        (effectIntentHash digest request replayPolicy))
      (Ends digest ⟨request, some replayPolicy⟩ recorded) world := by
  unfold executeDurableEffect
  rw [isKey]
  refine ensures_call_total ?_ (fun _ _ _ => overLedger.allowed trivial trivial) ?_
  · intro before error after performed
    rcases overLedger.performs performed with ⟨env, done⟩
    cases done
  · intro before beforeLater held durableEvents after performed heldAfter
    rcases overLedger.performs performed with ⟨env, done⟩
    rcases read_entries done with ⟨isAfter, isRead, isNext⟩
    subst isAfter
    have inv := overLedger.inv held
    have toAfter := overLedger.later beforeLater
    have history := inv.histories (effectStreamId effectKey)
    have member : ∀ entry ∈ after.entries (effectStreamId effectKey),
        entry.event ∈ durableEvents := by
      intro entry isEntry
      rw [isRead]
      exact List.mem_map_of_mem isEntry
    have entryOf : ∀ event ∈ durableEvents,
        ∃ entry ∈ after.entries (effectStreamId effectKey), entry.event = event := by
      intro event isEvent
      rw [isRead] at isEvent
      exact List.mem_map.1 isEvent
    rcases recordedEffect_cases durableEvents request replayPolicy effectKey
        (effectIntentHash digest request replayPolicy) with
      ⟨conflict, event, isEvent, isStarted, differs⟩ | ⟨all, rest⟩
    · rw [conflict]
      rcases entryOf event isEvent with ⟨entry, isEntry, sameEvent⟩
      rw [← sameEvent] at isStarted differs
      intro now nowLater _
      have isNow := ((overLedger.later nowLater).streams _).subset isEntry
      refine ⟨fits_ok isKey ⟨entry, isNow, isStarted, Or.inr rfl⟩, ?_⟩
      intro result _ otherKey isOtherKey agrees
      have sameKey : effectKey = otherKey := Option.some.inj (isKey.symm.trans isOtherKey)
      subst sameKey
      have isMatch := agrees entry.event (List.mem_map_of_mem isNow) isStarted
      have differs' : matchesCause digest entry.event ⟨request, some replayPolicy⟩ = false :=
        differs
      rw [differs'] at isMatch
      cases isMatch
    · have agreed : ∀ started ∈ recorded, started.event.type = "tool.effect.started" →
          matchesCause digest started.event ⟨request, some replayPolicy⟩ = true := by
        intro started isRecorded isStarted
        exact all started.event
          (member started ((isBeginning.trans (toAfter.streams _)).subset isRecorded)) isStarted
      rcases rest with ⟨result, reused, isNonempty⟩ | ⟨event, isEvent, isStarted, orphaned⟩ |
        ⟨unrecorded, unstarted⟩
      · rw [reused]
        have nonempty : after.entries (effectStreamId effectKey) ≠ [] := by
          intro isEmpty
          rw [isRead, isEmpty] at isNonempty
          exact isNonempty rfl
        rcases history.head nonempty with ⟨entry, isEntry, isStarted, _⟩
        have ends : Ends digest ⟨request, some replayPolicy⟩ recorded (.ok result) after := by
          refine ⟨fits_ok isKey ⟨entry, isEntry, isStarted,
            Or.inl (all entry.event (member entry isEntry) isStarted)⟩, ?_⟩
          intro other isOther otherKey isOtherKey agrees
          cases isOther
          have sameKey : effectKey = otherKey := Option.some.inj (isKey.symm.trans isOtherKey)
          subst sameKey
          refine ⟨result, ⟨agrees, ?_⟩, Or.inl rfl⟩
          unfold Cause.recorded
          dsimp only
          rw [isKey, entries_eq_streams, ← isRead]
          exact reused
        intro now nowLater heldNow
        exact ends_later (overLedger.later nowLater) inv (overLedger.inv heldNow) ends
      · rcases entryOf event isEvent with ⟨entry, isEntry, sameEvent⟩
        rw [← sameEvent] at isStarted orphaned
        rcases history.started_unique isEntry isStarted with ⟨cause, rest, isSplit, recordedFor⟩
        rw [orphaned, recordedFor.isStarted.2.1]
        refine appendTerminal_ensures overLedger (by decide) (known_later toAfter known) ?_
          (fun _ _ _ _ => ends_error agreed)
        rintro next nextLater heldNext ⟨started, id, timestamp, isFinished⟩ now nowLater heldNow
        have isPrefix := nextLater.streams (effectStreamId effectKey)
        rw [isSplit, isFinished] at isPrefix
        rcases isPrefix with ⟨more, isWhole⟩
        have isSame : entry = started := (List.cons.inj isWhole).1
        subst isSame
        apply ends_later (overLedger.later nowLater) heldNext (overLedger.inv heldNow)
        exact ends_finished isKey isStarted (all entry.event (member entry isEntry) isStarted)
          (.unknown rfl) isFinished
      · have isEmpty : after.entries (effectStreamId effectKey) = [] := by
          by_contra isNonempty
          rcases history.head isNonempty with ⟨entry, isEntry, isStarted, _⟩
          exact unstarted entry.event (member entry isEntry) isStarted
        rw [unrecorded, isNext, isEmpty]
        exact startEffect_ensures overLedger isKey (known_later toAfter known) agreed

theorem executeEffect_ensures (overLedger : OverLedger digest contract)
    (settles : ∀ {id cause recorded outcome now}, (∀ execution, now.executions[id]? = some execution
      → execution.cause = cause ∧ execution.recorded = recorded) → contract.inv now → Ends digest
      cause recorded outcome now → contract.allowed seam (.settle id outcome) now) :
    contract.Ensures seam
      (executeEffect digest sandbox request replayPolicy) (fun _ _ => True) world := by
  unfold executeEffect
  split
  · exact fun _ _ _ => trivial
  · rename_i effectKey isKey
    refine ensures_call ?_ ?_ (fun _ _ _ _ => trivial)
    · intro before _ _
      refine overLedger.allowed trivial ⟨nofun, ?_⟩
      unfold Cause.executionKey
      rw [isKey]
    · intro before _ _ coordination after performed _
      rcases overLedger.performs performed with ⟨env, done⟩
      cases coordination with
      | joined execution =>
        exact ensures_request (fun _ _ _ => overLedger.allowed trivial trivial)
          (fun _ _ _ _ => trivial)
      | entered execution =>
        obtain ⟨own, isOwn, isCause, isRecorded⟩ := perform_entered isKey done
        have isBeginning : own.recorded <+: after.entries (effectStreamId effectKey) := by
          rw [isRecorded]
        have known : after.Known ⟨request, some replayPolicy⟩ :=
          ⟨own, List.mem_of_getElem? isOwn, isCause⟩
        have attempted : contract.Ensures seam
            (executeDurableEffect sandbox request replayPolicy
              (effectIntentHash digest request replayPolicy)).attempt
            (fun result now => ∀ outcome, result = .ok outcome →
              Ends digest ⟨request, some replayPolicy⟩ own.recorded outcome now) after := by
          refine ensures_attempt (ensures_mono
            (executeDurableEffect_ensures overLedger isKey known isBeginning) ?_)
          intro outcome now ends other same
          cases same
          exact ends
        refine ensures_bind attempted ?_ (fun _ _ _ _ _ => trivial)
        intro outcome second secondLater heldSecond ended
        have ends := ended outcome rfl
        refine ensures_call_any ?_ ?_ (fun _ _ _ _ => trivial)
        · intro third thirdLater heldThird
          refine settles ?_ heldThird (ends_later (overLedger.later thirdLater)
            (overLedger.inv heldSecond) (overLedger.inv heldThird) ends)
          intro settled isSettled
          obtain ⟨own', isOwn', sameCause, sameRecorded⟩ :=
            ((overLedger.later secondLater).trans (overLedger.later thirdLater)).executions isOwn
          have same : own' = settled := Option.some.inj (isOwn'.symm.trans isSettled)
          rw [← same, sameCause, sameRecorded, isCause]
          exact ⟨rfl, rfl⟩
        · intro _ third _ _
          refine ensures_call_any (fun _ _ _ => overLedger.allowed trivial trivial) ?_
            (fun _ _ _ _ => trivial)
          intro _ fourth _ _
          cases outcome with
          | ok result | error error => exact fun _ _ _ => trivial

end Ensures

/-! ### The contract of the ledger -/

section Ledger

variable {digest : String → String} {calls : Call → Prop}
  {meets : SeamId → (request : Request) → World → Except Thrown request.Response → Prop}

theorem ledgerContract_over : OverLedger digest (ledgerContract digest calls meets) :=
  { performs := fun performed => performed.1
    later := id
    inv := id
    allowed := fun _ isAllowed => isAllowed }

theorem ledgerContract_ensures {seam : SeamId} {world : World} {sandbox : Sandbox}
    {request : ToolRequest} {replayPolicy : ReplayPolicy} :
    (ledgerContract digest calls meets).Ensures seam
      (executeEffect digest sandbox request replayPolicy) (fun _ _ => True) world := by
  apply executeEffect_ensures ledgerContract_over
  intro id cause recorded outcome now isOwn _ ends execution found
  rcases isOwn execution found with ⟨sameCause, sameRecorded⟩
  rw [sameCause, sameRecorded]
  exact ends.1

end Ledger

end AnnaAgent.Tools
