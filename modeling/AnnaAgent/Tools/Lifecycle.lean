/-
The lifecycle of one tool call.

A call is followed through its exchanges with a store that accepts its appends, while
others may change everything but the stream of the call.  Schema and policy are caught
where they throw, and an effect catches its sandbox; a sandbox that is called outside the
effect ledger is not caught.
-/

import AnnaAgent.Foundation.Exchanges
import AnnaAgent.Tools.EffectRequests
import AnnaAgent.Tools.Streams

namespace AnnaAgent.Tools

open Foundation EventStore

/-- A working store, clock and signal answer; policy and sandbox may reject. -/
def Answered (request : Request) (answer : Except Thrown request.Response) : Prop :=
  CanFail request ∨ ∃ value, answer = .ok value

def Undisturbed (streamId : StreamId) (before : EventStream) (request : Request)
    (answer : Except Thrown request.Response) (after : EventStream) : Prop :=
  ∃ env seam world world', perform env seam world request = some (answer, world') ∧
    world.streams streamId = before ∧ world'.streams streamId = after ∧ Answered request answer

abbrev CallExchange := Exchange Request Request.Response Thrown

/-- A call runs to its end while its own stream is left to it. -/
abbrev Settles (streamId : StreamId) (program : Async ToolResult) (before : EventStream)
    (asked : List CallExchange) (outcome : Except Thrown ToolResult) (after : EventStream) :
    Prop :=
  Exchanges (Undisturbed streamId) program before asked outcome after

/-- The sandbox rejects a call that no effect catches. -/
def Uncaught (exchange : CallExchange) : Prop :=
  match exchange with
  | ⟨.sandboxExecute request replayPolicy, answer⟩ =>
    (request.effectKey = none ∨ replayPolicy = none) ∧ ∃ error, answer = .error error
  | _ => False

structure Completes (before after : EventStream) : Prop where
  events : ∃ requested decided result,
    after.events = before.events ++ requested :: (decided ++ [result]) ∧
    requested.type = "tool.requested" ∧ decided.length ≤ 1 ∧
    (∀ event ∈ decided, event.type = "tool.policy.decided") ∧ result.type = "tool.result" ∧
    ∀ (index : Nat) (event : Event), (requested :: (decided ++ [result]))[index]? = some event →
      event.seq = before.events.length + index

def Elsewhere (streamId : StreamId) : Request → Prop
  | .append event _ => event.streamId ≠ streamId
  | .sandboxExecute request replayPolicy => request.effectKey ≠ none ∧ replayPolicy ≠ none
  | _ => True

variable {world : World}

section Undisturbed

variable {streamId : StreamId} {before after : EventStream}

theorem undisturbed_fails : ∀ {request : Request} {before error after},
    Undisturbed streamId before request (.error error) after → CanFail request := by
  rintro request before error after ⟨_, _, _, _, _, _, _, canFail | ⟨value, impossible⟩⟩
  · exact canFail
  · cases impossible

theorem perform_elsewhere {env : Env} {seam : SeamId} {world' : World} {request : Request}
    {answer : Except Thrown request.Response}
    (performed : perform env seam world request = some (answer, world'))
    (elsewhere : ∀ event cause, request = .append event cause → event.streamId ≠ streamId) :
    world'.streams streamId = world.streams streamId := by
  cases request with
  | readStream read approvalOf | createEventId | now | decide asked
  | sandboxExecute asked replayPolicy | aborted | settle execution outcome
  | removeInFlight key execution =>
    cases performed
    rfl
  | append event cause =>
    have apart := elsewhere event cause rfl
    have isWorld : (world.appendEntry env event cause).2 = world' :=
      congrArg Prod.snd (Option.some.inj performed)
    rw [← isWorld]
    rcases appendEntry_cases world env event cause with ⟨same, _⟩ | ⟨_, stream, _, isAfter⟩
    · rw [same]
    · rw [isAfter]
      exact Function.update_of_ne apart.symm _ _
  | coordinate key cause =>
    cases performed
    unfold World.coordinate
    split
    · rfl
    · rfl
  | awaitExecution execution =>
    simp only [perform] at performed
    split at performed
    · cases performed
      rfl
    · cases performed

theorem undisturbed_elsewhere {request : Request} {answer : Except Thrown request.Response}
    (answered : Undisturbed streamId before request answer after)
    (elsewhere : ∀ event cause, request = .append event cause → event.streamId ≠ streamId) :
    after = before := by
  rcases answered with ⟨env, seam, world, world', performed, isBefore, isAfter, _⟩
  rw [← isBefore, ← isAfter]
  exact perform_elsewhere performed elsewhere

theorem undisturbed_read {approvalOf : Option ToolRequest}
    {answer : Except Thrown (Request.Response (.readStream streamId approvalOf))}
    (answered : Undisturbed streamId before (.readStream streamId approvalOf) answer after) :
    answer = .ok before.events ∧ after = before := by
  rcases answered with ⟨env, seam, world, world', performed, isBefore, isAfter, _⟩
  cases performed
  rw [isBefore] at isAfter
  rw [isBefore]
  exact ⟨rfl, isAfter.symm⟩

theorem undisturbed_append {event : Event} {cause : Option Cause}
    {answer : Except Thrown (Request.Response (.append event cause))}
    (own : event.streamId = streamId)
    (answered : Undisturbed streamId before (.append event cause) answer after) :
    answer = .ok () ∧ after.events = before.events ++ [event] := by
  rcases answered with ⟨env, seam, world, world', performed, isBefore, isAfter,
    impossible | ⟨value, isOk⟩⟩
  · exact impossible.elim
  · rw [isOk] at performed
    have done : world.appendEntry env event cause = (.ok (), world') := Option.some.inj performed
    rcases appendEntry_ok done with ⟨_, entries⟩
    rw [own] at entries
    have appended : (world'.streams streamId).entries =
        (world.streams streamId).entries ++ [⟨event, cause⟩] := entries
    rw [isBefore, isAfter] at appended
    refine ⟨isOk, ?_⟩
    unfold EventStream.events
    rw [appended, List.map_append]
    rfl

end Undisturbed

variable {digest : String → String} {exchange : CallExchange} {outcome : Except Thrown ToolResult}

section Parts

variable {request lifecycleRequest : ToolRequest} {before after : EventStream}
  {asked : List CallExchange}

/-- A part that is caught: none of its exchanges is left uncaught. -/
def Caught (asked : List CallExchange) : Prop :=
  ∀ exchange ∈ asked, ¬Uncaught exchange

theorem caught_nil : Caught [] :=
  fun _ member => absurd member List.not_mem_nil

theorem caught_cons {rest : List CallExchange} (first : ¬Uncaught exchange) (others : Caught rest) :
    Caught (exchange :: rest) := by
  intro other member
  rcases List.mem_cons.mp member with isFirst | isLater
  · rw [isFirst]
    exact first
  · exact others other isLater

variable {early late : List CallExchange} {reason : Option String} {definition : ToolDefinition}

theorem caught_append : Caught (early ++ late) ↔ Caught early ∧ Caught late := by
  unfold Caught
  constructor
  · intro all
    exact ⟨fun exchange member => all exchange (List.mem_append_left _ member),
      fun exchange member => all exchange (List.mem_append_right _ member)⟩
  · rintro ⟨first, second⟩ exchange member
    rcases List.mem_append.mp member with isEarly | isLate
    · exact first exchange isEarly
    · exact second exchange isLate

theorem lifecycle_settles {type : String} {details : List (String × Json)}
    {outcome : Except Thrown Unit}
    (exchanges : Exchanges (Undisturbed (toolStreamId lifecycleRequest))
      (appendToolLifecycleEvent lifecycleRequest type details) before asked outcome after) :
    outcome = .ok () ∧ Caught asked ∧ ∃ event, after.events = before.events ++ [event] ∧
      event.type = type := by
  rcases exchanges.call_bind_cases with ⟨answer, read, rest, isAsked, isRead, exchanges⟩
  rcases undisturbed_read isRead with ⟨isAnswer, isBefore⟩
  subst isBefore isAnswer
  rcases Exchanges.call_bind_cases exchanges with ⟨clock, timed, rest', isRest, isTimed, exchanges⟩
  have sameStream := undisturbed_elsewhere isTimed (fun _ _ impossible => by cases impossible)
  subst sameStream
  cases clock with
  | error error => exact (undisturbed_fails isTimed).elim
  | ok timestamp =>
    rcases Exchanges.call_cases exchanges with ⟨isLast, isAppended⟩
    rcases undisturbed_append rfl isAppended with ⟨isOutcome, events⟩
    refine ⟨isOutcome, ?_, _, events, rfl⟩
    rw [isAsked, isRest, isLast]
    exact caught_cons id (caught_cons id (caught_cons id caught_nil))

variable {result : ToolResult}

theorem terminalResult_settles
    (settles : Settles (toolStreamId lifecycleRequest) (terminalResult lifecycleRequest result reason) before asked outcome after) :
    Caught asked ∧ ∃ event, after.events = before.events ++ [event] ∧
      event.type = "tool.result" := by
  rcases Exchanges.bind_cases settles with
    ⟨value, middle, early, late, isAsked, appended, ended⟩ | ⟨error, _, failed⟩
  · rcases lifecycle_settles appended with ⟨_, caught, event, events, isType⟩
    rcases Exchanges.pure_eq ended with ⟨isLate, _, isAfter⟩
    subst isAfter isLate
    rw [isAsked, List.append_nil]
    exact ⟨caught, event, events, isType⟩
  · rcases lifecycle_settles failed with ⟨impossible, _⟩
    cases impossible

theorem elsewhere_settles {α : Type} {program : Async α} {streamId : StreamId}
    {outcome : Except Thrown α} (asks : program.Asks (Elsewhere streamId))
    (exchanges : Exchanges (Undisturbed streamId) program before asked outcome after) :
    after = before ∧ Caught asked := by
  rcases exchanges.keeps asks (fun stream => stream = before)
    (by
      intro first request answer last elsewhere answered isBefore
      rw [← isBefore]
      apply undisturbed_elsewhere answered
      intro event cause isAppend
      rw [isAppend] at elsewhere
      exact elsewhere) rfl with ⟨same, allowed⟩
  refine ⟨same, ?_⟩
  intro exchange member uncaught
  have elsewhere := allowed exchange member
  rcases exchange with ⟨request, answer⟩
  cases request with
  | sandboxExecute asked replayPolicy =>
    rcases uncaught.1 with noKey | noPolicy
    · exact elsewhere.1 noKey
    · exact elsewhere.2 noPolicy
  | readStream _ _ | append _ _ | createEventId | now | decide _ | aborted | coordinate _ _
  | awaitExecution _ | settle _ _ | removeInFlight _ _ => exact uncaught

/-! ### The branches of a call -/

theorem effectStream_ne_tool (effectKey : String) (request : ToolRequest) :
    effectStreamId effectKey ≠ toolStreamId request := by
  intro same
  have characters := congrArg String.toList same
  unfold effectStreamId toolStreamId at characters
  simp at characters

theorem runStream_ne_tool (request : ToolRequest) : request.runId ≠ toolStreamId request := by
  intro same
  have lengths := congrArg String.length same
  unfold toolStreamId at lengths
  simp only [String.length_append] at lengths
  have prefixed : "tool:".length = 5 := by decide
  omega

variable {replayPolicy : ReplayPolicy}

theorem elsewhere_of_effect (lifecycleRequest : ToolRequest) {executed : ToolRequest}
    {asked : Request} (isEffect : OfEffect executed replayPolicy asked) :
    Elsewhere (toolStreamId lifecycleRequest) asked := by
  cases asked with
  | append event cause =>
    rcases isEffect.1 with ⟨effectKey, _, isStream⟩
    change event.streamId ≠ _
    rw [isStream]
    exact effectStream_ne_tool effectKey lifecycleRequest
  | sandboxExecute other policy =>
    rcases isEffect with ⟨isRequest, isPolicy, keyed⟩
    refine ⟨?_, ?_⟩
    · rw [isRequest]
      exact keyed
    · rw [isPolicy]
      exact Option.some_ne_none replayPolicy
  | readStream _ _ | createEventId | now | decide _ | aborted | coordinate _ _
  | awaitExecution _ | settle _ _ | removeInFlight _ _ => exact trivial

theorem executeEffect_settles {sandbox : Sandbox}
    (settles : Settles (toolStreamId lifecycleRequest) (executeEffect digest sandbox request replayPolicy) before asked outcome after) :
    after = before ∧ Caught asked ∧ ∃ result, outcome = .ok result := by
  have asks := Program.asks_mono (executeEffect_requests digest sandbox request replayPolicy)
    (fun asked isEffect => elsewhere_of_effect lifecycleRequest isEffect)
  rcases elsewhere_settles asks settles with ⟨same, caught⟩
  refine ⟨same, caught, ?_⟩
  unfold executeEffect at settles
  split at settles
  · exact ⟨_, (Exchanges.pure_eq settles).2.1⟩
  · rcases Exchanges.call_bind_cases settles with ⟨answer, _, _, _, coordinated, settles⟩
    cases answer with
    | error error => exact (undisturbed_fails coordinated).elim
    | ok coordination =>
      cases coordination with
      | joined execution =>
        rcases Exchanges.call_cases settles with ⟨_, awaited⟩
        cases outcome with
        | ok result => exact ⟨result, rfl⟩
        | error error => exact (undisturbed_fails awaited).elim
      | entered execution =>
        rcases Exchanges.bind_cases settles with
          ⟨value, _, _, _, _, attempted, settles⟩ | ⟨error, _, failed⟩
        · rcases Exchanges.attempt_cases attempted with ⟨result, isValue, executed⟩
          rcases Exchanges.ok_of_total executed (executeDurableEffect_total _ _ _ _)
            undisturbed_fails with ⟨finished, isResult⟩
          cases isValue
          rw [isResult] at settles
          rcases Exchanges.call_bind_cases settles with ⟨settled, _, _, _, isSettled, settles⟩
          cases settled with
          | error error => exact (undisturbed_fails isSettled).elim
          | ok _ =>
            rcases Exchanges.call_bind_cases settles with
              ⟨removed, _, _, _, isRemoved, settles⟩
            cases removed with
            | error error => exact (undisturbed_fails isRemoved).elim
            | ok _ => exact ⟨finished, (Exchanges.pure_eq settles).2.1⟩
        · rcases Exchanges.attempt_cases failed with ⟨result, impossible, _⟩
          cases impossible

/-- From the decision on: the result is appended when all is caught, or nothing is. -/
def Closes (before : EventStream) (asked : List CallExchange) (after : EventStream) : Prop :=
  (Caught asked ∧ ∃ event, after.events = before.events ++ [event] ∧ event.type = "tool.result") ∨
    ¬Caught asked ∧ after = before

theorem closes_terminal
    (settles : Settles (toolStreamId lifecycleRequest) (terminalResult lifecycleRequest result reason) before asked outcome after) :
    Closes before asked after :=
  Or.inl (terminalResult_settles settles)

theorem closes_after (caught : Caught early) (closes : Closes before late after) :
    Closes before (early ++ late) after := by
  rcases closes with ⟨lateCaught, closed⟩ | ⟨uncaught, same⟩
  · exact Or.inl ⟨caught_append.mpr ⟨caught, lateCaught⟩, closed⟩
  · exact Or.inr ⟨fun all => uncaught (caught_append.mp all).2, same⟩

theorem closes_direct {replayPolicy : Option ReplayPolicy}
    (direct : request.effectKey = none ∨ replayPolicy = none)
    (settles : Settles (toolStreamId lifecycleRequest) ((ask (.sandboxExecute request replayPolicy)).bind (fun result => terminalResult lifecycleRequest result none)) before asked outcome after) :
    Closes before asked after := by
  rcases Exchanges.call_bind_cases settles with ⟨answer, middle, rest, isAsked, answered, settles⟩
  have same := undisturbed_elsewhere answered (fun _ _ impossible => by cases impossible)
  subst same
  cases answer with
  | ok result =>
    rw [isAsked]
    refine closes_after (caught_cons ?_ caught_nil) (closes_terminal settles)
    rintro ⟨_, error, impossible⟩
    cases impossible
  | error error =>
    cases settles
    right
    refine ⟨?_, rfl⟩
    intro caught
    rw [isAsked] at caught
    exact caught _ List.mem_cons_self ⟨direct, error, rfl⟩

theorem closes_effect {sandbox : Sandbox}
    (settles : Settles (toolStreamId lifecycleRequest) ((executeEffect digest sandbox request replayPolicy).bind (fun result => terminalResult lifecycleRequest result none)) before asked outcome after) :
    Closes before asked after := by
  rcases Exchanges.bind_cases settles with
    ⟨value, middle, early, late, isAsked, executed, ended⟩ | ⟨error, _, failed⟩
  · rcases executeEffect_settles executed with ⟨same, caught, _⟩
    subst same
    rw [isAsked]
    exact closes_after caught (closes_terminal ended)
  · rcases executeEffect_settles failed with ⟨_, _, result, impossible⟩
    cases impossible

theorem appendApprovalRequest_settles {effectKey approvalId : String} {durableEvents : List Event}
    {outcome : Except Thrown Unit} (same : request.runId = lifecycleRequest.runId)
    (exchanges : Exchanges (Undisturbed (toolStreamId lifecycleRequest))
      (appendApprovalRequest request effectKey approvalId durableEvents) before asked outcome
      after) : after = before ∧ Caught asked ∧ outcome = .ok () := by
  have elsewhere : request.runId ≠ toolStreamId lifecycleRequest := by
    rw [same]
    exact runStream_ne_tool lifecycleRequest
  have asks : (appendApprovalRequest request effectKey approvalId durableEvents).Asks
      (Elsewhere (toolStreamId lifecycleRequest)) := by
    refine Program.asks_call_bind trivial ?_
    intro id
    refine Program.asks_call_bind trivial ?_
    intro timestamp
    exact Program.asks_request elsewhere
  have total : (appendApprovalRequest request effectKey approvalId durableEvents).Total CanFail := by
    refine Program.total_call_bind id ?_
    intro id
    refine Program.total_call_bind (fun impossible => impossible) ?_
    intro timestamp
    exact Program.total_call (fun impossible => impossible)
  rcases elsewhere_settles asks exchanges with ⟨isBefore, caught⟩
  rcases exchanges.ok_of_total total undisturbed_fails with ⟨value, isValue⟩
  exact ⟨isBefore, caught, isValue⟩

open BoundToolGateway

theorem executeWithApproval_closes {effectKey : String}
    (same : request.runId = lifecycleRequest.runId)
    (settles : Settles (toolStreamId lifecycleRequest) (executeWithApproval digest lifecycleRequest definition request effectKey) before asked outcome after) :
    Closes before asked after := by
  rcases Exchanges.call_bind_cases settles with ⟨answer, middle, rest, isAsked, isRead, settles⟩
  have unchanged := undisturbed_elsewhere isRead (fun _ _ impossible => by cases impossible)
  subst unchanged
  rw [isAsked]
  apply closes_after (caught_cons id caught_nil)
  cases answer with
  | error error => exact (undisturbed_fails isRead).elim
  | ok durableEvents =>
    simp only [Program.rethrow] at settles
    split at settles
    · unfold executeApproved at settles
      split at settles
      · exact closes_effect settles
      · exact closes_direct (Or.inr rfl) settles
    · exact closes_terminal settles
    · rcases Exchanges.bind_cases settles with
        ⟨value, between, early, late, isRest, requested, ended⟩ | ⟨error, _, failed⟩
      · have unchanged : between = middle ∧ Caught early := by
          unfold requestApproval at requested
          split at requested
          · rcases appendApprovalRequest_settles same requested with ⟨isBefore, caught, _⟩
            exact ⟨isBefore, caught⟩
          · rcases Exchanges.pure_eq requested with ⟨isEarly, _, isBefore⟩
            rw [isEarly]
            exact ⟨isBefore, caught_nil⟩
        rcases unchanged with ⟨isBefore, caught⟩
        subst isBefore
        rw [isRest]
        exact closes_after caught (closes_terminal ended)
      · unfold requestApproval at failed
        split at failed
        · rcases appendApprovalRequest_settles same failed with ⟨_, _, impossible⟩
          cases impossible
        · rcases Exchanges.pure_eq failed with ⟨_, impossible, _⟩
          cases impossible

theorem executeDecided_closes {decision : String} (same : request.runId = lifecycleRequest.runId)
    (settles : Settles (toolStreamId lifecycleRequest) (executeDecided digest lifecycleRequest definition request decision) before asked outcome after) :
    Closes before asked after := by
  unfold executeDecided at settles
  split at settles
  · exact closes_terminal settles
  · split at settles
    · split at settles
      · rename_i noKey
        exact closes_direct (Or.inl noKey) settles
      · split at settles
        · exact closes_terminal settles
        · exact closes_effect settles
      · exact closes_terminal settles
    · split at settles
      · exact executeWithApproval_closes same settles
      · exact closes_terminal settles

/-- From the policy on: a decision may be appended, then the call closes; what is not
caught comes after a decision. -/
def Decides (before : EventStream) (asked : List CallExchange) (after : EventStream) : Prop :=
  (Caught asked ∧ ∃ decided result, after.events = before.events ++ (decided ++ [result]) ∧
      decided.length ≤ 1 ∧ (∀ event ∈ decided, event.type = "tool.policy.decided") ∧
      result.type = "tool.result") ∨
    ¬Caught asked ∧ ∃ decided, after.events = before.events ++ [decided] ∧
      decided.type = "tool.policy.decided"

theorem decides_terminal
    (settles : Settles (toolStreamId lifecycleRequest) (terminalResult lifecycleRequest result reason) before asked outcome after) :
    Decides before asked after := by
  rcases terminalResult_settles settles with ⟨caught, event, events, isType⟩
  left
  refine ⟨caught, [], event, events, Nat.zero_le _, ?_, isType⟩
  intro other member
  cases member

theorem decides_after (caught : Caught early) (decides : Decides before late after) :
    Decides before (early ++ late) after := by
  rcases decides with ⟨lateCaught, decided⟩ | ⟨uncaught, decided⟩
  · exact Or.inl ⟨caught_append.mpr ⟨caught, lateCaught⟩, decided⟩
  · exact Or.inr ⟨fun all => uncaught (caught_append.mp all).2, decided⟩

theorem executeNormalized_decides (same : request.runId = lifecycleRequest.runId)
    (settles : Settles (toolStreamId lifecycleRequest) (executeNormalized digest lifecycleRequest definition request) before asked outcome after) :
    Decides before asked after := by
  rcases Exchanges.bind_cases settles with
    ⟨answer, middle, early, late, isAsked, decided, settles⟩ | ⟨error, _, failed⟩
  · rcases Exchanges.attempt_cases decided with ⟨decision, isAnswer, decided⟩
    cases isAnswer
    rcases Exchanges.call_cases decided with ⟨isEarly, answered⟩
    have unchanged := undisturbed_elsewhere answered (fun _ _ impossible => by cases impossible)
    subst unchanged
    rw [isAsked, isEarly]
    apply decides_after (caught_cons id caught_nil)
    cases answer with
    | error error => exact decides_terminal settles
    | ok decision =>
      dsimp only at settles
      split at settles
      · exact decides_terminal settles
      · rcases Exchanges.bind_cases settles with
          ⟨_, recorded, first, rest, isLate, appended, settles⟩ | ⟨error, _, failed⟩
        · rcases lifecycle_settles appended with ⟨_, caught, event, events, isType⟩
          rw [isLate]
          rcases executeDecided_closes same settles with
            ⟨restCaught, result, closed, isResult⟩ | ⟨uncaught, unchanged⟩
          · left
            refine ⟨caught_append.mpr ⟨caught, restCaught⟩, [event], result, ?_,
              Nat.le_refl 1, ?_, isResult⟩
            · rw [closed, events, List.append_assoc]
            · intro other member
              rw [List.mem_singleton.mp member]
              exact isType
          · right
            subst unchanged
            exact ⟨fun all => uncaught (caught_append.mp all).2, event, events, isType⟩
        · rcases lifecycle_settles failed with ⟨impossible, _⟩
          cases impossible
  · rcases Exchanges.attempt_cases failed with ⟨_, impossible, _⟩
    cases impossible

end Parts

/-! ### The whole call -/

theorem numbered_of_append {before after : EventStream} {tail : List Event}
    (events : after.events = before.events ++ tail) {index : Nat} {event : Event}
    (found : tail[index]? = some event) : event.seq = before.events.length + index := by
  have placed : after.events[before.events.length + index]? = some event := by
    rw [events, List.getElem?_append_right (Nat.le_add_right _ _), Nat.add_sub_cancel_left]
    exact found
  unfold EventStream.events at placed
  rw [List.getElem?_map] at placed
  rcases Option.map_eq_some_iff.mp placed with ⟨entry, isEntry, isEvent⟩
  rw [← isEvent]
  exact after.numbered _ entry isEntry

theorem lifecycleRequestFor_named (gateway : BoundToolGateway) {request : ToolRequest}
    (named : request.toolCallId ≠ "") :
    ∃ lifecycleRequest, lifecycleRequestFor gateway request = some lifecycleRequest ∧
      lifecycleRequest.runId = request.runId ∧
      toolStreamId lifecycleRequest = toolStreamId request := by
  unfold lifecycleRequestFor
  rw [if_neg named]
  exact ⟨_, rfl, rfl, rfl⟩

variable {asked : List CallExchange}

theorem execute_settles {gateway : BoundToolGateway} {request : ToolRequest}
    (named : request.toolCallId ≠ "") {before after : EventStream}
    (settles : Settles (toolStreamId request) (gateway.execute digest request) before asked outcome after) :
    ∃ requested middle, middle.events = before.events ++ [requested] ∧
      requested.type = "tool.requested" ∧ Decides middle asked after := by
  rcases lifecycleRequestFor_named gateway named with
    ⟨lifecycleRequest, isLifecycle, sameRun, sameStream⟩
  rw [← sameStream] at settles
  unfold BoundToolGateway.execute at settles
  rw [isLifecycle] at settles
  dsimp only at settles
  rcases Exchanges.bind_cases settles with
    ⟨_, middle, early, late, isAsked, appended, settles⟩ | ⟨error, _, failed⟩
  · rcases lifecycle_settles appended with ⟨_, caught, requested, events, isType⟩
    refine ⟨requested, middle, events, isType, ?_⟩
    rw [isAsked]
    apply decides_after caught
    split at settles
    · exact decides_terminal settles
    · split at settles
      · exact decides_terminal settles
      · split at settles
        · exact decides_terminal settles
        · rename_i definition _ normalizedInput _
          have sameNormalized :
              (gateway.normalizedRequest request normalizedInput).runId = lifecycleRequest.runId :=
            sameRun.symm
          exact executeNormalized_decides sameNormalized settles
  · rcases lifecycle_settles failed with ⟨impossible, _⟩
    cases impossible

/-- A call that settles is complete exactly when the sandbox rejects no call but those
that an effect catches. -/
theorem lifecycle_complete_iff {digest : String → String} {gateway : BoundToolGateway}
    {request : ToolRequest} (named : request.toolCallId ≠ "") {before after : EventStream}
    {asked : List CallExchange} {outcome : Except Thrown ToolResult}
    (settles : Settles (toolStreamId request) (gateway.execute digest request) before asked
      outcome after) :
    Completes before after ↔ ∀ exchange ∈ asked, ¬Uncaught exchange := by
  rcases execute_settles named settles with ⟨requested, middle, events, isRequested, decides⟩
  rcases decides with
    ⟨caught, decided, result, closed, atMostOne, areDecided, isResult⟩ |
    ⟨uncaught, decided, closed, isDecided⟩
  · have all : after.events = before.events ++ requested :: (decided ++ [result]) := by
      rw [closed, events, List.append_assoc, List.singleton_append]
    constructor
    · intro _
      exact caught
    · intro _
      exact ⟨requested, decided, result, all, isRequested, atMostOne, areDecided, isResult,
        fun index event found => numbered_of_append all found⟩
  · constructor
    · rintro ⟨requested', decided', result, all, _, _, _, isResult, _⟩
      have same : before.events ++ requested' :: (decided' ++ [result]) =
          before.events ++ [requested, decided] := by
        rw [← all, closed, events, List.append_assoc]
        rfl
      have tail := List.append_cancel_left same
      have last := congrArg List.getLast? tail
      have isLast : (requested' :: (decided' ++ [result])).getLast? = some result := by
        rw [← List.cons_append, List.getLast?_append]
        rfl
      have isDecidedLast : [requested, decided].getLast? = some decided := rfl
      rw [isLast, isDecidedLast] at last
      rw [Option.some.inj last, isDecided] at isResult
      exact absurd isResult (by decide)
    · intro caught
      exact absurd caught uncaught

/-- One call with the readings of its requests in order. -/
def followCall {α : Type} : List Env → Async α → World →
    Option (List CallExchange × Except Thrown α × World)
  | _, .pure value, world => some ([], .ok value, world)
  | _, .throw error, world => some ([], .error error, world)
  | env :: rest, .ask request next, world =>
    match perform env 0 world request with
    | none => none
    | some (answer, world') =>
      (followCall rest (next answer) world').map
        (fun followed => (⟨request, answer⟩ :: followed.1, followed.2))
  | [], .ask _ _, _ => none

theorem followCall_settles {α : Type} {envs : List Env} {program : Async α} {world' : World}
    {outcome : Except Thrown α} (streamId : StreamId)
    (followed : followCall envs program world = some (asked, outcome, world'))
    (answered : ∀ exchange ∈ asked, Answered exchange.request exchange.answer) :
    Exchanges (Undisturbed streamId) program (world.streams streamId) asked outcome
      (world'.streams streamId) := by
  induction envs generalizing program world asked with
  | nil =>
    cases program with
    | pure value =>
      cases followed
      exact .pure value _
    | throw error =>
      cases followed
      exact .throw error _
    | ask request next => cases followed
  | cons env rest ih =>
    cases program with
    | pure value =>
      cases followed
      exact .pure value _
    | throw error =>
      cases followed
      exact .throw error _
    | ask request next =>
      simp only [followCall] at followed
      split at followed
      · cases followed
      · rename_i answer middle performed
        rcases Option.map_eq_some_iff.mp followed with ⟨⟨asked', outcome', last⟩, later, same⟩
        cases same
        apply Exchanges.ask
        · exact ⟨env, 0, world, middle, performed, rfl, rfl,
            answered _ List.mem_cons_self⟩
        · exact ih later
            (fun exchange member => answered exchange (List.mem_cons_of_mem _ member))

def sampleEnv : Env :=
  { append := .appended
    text := .ok "2026-01-01T00:00:00.000Z"
    decision := .ok "allow"
    sandbox := .ok { status := .succeeded, output := none }
    aborted := false }

def sampleGateway : BoundToolGateway :=
  { catalog := [{ name := "probe", inputSchema := .ok, replayPolicy := some .safe }]
    scope := { workspaceId := "workspace", channelId := "channel" }
    workerProfileId := "worker" }

def sampleRequest : ToolRequest :=
  { workspaceId := "workspace", channelId := "channel", parentRunId := none
    parentEventId := none, laneId := none, runId := "run", workerProfileId := "worker"
    name := "probe", input := .null, effectKey := none, toolCallId := "call" }

/-- The call, of which the sandbox does what the reading says. -/
def sampleCall (sandbox : Except Thrown ToolResult) :
    Option (List CallExchange × Except Thrown ToolResult × World) :=
  followCall (List.replicate 12 { sampleEnv with sandbox }) (sampleGateway.execute id sampleRequest)
    World.empty

def answers (exchange : CallExchange) : Bool :=
  match exchange with
  | ⟨.decide _, _⟩ => true
  | ⟨.sandboxExecute _ _, _⟩ => true
  | ⟨_, .ok _⟩ => true
  | ⟨_, .error _⟩ => false

theorem answered_of_answers (isAnswer : answers exchange = true) :
    Answered exchange.request exchange.answer := by
  rcases exchange with ⟨request, answer⟩
  cases answer with
  | ok value => exact Or.inr ⟨value, rfl⟩
  | error error =>
    cases request with
    | decide asked | sandboxExecute asked replayPolicy => exact Or.inl trivial
    | readStream _ _ | append _ _ | createEventId | now | aborted | coordinate _ _
    | awaitExecution _ | settle _ _ | removeInFlight _ _ => cases isAnswer

variable {sandbox : Except Thrown ToolResult}

theorem sampleCall_settles (called : sampleCall sandbox = some (asked, outcome, world))
    (areAnswers : asked.all answers = true) :
    Settles (toolStreamId sampleRequest) (sampleGateway.execute id sampleRequest) .empty asked
      outcome (world.streams (toolStreamId sampleRequest)) := by
  apply followCall_settles (toolStreamId sampleRequest) called
  intro exchange member
  exact answered_of_answers (List.all_eq_true.mp areAnswers exchange member)

def sampleTypes (called : List CallExchange × Except Thrown ToolResult × World) : List String :=
  (called.2.2.streams (toolStreamId sampleRequest)).events.map (fun event => event.type)

def isUncaught (exchange : CallExchange) : Bool :=
  match exchange with
  | ⟨.sandboxExecute request replayPolicy, .error _⟩ =>
    request.effectKey.isNone || replayPolicy.isNone
  | _ => false

theorem isUncaught_of_uncaught (uncaught : Uncaught exchange) : isUncaught exchange = true := by
  rcases exchange with ⟨request, answer⟩
  cases request with
  | sandboxExecute asked replayPolicy =>
    rcases uncaught with ⟨direct, error, rfl⟩
    change (asked.effectKey.isNone || replayPolicy.isNone) = true
    rcases direct with noKey | noPolicy
    · rw [noKey]
      rfl
    · rw [noPolicy, Option.isNone_none, Bool.or_true]
  | readStream _ _ | append _ _ | createEventId | now | decide _ | aborted | coordinate _ _
  | awaitExecution _ | settle _ _ | removeInFlight _ _ => exact uncaught.elim

theorem sampleCall_of {P : List CallExchange × Except Thrown ToolResult × World → Bool}
    (holds : ((sampleCall sandbox).map P).getD false = true) :
    ∃ asked outcome world, sampleCall sandbox = some (asked, outcome, world) ∧
      P (asked, outcome, world) = true := by
  cases called : sampleCall sandbox with
  | none =>
    rw [called] at holds
    cases holds
  | some followed =>
    rw [called] at holds
    exact ⟨_, _, _, rfl, holds⟩

/-- A call that the sandbox serves is complete. -/
theorem succeeded_call_complete :
    ∃ asked outcome after,
      Settles (toolStreamId sampleRequest) (sampleGateway.execute id sampleRequest) .empty asked
        outcome after ∧ Completes .empty after := by
  have served : ((sampleCall (.ok { status := .succeeded, output := none })).map
      (fun called => called.1.all answers &&
        called.1.all (fun exchange => !isUncaught exchange))).getD false = true := by
    decide +kernel
  rcases sampleCall_of served with ⟨asked, outcome, world, called, isSo⟩
  rcases (Bool.and_eq_true _ _).mp isSo with ⟨areAnswers, areCaught⟩
  have settles := sampleCall_settles called areAnswers
  refine ⟨asked, outcome, _, settles, ?_⟩
  apply (lifecycle_complete_iff (by decide) settles).mpr
  intro exchange member uncaught
  have caught := List.all_eq_true.mp areCaught exchange member
  rw [isUncaught_of_uncaught uncaught] at caught
  cases caught

/-- A sandbox that rejects a call leaves it without a result. -/
theorem rejected_call_incomplete :
    ∃ asked outcome after,
      Settles (toolStreamId sampleRequest) (sampleGateway.execute id sampleRequest) .empty asked
        outcome after ∧ ¬Completes .empty after := by
  have rejected : ((sampleCall (.error (.error "sandbox rejected"))).map
      (fun called => called.1.all answers &&
        decide (sampleTypes called = ["tool.requested", "tool.policy.decided"]))).getD false =
      true := by
    decide +kernel
  rcases sampleCall_of rejected with ⟨asked, outcome, world, called, isSo⟩
  rcases (Bool.and_eq_true _ _).mp isSo with ⟨areAnswers, areTypes⟩
  refine ⟨asked, outcome, _, sampleCall_settles called areAnswers, ?_⟩
  rintro ⟨requested, decided, result, events, _, _, _, isResult, _⟩
  have types : (world.streams (toolStreamId sampleRequest)).events.map
      (fun event => event.type) = ["tool.requested", "tool.policy.decided"] :=
    of_decide_eq_true areTypes
  rw [events] at types
  have last := congrArg List.getLast? types
  rw [← List.cons_append, ← List.append_assoc, List.map_append, List.getLast?_append] at last
  have isLast : some result.type = some "tool.policy.decided" := last
  rw [isResult] at isLast
  exact absurd isLast (by decide)

end AnnaAgent.Tools
