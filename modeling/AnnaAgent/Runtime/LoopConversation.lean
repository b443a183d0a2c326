/-
The conversation that the agent loop keeps.

Every message list is the initial request followed by entries: what the user
said in between, the texts of the model, the nudges of the handler, and tool
rounds, each with one observation for every call.  A turn that goes on adds
its entries once, whichever way it goes on.
-/

import AnnaAgent.Runtime.AgentLoop

namespace AnnaAgent.Runtime

open Foundation

inductive Entry where
  | interjection (text : String)
  | answer (text : String)
  | nudge (text : String)
  | round (text : String) (answered : List (ModelToolCall × Message))

namespace Entry

def messages : Entry → List Message
  | interjection text => [userMessage text]
  | answer text => [assistantMessage text]
  | nudge text => [userMessage text]
  | round text answered =>
    assistantToolCallMessage text (answered.map Prod.fst) :: answered.map Prod.snd

def interjection? : Entry → Option String
  | interjection text => some text
  | _ => none

def nudge? : Entry → Option String
  | nudge text => some text
  | _ => none

def round? : Entry → Option (List (ModelToolCall × Message))
  | round _ answered => some answered
  | _ => none

end Entry

def Turn.toolCalls (turn : Turn) : List ModelToolCall := turn.streamed.toolCalls

def Turn.nudges (turn : Turn) : List String :=
  if turn.toolCalls.isEmpty then turn.onAssistantFinal.toList else []

/-- The calls of a turn, each with the value that its dispatch returned. -/
structure RoundOf (turn : Turn) (answered : List (ModelToolCall × Message)) : Prop where
  calls : answered.map Prod.fst = turn.toolCalls
  observed : ∀ position toolCall observation,
    answered[position]? = some (toolCall, observation) →
      turn.dispatchTool position toolCall = .ok observation

/-- Entries that hold what was drained in some turns, and the nudges and tool
rounds of the ones that are past, each of them once. -/
structure Entries (handler : CapabilityHandler) (heard past : List Turn)
    (entries : List Entry) : Prop where
  interjections : entries.filterMap Entry.interjection? = heard.flatMap handler.drained
  nudges : entries.filterMap Entry.nudge? = past.flatMap Turn.nudges
  rounds : List.Forall₂ RoundOf (past.filter (fun turn => !turn.toolCalls.isEmpty))
    (entries.filterMap Entry.round?)

variable {handler : CapabilityHandler} {config : QueryConfig} {state : RunState}

theorem Entries.append {heard past heard' past' : List Turn} {first second : List Entry}
    (former : Entries handler heard past first) (latter : Entries handler heard' past' second) :
    Entries handler (heard ++ heard') (past ++ past') (first ++ second) := by
  constructor
  · rw [List.filterMap_append, List.flatMap_append, former.interjections, latter.interjections]
  · rw [List.filterMap_append, List.flatMap_append, former.nudges, latter.nudges]
  · rw [List.filterMap_append, List.filter_append]
    exact List.rel_append former.rounds latter.rounds

def Recorded (handler : CapabilityHandler) (heard past : List Turn)
    (messages : List Message) : Prop :=
  ∃ entries, messages = handler.initialRequest.messages ++ entries.flatMap Entry.messages ∧
    Entries handler heard past entries

theorem Recorded.extend {heard past heard' past' : List Turn} {messages : List Message}
    {entries : List Entry} (conversation : Recorded handler heard past messages)
    (more : Entries handler heard' past' entries) :
    Recorded handler (heard ++ heard') (past ++ past')
      (messages ++ entries.flatMap Entry.messages) := by
  obtain ⟨earlier, written, kept⟩ := conversation
  refine ⟨earlier ++ entries, ?_, kept.append more⟩
  rw [written, List.flatMap_append, List.append_assoc]

theorem heard_entries (handler : CapabilityHandler) (turn : Turn) :
    Entries handler [turn] [] ((handler.drained turn).map Entry.interjection) := by
  have said : ∀ texts : List String,
      (texts.map Entry.interjection).filterMap Entry.interjection? = texts := by
    intro texts
    induction texts with
    | nil => rfl
    | cons text rest ih => exact congrArg (text :: ·) ih
  have others : ∀ {α : Type} (read : Entry → Option α) (texts : List String),
      (∀ text, read (.interjection text) = none) →
      (texts.map Entry.interjection).filterMap read = [] := by
    intro α read texts unread
    induction texts with
    | nil => rfl
    | cons text rest ih => rw [List.map_cons, List.filterMap_cons, unread text, ih]
  constructor
  · rw [said, List.flatMap_singleton]
  · rw [others Entry.nudge? _ (fun _ => rfl)]
    rfl
  · rw [others Entry.round? _ (fun _ => rfl)]
    exact .nil

theorem heard_messages (handler : CapabilityHandler) (turn : Turn) (state : RunState) :
    (steer handler turn state).messages = state.messages ++
      ((handler.drained turn).map Entry.interjection).flatMap Entry.messages := by
  have spoken : ∀ texts : List String,
      (texts.map Entry.interjection).flatMap Entry.messages = texts.map userMessage := by
    intro texts
    induction texts with
    | nil => rfl
    | cons text rest ih => exact congrArg (userMessage text :: ·) ih
  rw [spoken]
  rfl

/-- How far dispatches came: every observation is the answer to the call at
its position, and where one raised, the calls before it are the observed ones. -/
structure DispatchedFrom (turn : Turn) (position : Nat) (toolCalls : List ModelToolCall)
    (dispatched : Dispatched) : Prop where
  observed : ∀ index toolCall observation, toolCalls[index]? = some toolCall →
    dispatched.observations[index]? = some observation →
    turn.dispatchTool (position + index) toolCall = .ok observation
  complete : dispatched.raised = none → dispatched.observations.length = toolCalls.length
  raising : ∀ raised, dispatched.raised = some raised → ∃ toolCall,
    toolCalls[dispatched.observations.length]? = some toolCall ∧
    turn.dispatchTool (position + dispatched.observations.length) toolCall = .error raised

theorem dispatchAll_from (handler : CapabilityHandler) (turn : Turn) (turnCount position : Nat)
    (toolCalls : List ModelToolCall) :
    DispatchedFrom turn position toolCalls
      (dispatchAll handler turn turnCount position toolCalls) := by
  induction toolCalls generalizing position with
  | nil =>
    refine ⟨?_, fun _ => rfl, ?_⟩
    · intro index toolCall observation isCall
      cases isCall
    · intro raised isRaised
      cases isRaised
  | cons toolCall rest ih =>
    cases answer : turn.dispatchTool position toolCall with
    | error raised =>
      rw [dispatchAll, answer]
      refine ⟨?_, ?_, ?_⟩
      · intro index other observation _ observed
        cases observed
      · intro notRaised
        cases notRaised
      · intro other isRaised
        cases isRaised
        exact ⟨toolCall, rfl, answer⟩
    | ok observation =>
      have later := ih (position + 1)
      rw [dispatchAll, answer]
      refine ⟨?_, ?_, ?_⟩
      · intro index other observed isCall isObserved
        cases index with
        | zero =>
          cases isCall
          cases isObserved
          exact answer
        | succ index =>
          have shift : position + (index + 1) = position + 1 + index := by omega
          rw [shift]
          exact later.observed index other observed isCall isObserved
      · intro notRaised
        exact congrArg (· + 1) (later.complete notRaised)
      · intro raised isRaised
        obtain ⟨failing, isFailing, raises⟩ := later.raising raised isRaised
        refine ⟨failing, isFailing, ?_⟩
        rw [← raises]
        congr 1
        exact (Nat.add_assoc position _ 1).symm.trans (Nat.add_right_comm position _ 1)

def SuspendedAt (turn : Turn) (observations : List Message) (reason : String) (detail : Json) :
    Prop :=
  (turn.onToolBatch = some (.error (.capabilitySuspend reason detail)) ∧ observations = []) ∨
  ∃ toolCall, turn.toolCalls[observations.length]? = some toolCall ∧
    turn.dispatchTool observations.length toolCall = .error (.capabilitySuspend reason detail)

theorem dispatchBatch_observed (handler : CapabilityHandler) (turn : Turn) (turnCount : Nat)
    (toolCalls : List ModelToolCall) (index : Nat) (toolCall : ModelToolCall)
    (observation : Message) (isCall : toolCalls[index]? = some toolCall)
    (observed : (dispatchBatch handler turn turnCount toolCalls).observations[index]? =
      some observation) : turn.dispatchTool index toolCall = .ok observation := by
  rw [dispatchBatch] at observed
  split at observed
  · cases observed
  · have answer := (dispatchAll_from handler turn turnCount 0 toolCalls).observed index toolCall
      observation isCall observed
    rw [Nat.zero_add] at answer
    exact answer

variable {turn : Turn}

theorem dispatchBatch_complete {turnCount : Nat} {toolCalls : List ModelToolCall}
    (notRaised : (dispatchBatch handler turn turnCount toolCalls).raised = none) :
    (dispatchBatch handler turn turnCount toolCalls).observations.length = toolCalls.length := by
  rw [dispatchBatch] at notRaised ⊢
  split at notRaised
  · cases notRaised
  · exact (dispatchAll_from handler turn turnCount 0 toolCalls).complete notRaised

theorem dispatchBatch_suspended {turnCount : Nat} {reason : String} {detail : Json}
    (raised : (dispatchBatch handler turn turnCount turn.toolCalls).raised = some (.capabilitySuspend reason detail)) :
    SuspendedAt turn (dispatchBatch handler turn turnCount turn.toolCalls).observations
      reason detail := by
  rw [dispatchBatch] at raised ⊢
  cases hook : turn.onToolBatch with
  | none =>
    rw [hook] at raised
    obtain ⟨toolCall, isCall, raises⟩ :=
      (dispatchAll_from handler turn turnCount 0 turn.toolCalls).raising _ raised
    rw [Nat.zero_add] at raises
    exact Or.inr ⟨toolCall, isCall, raises⟩
  | some answer =>
    rw [hook] at raised
    cases answer with
    | error failure =>
      cases raised
      exact Or.inl ⟨hook, rfl⟩
    | ok _ =>
      obtain ⟨toolCall, isCall, raises⟩ :=
        (dispatchAll_from handler turn turnCount 0 turn.toolCalls).raising _ raised
      rw [Nat.zero_add] at raises
      exact Or.inr ⟨toolCall, isCall, raises⟩

theorem round_entries (turnCount : Nat) (requested : turn.toolCalls.isEmpty = false)
    (notRaised : (dispatchBatch handler turn turnCount turn.toolCalls).raised = none) :
    ∃ entries, Entries handler [] [turn] entries ∧
      entries.flatMap Entry.messages = assistantToolCallMessage turn.streamed.text turn.toolCalls ::
        (dispatchBatch handler turn turnCount turn.toolCalls).observations := by
  have complete := dispatchBatch_complete notRaised
  have observed := dispatchBatch_observed handler turn turnCount turn.toolCalls
  generalize (dispatchBatch handler turn turnCount turn.toolCalls).observations = observations
    at complete observed
  refine ⟨[.round turn.streamed.text (turn.toolCalls.zip observations)], ⟨rfl, ?_, ?_⟩, ?_⟩
  · rw [List.flatMap_singleton, Turn.nudges, requested, if_neg Bool.false_ne_true]
    rfl
  · rw [List.filter_cons_of_pos (by rw [requested]; rfl)]
    refine .cons ⟨?_, ?_⟩ .nil
    · exact List.map_fst_zip complete.ge
    · intro position toolCall observation isAnswered
      rw [List.getElem?_zip_eq_some] at isAnswered
      exact observed position toolCall observation isAnswered.1 isAnswered.2
  · rw [List.flatMap_singleton, Entry.messages, List.map_fst_zip complete.ge,
      List.map_snd_zip complete.le]

theorem answer_entries (handler : CapabilityHandler) (none : turn.toolCalls.isEmpty = true) :
    ∃ entries, Entries handler [] [turn] entries ∧ entries.flatMap Entry.messages =
      assistantMessage turn.streamed.text :: turn.onAssistantFinal.toList.map userMessage := by
  have nudges : turn.nudges = turn.onAssistantFinal.toList := by
    rw [Turn.nudges, none, if_pos rfl]
  refine ⟨.answer turn.streamed.text :: turn.onAssistantFinal.toList.map Entry.nudge,
    ⟨?_, ?_, ?_⟩, ?_⟩
  · cases turn.onAssistantFinal <;> rfl
  · rw [List.flatMap_singleton, nudges]
    cases turn.onAssistantFinal <;> rfl
  · rw [List.filter_cons_of_neg (by rw [none]; decide)]
    cases turn.onAssistantFinal <;> exact .nil
  · cases turn.onAssistantFinal <;> rfl

/-! ### How a turn ends -/

def LoopEvent.Ends : LoopEvent → LoopOutcome → Prop
  | .done turns, outcome => outcome.status = .completed ∧ outcome.turns = turns
  | .exhausted turns, outcome =>
    (outcome.status = .exhausted ∨ outcome.status = .exhaustedSuspended) ∧ outcome.turns = turns
  | .error errorCode message, outcome =>
    outcome.status = .failed ∧ outcome.errorCode = errorCode ∧ outcome.message = message
  | .awaitingInput reason _, outcome =>
    outcome.status = .suspended ∧ outcome.message = some reason ∧ reason = "awaiting_input"
  | .awaitingApproval reason _, outcome =>
    outcome.status = .suspended ∧ outcome.message = some reason ∧ reason ≠ "awaiting_input"
  | _, _ => False

def Quiet (events : List LoopEvent) : Prop :=
  ∀ event ∈ events, event.isTerminal = false

/-- One terminal event, the last one, that matches the outcome. -/
def EndsWith (events : List LoopEvent) (outcome : LoopOutcome) : Prop :=
  ∃ earlier last, events = earlier ++ [last] ∧ Quiet earlier ∧ last.Ends outcome

theorem Quiet.append {first second : List LoopEvent} (former : Quiet first)
    (latter : Quiet second) : Quiet (first ++ second) := by
  intro event member
  rcases List.mem_append.1 member with isFormer | isLatter
  · exact former event isFormer
  · exact latter event isLatter

variable {events : List LoopEvent}

theorem quiet_cons {event : LoopEvent} (first : event.isTerminal = false) (rest : Quiet events) :
    Quiet (event :: events) := by
  intro other member
  rcases List.mem_cons.1 member with isFirst | later
  · rw [isFirst]
    exact first
  · exact rest other later

theorem quiet_nil : Quiet [] := nofun

variable {earlier : List LoopEvent}

theorem EndsWith.after {outcome : LoopOutcome} (ends : EndsWith events outcome)
    (quiet : Quiet earlier) :
    EndsWith (earlier ++ events) outcome := by
  obtain ⟨first, last, same, silent, matched⟩ := ends
  exact ⟨earlier ++ first, last, by rw [same, List.append_assoc], quiet.append silent, matched⟩

theorem quiet_stepFrames (handler : CapabilityHandler) (phase intent : String)
    (tool : Option String) (turn : Nat) : Quiet (handler.stepFrames phase intent tool turn) := by
  rw [CapabilityHandler.stepFrames]
  split
  · exact quiet_cons rfl quiet_nil
  · exact quiet_nil

theorem quiet_readStream (chunks : List ModelChunk) (text : String)
    (toolCalls : List ModelToolCall) : Quiet (readStream chunks text toolCalls).events := by
  induction chunks generalizing text toolCalls with
  | nil => exact quiet_nil
  | cons chunk rest ih =>
    rw [readStream]
    by_cases isDelta : chunk.kind = "text_delta"
    · rw [if_pos isDelta]
      by_cases empty : chunk.text = ""
      · rw [if_pos empty]
        exact ih text toolCalls
      · rw [if_neg empty]
        exact quiet_cons rfl (ih _ _)
    · rw [if_neg isDelta]
      by_cases isError : chunk.kind = "error"
      · rw [if_pos isError]
        exact quiet_nil
      · rw [if_neg isError]
        by_cases isFinal : chunk.kind = "final"
        · rw [if_pos isFinal]
          exact ih _ _
        · rw [if_neg isFinal]
          exact ih _ _

theorem quiet_dispatchAll (handler : CapabilityHandler) (turn : Turn)
    (turnCount position : Nat) (toolCalls : List ModelToolCall) :
    Quiet (dispatchAll handler turn turnCount position toolCalls).events := by
  induction toolCalls generalizing position with
  | nil => exact quiet_nil
  | cons toolCall rest ih =>
    have started : Quiet (handler.stepFrames "tool" (turn.intents (position + 1))
        (some toolCall.name) turnCount ++ [.toolStart toolCall.name]) :=
      (quiet_stepFrames _ _ _ _ _).append (quiet_cons rfl quiet_nil)
    cases answer : turn.dispatchTool position toolCall with
    | error raised =>
      rw [dispatchAll, answer]
      exact started
    | ok observation =>
      rw [dispatchAll, answer]
      exact started.append (quiet_cons rfl (ih (position + 1)))

theorem quiet_dispatchBatch (handler : CapabilityHandler) (turn : Turn) (turnCount : Nat)
    (toolCalls : List ModelToolCall) :
    Quiet (dispatchBatch handler turn turnCount toolCalls).events := by
  rw [dispatchBatch]
  split
  · exact quiet_nil
  · exact quiet_dispatchAll handler turn turnCount 0 toolCalls

/-- What a turn that sent a message list leaves when it ends the run. -/
structure Snapshot (config : QueryConfig) (handler : CapabilityHandler) (turn : Turn)
    (sent : List Message) (outcome : LoopOutcome) : Prop where
  resumable : outcome.status ≠ .suspended → ∀ messages, outcome.messages = some messages →
    ∃ entries, Entries handler [] [turn] entries ∧ messages = sent ++ entries.flatMap Entry.messages
  suspended : outcome.status = .suspended → ∀ messages, outcome.messages = some messages →
    ∃ observations reason detail,
      messages = sent ++
        assistantToolCallMessage turn.streamed.text turn.toolCalls :: observations ∧
      outcome.message = some reason ∧ SuspendedAt turn observations reason detail ∧
      ∀ index toolCall observation, turn.toolCalls[index]? = some toolCall →
        observations[index]? = some observation → turn.dispatchTool index toolCall = .ok observation
  onComplete : outcome.status = .completed →
    (outcome.messages.isSome = true ↔ config.carryMessagesOnComplete = true)
  onSuspend : outcome.status = .suspended →
    (outcome.messages.isSome = true ↔ config.carryMessagesOnSuspend = true)
  onExhaust : outcome.status = .exhausted ∨ outcome.status = .exhaustedSuspended →
    (outcome.messages.isSome = true ↔ config.suspendOnExhaust = true)

theorem snapshot_failed (config : QueryConfig) (handler : CapabilityHandler) (turn : Turn)
    (sent : List Message) (errorCode message : Option String) :
    Snapshot config handler turn sent { status := .failed, errorCode, message } := by
  constructor
  · intro _ messages carried
    cases carried
  · intro isSuspended
    cases isSuspended
  · intro isCompleted
    cases isCompleted
  · intro isSuspended
    cases isSuspended
  · intro isExhausted
    rcases isExhausted with plain | suspended
    · cases plain
    · cases suspended

inductive TurnEnd (config : QueryConfig) (handler : CapabilityHandler) (turn : Turn)
    (state : RunState) : TurnResult → Prop
  | finished {events : List LoopEvent} {outcome : LoopOutcome}
      (ends : EndsWith events outcome)
      (snapshot : Snapshot config handler turn state.messages outcome) :
      TurnEnd config handler turn state (.finished events outcome)
  | continued {events : List LoopEvent} {next : RunState} {entries : List Entry}
      (quiet : Quiet events) (kept : Entries handler [] [turn] entries)
      (messages : next.messages = state.messages ++ entries.flatMap Entry.messages)
      (counted : next.turnCount = state.turnCount + 1)
      (affordable : config.isSpent (state.turnCount + 1) = false) :
      TurnEnd config handler turn state (.continued events next)

theorem TurnEnd.after {result : TurnResult} (ends : TurnEnd config handler turn state result)
    (quiet : Quiet earlier) : TurnEnd config handler turn state (result.after earlier) := by
  cases ends with
  | finished ends snapshot => exact .finished (ends.after quiet) snapshot
  | continued silent kept messages counted affordable =>
    exact .continued (quiet.append silent) kept messages counted affordable

theorem nextTurnOr_end {added : List Message} (transition : Transition) {entries : List Entry}
    (kept : Entries handler [] [turn] entries) (written : entries.flatMap Entry.messages = added) :
    TurnEnd config handler turn state
      (nextTurnOr config state (state.messages ++ added) transition) := by
  rw [nextTurnOr]
  cases spent : config.isSpent (state.turnCount + 1) with
  | false =>
    rw [if_neg Bool.false_ne_true]
    exact .continued quiet_nil kept (by rw [written]) rfl spent
  | true =>
    rw [if_pos rfl, exhaustedOutcome]
    by_cases resumes : config.suspendOnExhaust = true
    · rw [if_pos resumes]
      refine .finished ⟨[], _, rfl, quiet_nil, Or.inr rfl, rfl⟩ ?_
      constructor
      · intro _ messages carried
        cases carried
        exact ⟨entries, kept, by rw [written]⟩
      · intro isSuspended
        cases isSuspended
      · intro isCompleted
        cases isCompleted
      · intro isSuspended
        cases isSuspended
      · exact fun _ => ⟨fun _ => resumes, fun _ => rfl⟩
    · rw [if_neg resumes]
      refine .finished ⟨[], _, rfl, quiet_nil, Or.inl rfl, rfl⟩ ?_
      constructor
      · intro _ messages carried
        cases carried
      · intro isSuspended
        cases isSuspended
      · intro isCompleted
        cases isCompleted
      · intro isSuspended
        cases isSuspended
      · exact fun _ => ⟨fun carried => absurd carried Bool.false_ne_true,
          fun asked => absurd asked resumes⟩

theorem finalTurn_end (noCalls : turn.toolCalls.isEmpty = true) :
    TurnEnd config handler turn state (finalTurn config handler turn state turn.streamed.text) := by
  obtain ⟨entries, kept, written⟩ := answer_entries handler noCalls
  rw [finalTurn]
  cases nudged : turn.onAssistantFinal with
  | some nudge =>
    rw [nudged] at written
    exact nextTurnOr_end .guidanceNudge kept written
  | none =>
    rw [nudged] at written
    refine .finished ⟨_, _, rfl, quiet_stepFrames _ _ _ _ _, rfl, rfl⟩ ?_
    constructor
    · intro _ messages carried
      change (if config.carryMessagesOnComplete = true then _ else none) = _ at carried
      split at carried
      · cases carried
        exact ⟨entries, kept, by rw [written]; rfl⟩
      · cases carried
    · intro isSuspended
      cases isSuspended
    · intro _
      change (if config.carryMessagesOnComplete = true then some _ else none).isSome = true ↔ _
      cases config.carryMessagesOnComplete with
      | true => exact ⟨fun _ => rfl, fun _ => rfl⟩
      | false => exact ⟨id, id⟩
    · intro isSuspended
      cases isSuspended
    · intro isExhausted
      rcases isExhausted with plain | suspended
      · cases plain
      · cases suspended

theorem suspendEvent_ends (reason : String) (detail : Json) (outcome : LoopOutcome)
    (suspended : outcome.status = .suspended) (told : outcome.message = some reason) :
    (suspendEvent reason detail).Ends outcome := by
  rw [suspendEvent]
  by_cases isInput : reason = "awaiting_input"
  · rw [if_pos isInput]
    exact ⟨suspended, told, isInput⟩
  · rw [if_neg isInput]
    exact ⟨suspended, told, isInput⟩

theorem toolTurn_end (requested : turn.toolCalls.isEmpty = false) :
    TurnEnd config handler turn state
      (toolTurn config handler turn state turn.streamed.text turn.toolCalls) := by
  have quiet := quiet_dispatchBatch handler turn state.turnCount turn.toolCalls
  rw [toolTurn]
  cases ended : (dispatchBatch handler turn state.turnCount turn.toolCalls).raised with
  | none =>
    obtain ⟨entries, kept, written⟩ := round_entries state.turnCount requested ended
    exact (nextTurnOr_end .nextTurn kept written).after quiet
  | some raised =>
    cases raised with
    | capabilityError errorCode message =>
      exact .finished ⟨_, _, rfl, quiet, rfl, rfl, rfl⟩ (snapshot_failed _ _ _ _ _ _)
    | capabilitySuspend reason detail =>
      refine .finished ⟨_, _, rfl, quiet, suspendEvent_ends reason detail _ rfl rfl⟩ ?_
      constructor
      · intro notSuspended
        exact absurd rfl notSuspended
      · intro _ messages carried
        change (if config.carryMessagesOnSuspend = true then _ else none) = _ at carried
        split at carried
        · cases carried
          exact ⟨_, reason, detail, rfl, rfl, dispatchBatch_suspended ended,
            dispatchBatch_observed handler turn state.turnCount turn.toolCalls⟩
        · cases carried
      · intro isCompleted
        cases isCompleted
      · intro _
        change (if config.carryMessagesOnSuspend = true then some _ else none).isSome = true ↔ _
        cases config.carryMessagesOnSuspend with
        | true => exact ⟨fun _ => rfl, fun _ => rfl⟩
        | false => exact ⟨id, id⟩
      · intro isExhausted
        rcases isExhausted with plain | suspended
        · cases plain
        · cases suspended

theorem runTurn_end (config : QueryConfig) (handler : CapabilityHandler) (turn : Turn)
    (state : RunState) : TurnEnd config handler turn state (runTurn config handler turn state) := by
  have quiet : Quiet (handler.stepFrames "analyze" (turn.intents 0) none state.turnCount ++
      turn.streamed.events) :=
    (quiet_stepFrames _ _ _ _ _).append (quiet_readStream turn.chunks "" [])
  rw [runTurn]
  cases failed : turn.streamed.failure with
  | some failure => exact .finished ⟨_, _, rfl, quiet, rfl, rfl, rfl⟩ (snapshot_failed _ _ _ _ _ _)
  | none =>
    cases requested : turn.streamed.toolCalls.isEmpty with
    | true => exact (finalTurn_end requested).after quiet
    | false => exact (toolTurn_end requested).after quiet

structure LoopKept (config : QueryConfig) (handler : CapabilityHandler) (state : RunState)
    (turns : List Turn) (report : Report) : Prop where
  bounded : 0 < config.maxTurns → (state.turnCount : Int) ≤ config.maxTurns →
    (report.requests.length : Int) + state.turnCount ≤ config.maxTurns + 1
  requests : ∀ index request, report.requests[index]? = some request →
    ∃ entries, Entries handler (turns.take (index + 1)) (turns.take index) entries ∧
      request.messages = state.messages ++ entries.flatMap Entry.messages
  extended : report.requests.Pairwise (fun earlier later => earlier.messages <+: later.messages)
  ended : ∀ outcome, report.outcome = some outcome → EndsWith report.events outcome ∧
    ∃ count turn request, report.requests.length = count + 1 ∧ turns[count]? = some turn ∧
      report.requests[count]? = some request ∧
      Snapshot config handler turn request.messages outcome
  running : report.outcome = none → Quiet report.events ∧
    (0 < config.maxTurns → (state.turnCount : Int) ≤ config.maxTurns →
      (turns.length : Int) + state.turnCount ≤ config.maxTurns)

theorem affordable_le {nextTurn : Nat} (affordable : config.isSpent nextTurn = false)
    (positive : 0 < config.maxTurns) : (nextTurn : Int) ≤ config.maxTurns := by
  by_contra spent
  have isSpent : config.isSpent nextTurn = true := decide_eq_true ⟨by omega, by omega⟩
  rw [isSpent] at affordable
  exact absurd affordable (by decide)

theorem loop_kept (config : QueryConfig) (handler : CapabilityHandler) (state : RunState)
    (turns : List Turn) : LoopKept config handler state turns (loop config handler state turns) := by
  induction turns generalizing state with
  | nil =>
    refine ⟨?_, ?_, .nil, ?_, ?_⟩
    · intro _ within
      change (0 : Int) + _ ≤ _
      omega
    · intro index request present
      cases present
    · intro outcome isOutcome
      cases isOutcome
    · refine fun _ => ⟨quiet_nil, fun _ within => ?_⟩
      change (0 : Int) + _ ≤ _
      omega
  | cons turn turns ih =>
    have turned := runTurn_end config handler turn (steer handler turn state)
    have heard := heard_messages handler turn state
    have first : Entries handler ((turn :: turns).take 1) ((turn :: turns).take 0)
        ((handler.drained turn).map Entry.interjection) := heard_entries handler turn
    rw [loop]
    cases result : runTurn config handler turn (steer handler turn state) with
    | finished events outcome =>
      rw [result] at turned
      cases turned with
      | finished ends snapshot =>
        refine ⟨?_, ?_, List.pairwise_singleton _ _, ?_, ?_⟩
        · intro _ within
          change (1 : Int) + _ ≤ _
          omega
        · intro index request present
          cases index with
          | zero =>
            cases present
            exact ⟨_, first, heard⟩
          | succ index => cases present
        · intro other isOutcome
          cases isOutcome
          exact ⟨ends, 0, turn, _, rfl, rfl, rfl, snapshot⟩
        · intro isRunning
          cases isRunning
    | continued events next =>
      rw [result] at turned
      cases turned with
      | @continued _ _ entries quiet kept messages counted affordable =>
        have later := ih next
        have through : Entries handler [turn] [turn]
            ((handler.drained turn).map Entry.interjection ++ entries) := first.append kept
        have written : next.messages = state.messages ++
            ((handler.drained turn).map Entry.interjection ++ entries).flatMap
              Entry.messages := by
          rw [messages, heard, List.flatMap_append, List.append_assoc]
        have turnCount : next.turnCount = state.turnCount + 1 := counted
        refine ⟨?_, ?_, ?_, ?_, ?_⟩
        · intro positive _
          have rest := later.bounded positive
            (by rw [turnCount]; exact affordable_le affordable positive)
          rw [turnCount] at rest
          change (((_ :: _ : List ModelRequest).length : Nat) : Int) + _ ≤ _
          rw [List.length_cons]
          omega
        · intro index request present
          cases index with
          | zero =>
            cases present
            exact ⟨_, first, heard⟩
          | succ index =>
            obtain ⟨more, keptLater, isWritten⟩ := later.requests index request present
            refine ⟨_, through.append keptLater, ?_⟩
            rw [isWritten, written, List.append_assoc, ← List.flatMap_append]
        · refine List.Pairwise.cons ?_ later.extended
          intro request member
          obtain ⟨index, inRange, isRequest⟩ := List.getElem_of_mem member
          obtain ⟨more, _, isWritten⟩ := later.requests index request
            (by rw [List.getElem?_eq_getElem inRange, isRequest])
          change (steer handler turn state).messages <+: request.messages
          rw [isWritten, messages, List.append_assoc]
          exact List.prefix_append _ _
        · intro outcome isOutcome
          obtain ⟨ends, count, last, request, length, isLast, isRequest, snapshot⟩ :=
            later.ended outcome isOutcome
          exact ⟨ends.after quiet, count + 1, last, request, congrArg (· + 1) length, isLast,
            isRequest, snapshot⟩
        · intro isRunning
          obtain ⟨silent, within⟩ := later.running isRunning
          refine ⟨quiet.append silent, ?_⟩
          intro positive _
          have rest := within positive (by rw [turnCount]; exact affordable_le affordable positive)
          rw [turnCount] at rest
          rw [List.length_cons]
          omega

/-- What a run of the agent loop keeps. -/
structure ConversationKept (config : QueryConfig) (handler : CapabilityHandler)
    (turns : List Turn) (report : Report) : Prop where
  bounded : 0 < config.maxTurns → (report.requests.length : Int) ≤ config.maxTurns
  drains : 0 < config.maxTurns → config.maxTurns ≤ turns.length → report.outcome ≠ none
  ends : ∀ outcome, report.outcome = some outcome → EndsWith report.events outcome
  extended : report.requests.Pairwise (fun earlier later => earlier.messages <+: later.messages)
  requests : ∀ index request, report.requests[index]? = some request →
    Recorded handler (turns.take (index + 1)) (turns.take index) request.messages
  snapshot : ∀ outcome messages, report.outcome = some outcome → outcome.status ≠ .suspended →
    outcome.messages = some messages →
      (∀ request ∈ report.requests, request.messages <+: messages) ∧
      Recorded handler (turns.take report.requests.length) (turns.take report.requests.length)
        messages
  suspended : ∀ outcome messages, report.outcome = some outcome → outcome.status = .suspended →
    outcome.messages = some messages →
    ∃ turn request observations reason detail,
      turns[report.requests.length - 1]? = some turn ∧
      report.requests.getLast? = some request ∧
      messages = request.messages ++
        assistantToolCallMessage turn.streamed.text turn.toolCalls :: observations ∧
      outcome.message = some reason ∧ SuspendedAt turn observations reason detail ∧
      ∀ index toolCall observation, turn.toolCalls[index]? = some toolCall →
        observations[index]? = some observation → turn.dispatchTool index toolCall = .ok observation
  carried : ∀ outcome, report.outcome = some outcome →
    (outcome.status = .completed →
      (outcome.messages.isSome = true ↔ config.carryMessagesOnComplete = true)) ∧
    (outcome.status = .suspended →
      (outcome.messages.isSome = true ↔ config.carryMessagesOnSuspend = true)) ∧
    (outcome.status = .exhausted ∨ outcome.status = .exhaustedSuspended →
      (outcome.messages.isSome = true ↔ config.suspendOnExhaust = true))

/-- A run of the agent loop spends at most `maxTurns` model calls and ends
with one terminal event that matches its outcome.  Its message lists extend
one another; each holds every tool round of the turns before with one
observation for each call, in order, and every interjection drained and every
nudge returned so far once, as a user message of its own.  A suspended snapshot
leaves open the calls from the suspending one on. -/
theorem agentLoop_keeps_conversation (config : QueryConfig) (handler : CapabilityHandler)
    (turns : List Turn) :
    ConversationKept config handler turns (agentLoop config handler turns) := by
  have kept : LoopKept config handler _ turns (agentLoop config handler turns) :=
    loop_kept config handler _ turns
  have recorded : ∀ index request, (agentLoop config handler turns).requests[index]? =
      some request →
      Recorded handler (turns.take (index + 1)) (turns.take index) request.messages := by
    intro index request present
    obtain ⟨entries, entriesKept, written⟩ := kept.requests index request present
    exact ⟨entries, written, entriesKept⟩
  constructor
  · intro positive
    have bound := kept.bounded positive positive
    change _ + ((1 : Nat) : Int) ≤ _ at bound
    omega
  · intro positive enough isRunning
    have bound := (kept.running isRunning).2 positive positive
    change _ + ((1 : Nat) : Int) ≤ _ at bound
    omega
  · exact fun outcome isOutcome => (kept.ended outcome isOutcome).1
  · exact kept.extended
  · exact recorded
  · intro outcome messages isOutcome notSuspended carried
    obtain ⟨_, count, turn, request, length, isTurn, isRequest, snapshot⟩ :=
      kept.ended outcome isOutcome
    obtain ⟨entries, added, written⟩ := snapshot.resumable notSuspended messages carried
    have closed : turns.take count ++ [turn] = turns.take (count + 1) := by
      rw [List.take_add_one, isTurn]
      rfl
    have extended := (recorded count request isRequest).extend added
    rw [closed, List.append_nil, ← written] at extended
    rw [length]
    refine ⟨?_, extended⟩
    intro earlier member
    obtain ⟨index, inRange, isEarlier⟩ := List.getElem_of_mem member
    obtain ⟨atEnd, isLast⟩ := List.getElem?_eq_some_iff.1 isRequest
    rw [written]
    refine List.IsPrefix.trans ?_ (List.prefix_append _ _)
    rcases Nat.lt_or_ge index count with before | after
    · have prefixes := List.pairwise_iff_getElem.1 kept.extended index count inRange atEnd before
      rw [isEarlier, isLast] at prefixes
      exact prefixes
    · have same : index = count := by omega
      subst same
      rw [isEarlier] at isLast
      exact isLast ▸ List.prefix_refl _
  · intro outcome messages isOutcome isSuspended carried
    obtain ⟨_, count, turn, request, length, isTurn, isRequest, snapshot⟩ :=
      kept.ended outcome isOutcome
    obtain ⟨observations, reason, detail, written, told, leaves, observed⟩ :=
      snapshot.suspended isSuspended messages carried
    refine ⟨turn, request, observations, reason, detail, ?_, ?_, written, told, leaves, observed⟩
    · rw [length, Nat.add_sub_cancel]
      exact isTurn
    · rw [List.getLast?_eq_getElem?, length, Nat.add_sub_cancel]
      exact isRequest
  · intro outcome isOutcome
    obtain ⟨_, count, turn, request, _, _, _, snapshot⟩ := kept.ended outcome isOutcome
    exact ⟨snapshot.onComplete, snapshot.onSuspend, snapshot.onExhaust⟩

end AnnaAgent.Runtime
