/-
The texts of the user in the requests of a segment.

What a segment has shown to the model is woven from the texts that were taken and from
messages that come from elsewhere; every accepted text is among those taken or waits.
-/

import AnnaAgent.Chat.Drives
import AnnaAgent.Chat.SegmentOutcome

namespace AnnaAgent.Chat

open Foundation Runtime

inductive Woven (elsewhere : Message → Prop) : List String → List Message → Prop where
  | nil : Woven elsewhere [] []
  | other {texts : List String} {messages : List Message} {message : Message}
      (woven : Woven elsewhere texts messages) (isOther : elsewhere message) :
      Woven elsewhere texts (messages ++ [message])
  | said {texts : List String} {messages : List Message} {text : String}
      (woven : Woven elsewhere texts messages) :
      Woven elsewhere (texts ++ [text]) (messages ++ [userMessage text])

namespace Woven

variable {elsewhere : Message → Prop}

theorem append {texts more : List String} {messages later : List Message}
    (first : Woven elsewhere texts messages) (second : Woven elsewhere more later) :
    Woven elsewhere (texts ++ more) (messages ++ later) := by
  induction second with
  | nil =>
    rw [List.append_nil, List.append_nil]
    exact first
  | other woven isOther ih =>
    rw [← List.append_assoc]
    exact ih.other isOther
  | said woven ih =>
    rw [← List.append_assoc, ← List.append_assoc]
    exact ih.said

theorem others (messages : List Message) (areOther : ∀ message ∈ messages, elsewhere message) :
    Woven elsewhere [] messages := by
  induction messages with
  | nil => exact .nil
  | cons message rest ih =>
    have first : Woven elsewhere [] [message] :=
      Woven.nil.other (areOther message List.mem_cons_self)
    exact first.append (ih (fun other present => areOther other (List.mem_cons_of_mem _ present)))

theorem texts (taken : List String) : Woven elsewhere taken (taken.map userMessage) := by
  induction taken with
  | nil => exact .nil
  | cons text rest ih =>
    have first : Woven elsewhere [text] [userMessage text] := Woven.nil.said
    exact first.append ih

end Woven

structure Sources (env : ChatEnvironment) (rounds : Nat → Round) (elsewhere : Message → Prop) :
    Prop where
  assistant : ∀ text, elsewhere (assistantMessage text)
  toolCalls : ∀ text toolCalls, elsewhere (assistantToolCallMessage text toolCalls)
  planGate : ∀ pending, elsewhere (userMessage (planGateNudgeText env pending))
  observed : ∀ turn position call message,
    (rounds turn).dispatchTool position call = .ok message → elsewhere message

namespace Live

/-- Every accepted text has been told or waits, if none was given up. -/
def accountsFor (live : Live) (told : List String) : Prop :=
  live.discards = [] → live.accepted = told ++ live.queue

variable {told : List String} {live : Live}

theorem pushed_of_room {queue : List String} {text : String} (room : queue.length < perRunCap) :
    pushed queue text = queue ++ [text] := by
  unfold pushed
  have none : (queue ++ [text]).length - perRunCap = 0 := by
    rw [List.length_append, List.length_singleton]
    omega
  rw [none, List.drop_zero]

theorem interject_accounts (accounts : live.accountsFor told) (text : String) :
    (live.interject text).accountsFor told := by
  unfold interject
  by_cases terminal : live.run.status.isTerminal = true
  · rw [if_pos terminal]
    exact accounts
  · rw [if_neg terminal]
    intro keeps
    dsimp only at keeps ⊢
    by_cases room : live.queue.length < perRunCap
    · rw [if_pos room] at keeps
      rw [accounts keeps, pushed_of_room room, List.append_assoc]
    · rw [if_neg room] at keeps
      exact absurd keeps (List.concat_ne_nil _ _)

theorem arrive_accounts (accounts : live.accountsFor told) (arrival : Arrival) :
    (live.arrive arrival).accountsFor told := by
  cases arrival with
  | said text => exact interject_accounts accounts text
  | evicted =>
    intro keeps
    unfold arrive at keeps ⊢
    dsimp only at keeps ⊢
    by_cases empty : live.queue = []
    · rw [if_pos empty] at keeps
      rw [accounts keeps, empty]
    · rw [if_neg empty] at keeps
      exact absurd keeps (List.concat_ne_nil _ _)

theorem hear_accounts (arrivals : List Arrival) :
    ∀ live : Live, live.accountsFor told → (live.hear arrivals).accountsFor told := by
  induction arrivals with
  | nil =>
    intro live accounts
    exact accounts
  | cons arrival rest ih =>
    intro live accounts
    exact ih (live.arrive arrival) (arrive_accounts accounts arrival)

end Live

variable {env : ChatEnvironment} {elsewhere : Message → Prop} {turn : Turn}

theorem dispatchAll_observations {turnCount : Nat} (calls : List ModelToolCall) :
    ∀ position, ∀ message ∈ (dispatchAll chatHooks turn turnCount position calls).observations,
      ∃ place call, turn.dispatchTool place call = .ok message := by
  induction calls with
  | nil =>
    intro position message present
    cases present
  | cons call rest ih =>
    intro position message present
    unfold dispatchAll at present
    dsimp only at present
    split at present
    · cases present
    · rename_i observation dispatched
      rcases List.mem_cons.mp present with same | later
      · rw [same]
        exact ⟨position, call, dispatched⟩
      · exact ih (position + 1) message later

/-- What a turn adds to the conversation before it asks for another one. -/
inductive TurnAdds (turn : Turn) : List Message → Prop where
  | nudge {text nudge : String} (noFailure : turn.streamed.failure = none)
      (noTools : turn.streamed.toolCalls.isEmpty = true)
      (asked : turn.onAssistantFinal = some nudge) :
      TurnAdds turn [assistantMessage text, userMessage nudge]
  | tools {text : String} {calls : List ModelToolCall} {observations : List Message}
      (hasTools : turn.streamed.toolCalls.isEmpty ≠ true) (observed : ∀ message ∈ observations,
        ∃ place call, turn.dispatchTool place call = .ok message) :
      TurnAdds turn (assistantToolCallMessage text calls :: observations)

inductive TurnConversation (turn : Turn) (messages : List Message) : RoundEnd → Prop where
  | ended {outcome : LoopOutcome} (notSuspended : outcome.status ≠ .exhaustedSuspended)
      (noNudge : turn.streamed.failure = none → turn.streamed.toolCalls.isEmpty = true →
        turn.onAssistantFinal = none) :
      TurnConversation turn messages (.finished outcome)
  | suspended {outcome : LoopOutcome} {more : List Message}
      (snapshot : outcome.messages = some (messages ++ more))
      (isSuspended : outcome.status = .exhaustedSuspended) (adds : TurnAdds turn more) :
      TurnConversation turn messages (.finished outcome)
  | continued {next : RunState} {more : List Message} (grown : next.messages = messages ++ more)
      (adds : TurnAdds turn more) : TurnConversation turn messages (.continued next)

variable {state : RunState}

theorem nextTurnOr_conversation {more : List Message} {transition : Transition}
    (adds : TurnAdds turn more) :
    TurnConversation turn state.messages
      (.ofTurn (nextTurnOr chatConfig state (state.messages ++ more) transition)) := by
  unfold nextTurnOr
  by_cases spent : chatConfig.isSpent (state.turnCount + 1) = true
  · rw [if_pos spent]
    exact .suspended rfl rfl adds
  · rw [if_neg spent]
    exact .continued rfl adds

theorem dispatchBatch_observations (turn : Turn) (turnCount : Nat) :
    ∀ message ∈ (dispatchBatch chatHooks turn turnCount turn.streamed.toolCalls).observations,
      ∃ place call, turn.dispatchTool place call = .ok message := by
  intro message present
  unfold dispatchBatch at present
  split at present
  · cases present
  · exact dispatchAll_observations _ 0 message present

theorem runTurn_conversation (turn : Turn) (state : RunState) :
    TurnConversation turn state.messages (.ofTurn (runTurn chatConfig chatHooks turn state)) := by
  unfold runTurn
  dsimp only
  cases failed : turn.streamed.failure with
  | some failure =>
    apply TurnConversation.ended
    · intro suspended
      cases suspended
    · intro noFailure
      rw [failed] at noFailure
      cases noFailure
  | none =>
    dsimp only
    by_cases noTools : turn.streamed.toolCalls.isEmpty = true
    · rw [if_pos noTools, ofTurn_after]
      unfold finalTurn
      cases asked : turn.onAssistantFinal with
      | none =>
        apply TurnConversation.ended
        · intro suspended
          cases suspended
        · intro _noFailure _noTools
          exact asked
      | some nudge => exact nextTurnOr_conversation (.nudge failed noTools asked)
    · rw [if_neg noTools, ofTurn_after]
      unfold toolTurn
      dsimp only
      have observed := dispatchBatch_observations turn state.turnCount
      split
      · apply TurnConversation.ended
        · intro suspended
          cases suspended
        · intro _noFailure none
          exact absurd none noTools
      · apply TurnConversation.ended
        · intro suspended
          cases suspended
        · intro _noFailure none
          exact absurd none noTools
      · rw [ofTurn_after]
        exact nextTurnOr_conversation (.tools noTools observed)

theorem onAssistantFinal_nudge (env : ChatEnvironment) (handler : ChatHandler) (run : ChatRun)
    (queue : List String) (assistantMessage : Option String) :
    (∃ steer, queue = steer :: (onAssistantFinal env handler run queue assistantMessage).queue ∧
        (onAssistantFinal env handler run queue assistantMessage).nudge = some steer ∧
          (onAssistantFinal env handler run queue assistantMessage).raised = false) ∨
      (queue = [] ∧ (onAssistantFinal env handler run queue assistantMessage).queue = [] ∧
        ∀ nudge, (onAssistantFinal env handler run queue assistantMessage).nudge = some nudge →
          ∃ pending, nudge = planGateNudgeText env pending) := by
  cases queue with
  | cons steer rest => exact Or.inl ⟨steer, rfl, rfl, rfl⟩
  | nil =>
    right
    refine ⟨rfl, ?_⟩
    have gate : ∀ nudge, (planGateNudge env handler run).2.2 = some nudge →
        ∃ pending, nudge = planGateNudgeText env pending := by
      intro nudge isNudge
      unfold planGateNudge at isNudge
      dsimp only at isNudge
      split at isNudge
      · cases isNudge
      · split at isNudge
        · cases isNudge
        · split at isNudge
          · cases isNudge
            exact ⟨_, rfl⟩
          · split at isNudge
            · cases isNudge
            · cases isNudge
    unfold onAssistantFinal
    dsimp only
    generalize planGateNudge env handler run = gated at gate
    rcases gated with ⟨handler, run, nudge⟩
    cases nudge with
    | some nudge => exact ⟨rfl, gate⟩
    | none =>
      dsimp only
      split
      · refine ⟨rfl, ?_⟩
        intro nudge isNudge
        cases isNudge
      · split
        · refine ⟨rfl, ?_⟩
          intro nudge isNudge
          cases isNudge
        · refine ⟨rfl, ?_⟩
          intro nudge isNudge
          cases isNudge

/-! ### A segment -/

/-- Between two turns of a segment: the conversation goes on from the requests, and the
texts in it beyond the base are told. -/
structure Talking (elsewhere : Message → Prop) (base : List Message) (prior : List String)
    (traces : List SegmentTrace) (live : Live) (state : RunState) : Prop where
  conversation : ∃ told tail, state.messages = base ++ tail ∧ Woven elsewhere told tail ∧
    live.accountsFor (prior ++ told)
  growing : List.Pairwise (· <+: ·) (base :: live.requests)
  below : ∀ request ∈ base :: live.requests, request <+: state.messages
  traces : live.traces = traces

structure Told (elsewhere : Message → Prop) (base : List Message) (prior : List String)
    (traces : List SegmentTrace) (after : Live) (told : List String) (tail : List Message) :
    Prop where
  last : after.requests.getLast? = some (base ++ tail)
  woven : Woven elsewhere told tail
  growing : List.Pairwise (· <+: ·) (base :: after.requests)
  below : ∀ request ∈ base :: after.requests, request <+: base ++ tail
  accounts : after.accountsFor (prior ++ told ++ after.unsent.toList)
  traces : after.traces = traces

/-- How a segment ends, seen from the texts of the user. -/
inductive SegmentSaid (elsewhere : Message → Prop) (base : List Message) (prior : List String)
    (traces : List SegmentTrace) (after : Live) : SegmentEnd → Prop where
  | raised {told : List String} {tail : List Message}
      (shown : Told elsewhere base prior traces after told tail)
      (nothingTaken : after.unsent = none) : SegmentSaid elsewhere base prior traces after .raised
  | ended {outcome : LoopOutcome} {told : List String} {tail : List Message}
      (shown : Told elsewhere base prior traces after told tail)
      (notSuspended : outcome.status ≠ .exhaustedSuspended) (nothingTaken : after.unsent = none) :
      SegmentSaid elsewhere base prior traces after (.ended outcome)
  | suspended {outcome : LoopOutcome} {told : List String} {tail more : List Message}
      (shown : Told elsewhere base prior traces after told tail)
      (isSuspended : outcome.status = .exhaustedSuspended)
      (snapshot : outcome.messages = some (base ++ tail ++ more))
      (woven : Woven elsewhere after.unsent.toList more) :
      SegmentSaid elsewhere base prior traces after (.ended outcome)

variable {base : List Message} {prior : List String} {traces : List SegmentTrace}

theorem pairwise_concat {requests : List (List Message)} {next : List Message}
    (growing : List.Pairwise (· <+: ·) requests) (below : ∀ request ∈ requests, request <+: next) :
    List.Pairwise (· <+: ·) (requests ++ [next]) := by
  rw [List.pairwise_append]
  refine ⟨growing, List.pairwise_singleton _ _, ?_⟩
  intro request present other isNext
  rw [List.mem_singleton] at isNext
  rw [isNext]
  exact below request present

/-- What `closeRound` leaves of a request, in all ways it can end. -/
inductive RoundSaid (elsewhere : Message → Prop) (base : List Message) (prior : List String)
    (traces : List SegmentTrace) (after : Live) : RoundEnd → Prop where
  | raised (result : SegmentSaid elsewhere base prior traces after .raised) :
      RoundSaid elsewhere base prior traces after .raised
  | finished {outcome : LoopOutcome}
      (result : SegmentSaid elsewhere base prior traces after (.ended outcome)) :
      RoundSaid elsewhere base prior traces after (.finished outcome)
  | continued {next : RunState} (talking : Talking elsewhere base prior traces after next) :
      RoundSaid elsewhere base prior traces after (.continued next)

variable {told : List String}

theorem roundSaid_of_turn {after : Live} {tail : List Message}
    (shown : Told elsewhere base prior traces after told tail)
    (isState : state.messages = base ++ tail)
    (taken : ∀ more, TurnAdds turn more → Woven elsewhere after.unsent.toList more)
    {ended : RoundEnd} (conversation : TurnConversation turn state.messages ended)
    (quiet : (turn.streamed.failure = none → turn.streamed.toolCalls.isEmpty = true → turn.onAssistantFinal = none) → after.unsent = none) :
    RoundSaid elsewhere base prior traces after ended := by
  cases conversation with
  | ended notSuspended noNudge =>
    exact .finished (.ended shown notSuspended (quiet noNudge))
  | suspended snapshot isSuspended adds =>
    rw [isState] at snapshot
    exact .finished (.suspended shown isSuspended snapshot (taken _ adds))
  | @continued next more grown adds =>
    rw [isState, List.append_assoc] at grown
    apply RoundSaid.continued
    constructor
    · refine ⟨told ++ after.unsent.toList, tail ++ more, grown, ?_, ?_⟩
      · exact shown.woven.append (taken _ adds)
      · rw [← List.append_assoc]
        exact shown.accounts
    · exact shown.growing
    · intro request present
      rw [grown, ← List.append_assoc]
      exact (shown.below request present).trans (List.prefix_append _ _)
    · exact shown.traces

variable {live : Live}

theorem closeRound_said {rounds : Nat → Round} {turn : Nat} (sources : Sources env rounds elsewhere)
    (handler : ChatHandler) {drained : List String} {tail : List Message}
    (shown : Told elsewhere base prior traces live told tail)
    (isState : state.messages = base ++ tail) (nothingTaken : live.unsent = none) :
    RoundSaid elsewhere base prior traces (closeRound env handler live state (rounds turn) drained).1
      (closeRound env handler live state (rounds turn) drained).2.2 := by
  have observes : ∀ (nudge : Option String) more,
      TurnAdds ((rounds turn).turn drained nudge) more → (rounds turn).streamed.toolCalls.isEmpty ≠
        true → Woven elsewhere [] more := by
    intro nudge more adds hasTools
    cases adds with
    | nudge noFailure noTools asked => exact absurd noTools hasTools
    | @tools text calls observations _ observed =>
      apply Woven.others
      intro message present
      rcases List.mem_cons.mp present with isCall | among
      · rw [isCall]
        exact sources.toolCalls text calls
      · rcases observed message among with ⟨place, call, dispatched⟩
        exact sources.observed turn place call message dispatched
  unfold closeRound
  dsimp only
  by_cases isFinal : (rounds turn).streamed.failure = none ∧
      (rounds turn).streamed.toolCalls.isEmpty = true
  · rw [if_pos isFinal]
    have nudges := onAssistantFinal_nudge env handler live.run live.queue
      (orNone (rounds turn).streamed.text)
    generalize onAssistantFinal env handler live.run live.queue
      (orNone (rounds turn).streamed.text) = final at nudges
    rcases nudges with ⟨steer, isQueue, isNudge, quiet⟩ | ⟨empty, stillEmpty, fromGate⟩
    · rw [if_neg (by rw [quiet]; exact Bool.false_ne_true)]
      have isTaken : live.queue.head? = some steer := by rw [isQueue]; rfl
      have shownAfter : Told elsewhere base prior traces
          { live with
            run := final.run
            queue := final.queue
            finals := live.finals ++ final.answered.toList
            unsent := live.queue.head? } told tail := by
        refine { shown with accounts := ?_ }
        intro keeps
        have accounts := shown.accounts keeps
        rw [nothingTaken, isQueue] at accounts
        dsimp only
        rw [isTaken, accounts]
        simp
      apply roundSaid_of_turn shownAfter isState ?_
        (runTurn_conversation ((rounds turn).turn drained final.nudge) state) ?_
      · intro more adds
        dsimp only
        rw [isTaken]
        cases adds with
        | @nudge text given noFailure noTools asked =>
          change final.nudge = some given at asked
          rw [isNudge] at asked
          cases asked
          have first : Woven elsewhere [] [assistantMessage text] :=
            Woven.nil.other (sources.assistant text)
          exact first.said
        | tools hasTools observed => exact absurd isFinal.2 hasTools
      · intro noNudge
        have isNone := noNudge isFinal.1 isFinal.2
        change final.nudge = none at isNone
        rw [isNudge] at isNone
        cases isNone
    · have notTaken : live.queue.head? = none := by rw [empty]; rfl
      have shownAfter : Told elsewhere base prior traces
          { live with
            run := final.run
            queue := final.queue
            finals := live.finals ++ final.answered.toList
            unsent := live.queue.head? } told tail := by
        refine { shown with accounts := ?_ }
        intro keeps
        have accounts := shown.accounts keeps
        rw [nothingTaken, empty] at accounts
        dsimp only
        rw [notTaken, stillEmpty, accounts]
      by_cases raised : final.raised = true
      · rw [if_pos raised]
        exact .raised (.raised shownAfter notTaken)
      · rw [if_neg raised]
        apply roundSaid_of_turn shownAfter isState ?_
          (runTurn_conversation ((rounds turn).turn drained final.nudge) state) ?_
        · intro more adds
          dsimp only
          rw [notTaken]
          cases adds with
          | @nudge text given noFailure noTools asked =>
            rcases fromGate given asked with ⟨pending, isGate⟩
            rw [isGate]
            have first : Woven elsewhere [] [assistantMessage text] :=
              Woven.nil.other (sources.assistant text)
            exact first.other (sources.planGate pending)
          | tools hasTools observed => exact absurd isFinal.2 hasTools
        · intro _noNudge
          exact notTaken
  · rw [if_neg isFinal]
    have shownAfter : Told elsewhere base prior traces
        (if (rounds turn).streamed.failure = none then
          { live with run := { live.run with plan := (rounds turn).plan } } else live) told tail := by
      by_cases noFailure : (rounds turn).streamed.failure = none
      · rw [if_pos noFailure]
        exact { shown with }
      · rw [if_neg noFailure]
        exact shown
    have stillNone : (if (rounds turn).streamed.failure = none then
        { live with run := { live.run with plan := (rounds turn).plan } } else live).unsent =
          none := by
      by_cases noFailure : (rounds turn).streamed.failure = none
      · rw [if_pos noFailure]
        exact nothingTaken
      · rw [if_neg noFailure]
        exact nothingTaken
    apply roundSaid_of_turn shownAfter isState ?_
      (runTurn_conversation ((rounds turn).turn drained none) state) ?_
    · intro more adds
      rw [stillNone]
      cases adds with
      | nudge noFailure noTools asked => cases asked
      | tools hasTools observed =>
        exact observes none _ (.tools hasTools observed) hasTools
    · intro _noNudge
      exact stillNone

theorem hear_requests (arrivals : List Arrival) : ∀ live : Live,
    (live.hear arrivals).requests = live.requests ∧ (live.hear arrivals).unsent = live.unsent ∧
      (live.hear arrivals).traces = live.traces := by
  induction arrivals with
  | nil =>
    intro live
    exact ⟨rfl, rfl, rfl⟩
  | cons arrival rest ih =>
    intro live
    have one : (live.arrive arrival).requests = live.requests ∧
        (live.arrive arrival).unsent = live.unsent ∧
          (live.arrive arrival).traces = live.traces := by
      cases arrival with
      | evicted => exact ⟨rfl, rfl, rfl⟩
      | said text =>
        unfold Live.arrive Live.interject
        dsimp only
        by_cases terminal : live.run.status.isTerminal = true
        · rw [if_pos terminal]
          exact ⟨rfl, rfl, rfl⟩
        · rw [if_neg terminal]
          exact ⟨rfl, rfl, rfl⟩
    rcases one with ⟨requests, unsent, traces⟩
    rcases ih (live.arrive arrival) with ⟨laterRequests, laterUnsent, laterTraces⟩
    exact ⟨laterRequests.trans requests, laterUnsent.trans unsent, laterTraces.trans traces⟩

section

variable {rounds : Nat → Round} (sources : Sources env rounds elsewhere)

include sources

theorem runRound_said (turn : Nat) (handler : ChatHandler)
    (talking : Talking elsewhere base prior traces live state) :
    RoundSaid elsewhere base prior traces (runRound env handler live state (rounds turn)).1
      (runRound env handler live state (rounds turn)).2.2 := by
  rcases talking.conversation with ⟨told, tail, isConversation, woven, accounts⟩
  unfold runRound
  dsimp only
  let steered := steer chatHooks ((rounds turn).turn live.queue none) state
  let asked : Live :=
    { live with
      queue := []
      requests := live.requests ++ [steered.messages]
      unsent := none }
  have isSteered : steered.messages = base ++ (tail ++ live.queue.map userMessage) := by
    change state.messages ++ live.queue.map userMessage = _
    rw [isConversation, List.append_assoc]
  have below : ∀ request ∈ base :: live.requests, request <+: steered.messages := by
    intro request present
    exact (talking.below request present).trans (List.prefix_append _ _)
  have shown : Told elsewhere base prior traces (asked.hear (rounds turn).arrivals)
      (told ++ live.queue) (tail ++ live.queue.map userMessage) := by
    rcases hear_requests (rounds turn).arrivals asked with ⟨sameRequests, sameUnsent, sameTraces⟩
    have growing : List.Pairwise (· <+: ·) (base :: (live.requests ++ [steered.messages])) :=
      pairwise_concat talking.growing below
    constructor
    · rw [sameRequests, ← isSteered]
      exact List.getLast?_append
    · exact woven.append (Woven.texts live.queue)
    · rw [sameRequests]
      exact growing
    · rw [sameRequests, ← isSteered]
      intro request present
      change request ∈ (base :: live.requests) ++ [steered.messages] at present
      rw [List.mem_append, List.mem_singleton] at present
      rcases present with before | isLast
      · exact below request before
      · rw [isLast]
    · rw [sameUnsent]
      apply Live.hear_accounts
      intro keeps
      have before := accounts keeps
      change live.accepted = prior ++ (told ++ live.queue) ++ [] ++ []
      rw [before]
      simp
    · exact sameTraces.trans talking.traces
  have nothingTaken : (asked.hear (rounds turn).arrivals).unsent = none :=
    (hear_requests (rounds turn).arrivals asked).2.1
  by_cases raises : (rounds turn).raises = true
  · rw [if_pos raises]
    exact .raised (.raised shown nothingTaken)
  · rw [if_neg raises]
    let recorded : Live :=
      { asked.hear (rounds turn).arrivals with
        run := recordCall (asked.hear (rounds turn).arrivals).run (rounds turn).streamed }
    have shownRecorded : Told elsewhere base prior traces recorded (told ++ live.queue)
        (tail ++ live.queue.map userMessage) :=
      { shown with }
    have stillNone : recorded.unsent = none := nothingTaken
    exact closeRound_said sources handler shownRecorded isSteered stillNone

theorem runRounds_said (fuel : Nat) : ∀ (handler : ChatHandler) (live : Live) (state : RunState),
      Talking elsewhere base prior traces live state → ∀ after ended,
      runRounds env rounds fuel handler live state = (after, ended) → ended ≠ .running →
        SegmentSaid elsewhere base prior traces after ended := by
  induction fuel with
  | zero =>
    intro handler live state talking after ended isEnd notRunning
    cases isEnd
    exact absurd rfl notRunning
  | succ fuel ih =>
    intro handler live state talking after ended isEnd notRunning
    unfold runRounds at isEnd
    have result := runRound_said sources state.turnCount handler talking
    generalize runRound env handler live state (rounds state.turnCount) = round at result isEnd
    rcases round with ⟨next, handler, roundEnd⟩
    cases result with
    | raised result | finished result =>
      cases isEnd
      exact result
    | continued talking => exact ih handler next _ talking after ended isEnd notRunning

theorem runSegment_said (resumes : Bool) {opening : List Message}
    (opened : Woven elsewhere told opening) (accounts : live.accountsFor (prior ++ told))
    (noRequests : live.requests = []) {after : Live} {ended : SegmentEnd}
    (isEnd : runSegment env rounds resumes live (base ++ opening) = (after, ended))
    (notRunning : ended ≠ .running) :
    SegmentSaid elsewhere base prior live.traces after ended := by
  unfold runSegment at isEnd
  apply runRounds_said sources 8 _ live _ ?_ after ended isEnd notRunning
  constructor
  · exact ⟨told, opening, rfl, opened, accounts⟩
  · rw [noRequests]
    exact List.pairwise_singleton _ _
  · intro request present
    rw [noRequests, List.mem_singleton] at present
    rw [present]
    exact List.prefix_append base opening
  · rfl

end

end AnnaAgent.Chat
