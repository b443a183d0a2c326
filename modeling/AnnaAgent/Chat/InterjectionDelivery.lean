/-
Accepted interjections reach the model.

Whatever comes while a run is driven, every accepted text is told once and in order in a
request or in the snapshot of the next continuation, or waits for that continuation, as
long as none has been given up.
-/

import AnnaAgent.Chat.HeardTexts
import AnnaAgent.Chat.DeliveredAnswer

namespace AnnaAgent.Chat

open Foundation Runtime

namespace SegmentTrace

variable (trace : SegmentTrace)

/-- The conversation that the segment ends with, as far as the model has seen it or the
next continuation will. -/
def reached : List Message := (trace.snapshot.orElse (fun _ => trace.requests.getLast?)).getD trace.base

/-- What the segment has shown beyond the conversation that it continues. -/
def shown : List Message := trace.reached.drop trace.base.length

/-- Each request goes on from the one before, and the snapshot from the last. -/
def isGrowing : Prop :=
  List.Pairwise (· <+: ·) (trace.base :: (trace.requests ++ trace.snapshot.toList))

end SegmentTrace

def tellsTexts (elsewhere : Message → Prop) (told : List (List String))
    (traces : List SegmentTrace) : Prop :=
  List.Forall₂ (fun texts trace => Woven elsewhere texts trace.shown ∧ trace.isGrowing) told traces

/-- A run between two segments. -/
structure Ledger (elsewhere : Message → Prop) (live : Live) : Prop where
  told : ∃ told, tellsTexts elsewhere told live.traces ∧ live.accountsFor told.flatten
  noRequests : live.requests = []
  nothingTaken : live.unsent = none

variable {env : ChatEnvironment} {elsewhere : Message → Prop} {texts : List String}

theorem tellsTexts_concat {told : List (List String)} {traces : List SegmentTrace}
    {trace : SegmentTrace} (tells : tellsTexts elsewhere told traces)
    (woven : Woven elsewhere texts trace.shown) (growing : trace.isGrowing) :
    tellsTexts elsewhere (told ++ [texts]) (traces ++ [trace]) :=
  List.rel_append tells (.cons ⟨woven, growing⟩ .nil)

theorem flatten_concat (told : List (List String)) (texts : List String) :
    (told ++ [texts]).flatten = told.flatten ++ texts := by
  rw [List.flatten_append, List.flatten_singleton]

namespace Ledger

variable {live : Live}

theorem onRun (ledger : Ledger elsewhere live) (change : ChatRun → ChatRun) :
    Ledger elsewhere (live.onRun change) :=
  ⟨ledger.told, ledger.noRequests, ledger.nothingTaken⟩

theorem hear (ledger : Ledger elsewhere live) (arrivals : List Arrival) :
    Ledger elsewhere (live.hear arrivals) := by
  rcases hear_requests arrivals live with ⟨requests, unsent, traces⟩
  rcases ledger.told with ⟨told, tells, accounts⟩
  constructor
  · refine ⟨told, ?_, Live.hear_accounts arrivals live accounts⟩
    rw [traces]
    exact tells
  · exact requests.trans ledger.noRequests
  · exact unsent.trans ledger.nothingTaken

theorem settled (ledger : Ledger elsewhere live) : Ledger elsewhere live.settled := by
  unfold Live.settled
  by_cases terminal : live.run.status.isTerminal = true
  · rw [if_pos terminal]
    rcases ledger.told with ⟨told, tells, accounts⟩
    refine ⟨⟨told, tells, ?_⟩, ledger.noRequests, ledger.nothingTaken⟩
    intro keeps
    dsimp only at keeps ⊢
    by_cases empty : live.queue = []
    · rw [if_pos empty] at keeps
      rw [accounts keeps, empty]
    · rw [if_neg empty] at keeps
      exact absurd keeps (List.concat_ne_nil _ _)
  · rw [if_neg terminal]
    exact ledger

end Ledger

variable {base : List Message} {prior : List String} {traces : List SegmentTrace}
variable {after : Live} {told : List (List String)}

variable {tail : List Message}

theorem shown_of_last (last : after.requests.getLast? = some (base ++ tail)) :
    (⟨base, after.requests, none⟩ : SegmentTrace).shown = tail := by
  unfold SegmentTrace.shown SegmentTrace.reached
  change ((after.requests.getLast?).getD base).drop base.length = tail
  rw [last]
  exact List.drop_left

theorem Told.closed (shown : Told elsewhere base told.flatten traces after texts tail)
    (tells : tellsTexts elsewhere told traces) (nothingTaken : after.unsent = none) :
    Ledger elsewhere (after.closed base none) := by
  constructor
  · refine ⟨told ++ [texts], ?_, ?_⟩
    · change tellsTexts elsewhere _ (after.traces ++ [⟨base, after.requests, none⟩])
      rw [shown.traces]
      apply tellsTexts_concat tells
      · rw [shown_of_last shown.last]
        exact shown.woven
      · change List.Pairwise _ (base :: (after.requests ++ []))
        rw [List.append_nil]
        exact shown.growing
    · intro keeps
      rw [flatten_concat]
      have accounts := shown.accounts keeps
      rw [nothingTaken, Option.toList_none, List.append_nil] at accounts
      exact accounts
  · rfl
  · exact nothingTaken

theorem Told.closedInternal (shown : Told elsewhere base told.flatten traces after texts tail)
    (tells : tellsTexts elsewhere told traces) : Ledger elsewhere (after.closedInternal base) := by
  constructor
  · refine ⟨told ++ [texts], ?_, ?_⟩
    · change tellsTexts elsewhere _ (after.traces ++ [⟨base, after.requests, none⟩])
      rw [shown.traces]
      apply tellsTexts_concat tells
      · rw [shown_of_last shown.last]
        exact shown.woven
      · change List.Pairwise _ (base :: (after.requests ++ []))
        rw [List.append_nil]
        exact shown.growing
    · intro keeps
      rw [flatten_concat]
      change (if after.unsent = none then after.discards else after.discards ++ [.unsent]) = []
        at keeps
      by_cases nothingTaken : after.unsent = none
      · rw [if_pos nothingTaken] at keeps
        have accounts := shown.accounts keeps
        rw [nothingTaken, Option.toList_none, List.append_nil] at accounts
        exact accounts
      · rw [if_neg nothingTaken] at keeps
        exact absurd keeps (List.concat_ne_nil _ _)
  · rfl
  · rfl

variable {live : Live}

theorem Ledger.unopened (tells : tellsTexts elsewhere told live.traces)
    (noRequests : live.requests = [])
    (accounts : live.accountsFor (told.flatten ++ live.unsent.toList)) :
    Ledger elsewhere (live.closedInternal base) := by
  constructor
  · refine ⟨told ++ [[]], ?_, ?_⟩
    · change tellsTexts elsewhere _ (live.traces ++ [⟨base, live.requests, none⟩])
      rw [noRequests]
      apply tellsTexts_concat tells
      · have empty : (⟨base, [], none⟩ : SegmentTrace).shown = [] := List.drop_length
        rw [empty]
        exact .nil
      · exact List.pairwise_singleton _ _
    · intro keeps
      rw [flatten_concat, List.append_nil]
      change (if live.unsent = none then live.discards else live.discards ++ [.unsent]) = []
        at keeps
      by_cases nothingTaken : live.unsent = none
      · rw [if_pos nothingTaken] at keeps
        have before := accounts keeps
        rw [nothingTaken, Option.toList_none, List.append_nil] at before
        exact before
      · rw [if_neg nothingTaken] at keeps
        exact absurd keeps (List.concat_ne_nil _ _)
  · rfl
  · rfl

variable {messages : List Message}

theorem runSegment_ends {rounds : Nat → Round} {resumes : Bool} {ended : SegmentEnd}
    (isEnd : runSegment env rounds resumes live messages = (after, ended)) : ended ≠ .running := by
  have result := @runSegment_result env (fun _ => True) rounds resumes live messages
    (fun _ _ _ => trivial)
  rw [isEnd] at result
  intro running
  rw [running] at result
  cases result

/-- An internal segment, opened by a message that tells what was taken, or comes from
elsewhere when nothing was. -/
theorem driveContinuation_ledger {segment : InternalSegment} {judged : Judged} {opening : Message}
    (sources : Sources env segment.rounds elsewhere)
    (tells : tellsTexts elsewhere told judged.live.traces) (noRequests : judged.live.requests = [])
    (opened : Woven elsewhere judged.live.unsent.toList [opening])
    (accounts : judged.live.accountsFor (told.flatten ++ judged.live.unsent.toList)) :
    Ledger elsewhere (driveContinuation env segment judged base opening).1.live := by
  unfold driveContinuation
  dsimp only
  cases segment.preparation with
  | unprepared | raises => exact Ledger.unopened tells noRequests accounts
  | prepared =>
    let counted : Judged := { judged with segments := judged.segments + 1 }
    let started := counted.onRun (fun run => { run with status := .generating })
    dsimp only
    generalize isEnd : runSegment env segment.rounds true started.live (base ++ [opening]) = result
    rcases result with ⟨after, ended⟩
    have startedAccounts : started.live.accountsFor
        (told.flatten ++ judged.live.unsent.toList) := accounts
    have said := runSegment_said sources true opened startedAccounts noRequests isEnd
      (runSegment_ends isEnd)
    have closed : Ledger elsewhere (after.closedInternal base) := by
      cases said with
      | raised shown nothingTaken | ended shown notSuspended nothingTaken
      | suspended shown isSuspended snapshot woven => exact shown.closedInternal tells
    cases ended with
    | raised => exact closed
    | ended outcome => exact closed
    | running => exact closed

/-- The internal segments of an evaluation take their other messages from elsewhere. -/
def JudgmentInputs.speaksFrom (inputs : JudgmentInputs) (env : ChatEnvironment)
    (elsewhere : Message → Prop) : Prop :=
  (∀ segment, Sources env (inputs.segments segment).rounds elsewhere) ∧
    ∀ gaps, elsewhere (userMessage (evaluatorNudgeText gaps))

variable {inputs : JudgmentInputs}

section

variable {judged : Judged} (ledger : Ledger elsewhere judged.live)

include ledger

theorem onRun_ledger (change : ChatRun → ChatRun) : Ledger elsewhere (judged.onRun change).live :=
  ledger.onRun change

theorem audited_ledger (kind : String) (payload : Fields)
    : Ledger elsewhere (judged.audited kind payload).live :=
  onRun_ledger ledger _

theorem fallOpen_ledger : Ledger elsewhere (fallOpen judged).live :=
  audited_ledger (onRun_ledger ledger finishEvaluationReady) _ _

theorem skipped_ledger {reason : String} : Ledger elsewhere (skipped judged reason).live :=
  audited_ledger (onRun_ledger ledger finishEvaluationReady) _ _

end

def AfterRound.judged : AfterRound → Judged
  | .returned judged _ => judged
  | .again judged _ => judged
  | .running judged => judged

section

variable (speaks : inputs.speaksFrom env elsewhere)

include speaks

theorem continueRun_ledger {judged : Judged} (ledger : Ledger elsewhere judged.live)
    (carry : EvaluationCarry) (verdict : Verdict) :
    Ledger elsewhere (continueRun env inputs judged carry verdict).judged.live := by
  unfold continueRun
  dsimp only
  let noted := appendVerdict env judged verdict judged.live.run.evaluationContinuations
  let counted : Judged :=
    { noted.onRun (fun run =>
        { run with evaluationContinuations := run.evaluationContinuations + 1 }) with
      continuedOn := noted.continuedOn ++ [(inputs.judgings (judged.judgeCalls - 1)).answer] }
  have begun : Ledger elsewhere counted.live :=
    (audited_ledger ledger _ _).onRun (fun run =>
      { run with evaluationContinuations := run.evaluationContinuations + 1 })
  rcases begun.told with ⟨told, tells, accounts⟩
  have driven : Ledger elsewhere (driveContinuation env (inputs.segments counted.segments) counted
      (carry.lastMessages.getD []) (userMessage (evaluatorNudgeText verdict.gaps))).1.live := by
    apply driveContinuation_ledger (speaks.1 counted.segments) tells begun.noRequests
    · rw [begun.nothingTaken]
      exact Woven.nil.other (speaks.2 verdict.gaps)
    · rw [begun.nothingTaken, Option.toList_none, List.append_nil]
      exact accounts
  generalize driveContinuation env (inputs.segments counted.segments) counted
    (carry.lastMessages.getD []) (userMessage (evaluatorNudgeText verdict.gaps)) = ended
    at driven ⊢
  rcases ended with ⟨after, ended⟩
  cases ended with
  | raised => exact fallOpen_ledger driven
  | running => exact driven
  | returned outcome =>
    cases outcome with
    | none => exact skipped_ledger (onRun_ledger driven _)
    | some value =>
      dsimp only
      split
      · exact onRun_ledger (onRun_ledger driven (fun _ =>
          (restoreFailedContinuation after.live.run (terminalSnapshot counted.live.run)).1))
            (fun run => stitchAnswer env run (terminalSnapshot counted.live.run).assistantMessage)
      · exact skipped_ledger (onRun_ledger driven _)

theorem judgeRound_ledger {judged : Judged} (ledger : Ledger elsewhere judged.live)
    (carry : EvaluationCarry) (trigger : String) :
    Ledger elsewhere (judgeRound env inputs judged carry trigger).judged.live := by
  unfold judgeRound judgeRun
  dsimp only
  let opened := (judged.onRun (fun run => { run with status := .generating })).audited
    "run.evaluation.started" [("trigger", .str trigger)]
  let asked : Judged :=
    { opened with
      live := opened.live.hear (inputs.judgings opened.judgeCalls).arrivals
      judgeCalls := opened.judgeCalls + 1 }
  have openedLedger : Ledger elsewhere opened.live :=
    audited_ledger (onRun_ledger ledger (fun run => { run with status := .generating })) _ _
  have askedLedger : Ledger elsewhere asked.live :=
    openedLedger.hear (inputs.judgings opened.judgeCalls).arrivals
  have finished : Ledger elsewhere (asked.onRun finishEvaluationReady).live :=
    onRun_ledger askedLedger finishEvaluationReady
  split
  · exact fallOpen_ledger askedLedger
  · split
    · exact askedLedger
    · exact skipped_ledger askedLedger
  · split
    · exact askedLedger
    · split
      · exact audited_ledger finished _ _
      · split
        · exact audited_ledger finished _ _
        · split
          · split
            · exact continueRun_ledger speaks askedLedger carry _
            · exact audited_ledger finished _ _
          · exact audited_ledger finished _ _

theorem evaluationRounds_ledger (fuel : Nat) :
    ∀ (isFirst : Bool) (judged : Judged) (carry : EvaluationCarry), Ledger elsewhere judged.live →
      Ledger elsewhere (evaluationRounds env inputs fuel isFirst judged carry).1.live := by
  induction fuel with
  | zero =>
    intro isFirst judged carry ledger
    exact ledger
  | succ fuel ih =>
    intro isFirst judged carry ledger
    unfold evaluationRounds
    cases (if isFirst = true then shouldEvaluate env judged.live.run
      else some "post_continuation") with
    | none => exact ledger
    | some trigger =>
      dsimp only
      have round := judgeRound_ledger speaks ledger { carry with roundsStarted := true } trigger
      generalize judgeRound env inputs judged { carry with roundsStarted := true } trigger =
        after at round ⊢
      cases after with
      | returned judged carry => exact round
      | again judged carry => exact ih false judged carry round
      | running judged => exact round

theorem deliverPendingInterjections_ledger {judged : Judged} (ledger : Ledger elsewhere judged.live)
    (carry : EvaluationCarry) :
    Ledger elsewhere (deliverPendingInterjections env inputs judged carry).1.live := by
  unfold deliverPendingInterjections
  split
  · exact ledger
  · rcases ledger.told with ⟨told, tells, accounts⟩
    cases queued : judged.live.queue with
    | nil => exact ledger
    | cons firstText rest =>
      dsimp only
      let popped : Judged :=
        { judged with
          live := { judged.live with
            queue := rest
            unsent := some firstText } }
      have poppedAccounts : popped.live.accountsFor (told.flatten ++ [firstText]) := by
        intro keeps
        have before := accounts keeps
        rw [queued] at before
        change judged.live.accepted = told.flatten ++ [firstText] ++ rest
        rw [before, List.append_assoc]
        rfl
      have driven : Ledger elsewhere (driveContinuation env (inputs.segments popped.segments)
          popped (carry.lastMessages.getD []) (userMessage firstText)).1.live :=
        driveContinuation_ledger (speaks.1 popped.segments) tells ledger.noRequests
          (Woven.texts [firstText]) poppedAccounts
      generalize driveContinuation env (inputs.segments popped.segments) popped
        (carry.lastMessages.getD []) (userMessage firstText) = ended at driven ⊢
      rcases ended with ⟨after, ended⟩
      cases ended with
      | raised => exact fallOpen_ledger driven
      | running => exact driven
      | returned outcome =>
        apply onRun_ledger
        have resumed := onRun_ledger driven (fun _ =>
          (restoreFailedContinuation after.live.run (terminalSnapshot popped.live.run)).1)
        cases outcome with
        | none => exact audited_ledger resumed _ _
        | some value =>
          dsimp only
          split
          · exact onRun_ledger resumed (fun run => stitchAnswer env run
              (terminalSnapshot popped.live.run).assistantMessage)
          · exact audited_ledger resumed _ _

theorem evaluateAndContinue_ledger (ledger : Ledger elsewhere live)
    (messages : Option (List Message)) :
    Ledger elsewhere (evaluateAndContinue env inputs live messages).1.live := by
  unfold evaluateAndContinue
  dsimp only
  split
  · exact ledger
  · have rounds := evaluationRounds_ledger speaks (inputs.maxContinuations + 1) true
      ⟨live, 0, 0, []⟩ ⟨messages, false⟩ ledger
    generalize evaluationRounds env inputs (inputs.maxContinuations + 1) true ⟨live, 0, 0, []⟩
      ⟨messages, false⟩ = ended at rounds ⊢
    rcases ended with ⟨judged, carry⟩
    cases carry with
    | none => exact rounds
    | some carry =>
      dsimp only
      split
      · exact deliverPendingInterjections_ledger speaks rounds carry
      · exact rounds

end

/-! ### The drives of a run -/

structure DriveInputs.SpeaksFrom (inputs : DriveInputs) (env : ChatEnvironment)
    (elsewhere : Message → Prop) : Prop where
  rounds : Sources env inputs.rounds elsewhere
  judgment : inputs.judgment.speaksFrom env elsewhere

variable {opening : List Message}

section

variable {inputs : DriveInputs} (speaks : inputs.SpeaksFrom env elsewhere)

include speaks

theorem afterSegment_ledger {outcome : LoopOutcome} (tells : tellsTexts elsewhere told traces)
    (said : SegmentSaid elsewhere base told.flatten traces after (.ended outcome)) :
    Ledger elsewhere (afterSegment env inputs base after outcome) := by
  unfold afterSegment
  dsimp only
  cases said with
  | ended shown notSuspended nothingTaken =>
    have closed := shown.closed tells nothingTaken
    rw [if_neg notSuspended]
    split
    · exact evaluateAndContinue_ledger speaks.judgment (closed.onRun _) outcome.messages
    · exact closed.onRun _
  | @suspended _ texts tail more shown isSuspended snapshot woven =>
    have notCompleted : ¬(outcome.status = .completed ∧
        (resolveOutcome after.run outcome).status = .ready) := by
      rintro ⟨completed, _⟩
      rw [isSuspended] at completed
      cases completed
    have kept : (resolveOutcome after.run outcome).suspendedMessages =
        some (base ++ tail ++ more) := by
      unfold resolveOutcome
      rw [isSuspended]
      exact snapshot
    rw [if_neg notCompleted, if_pos isSuspended, kept]
    constructor
    · refine ⟨told ++ [texts ++ after.unsent.toList], ?_, ?_⟩
      · change tellsTexts elsewhere _
          (after.traces ++ [⟨base, after.requests, some (base ++ tail ++ more)⟩])
        rw [shown.traces]
        apply tellsTexts_concat tells
        · have isShown : (⟨base, after.requests, some (base ++ tail ++ more)⟩ :
              SegmentTrace).shown = tail ++ more := by
            change (base ++ tail ++ more).drop base.length = tail ++ more
            rw [List.append_assoc, List.drop_left]
          rw [isShown]
          exact shown.woven.append woven
        · change List.Pairwise (· <+: ·)
            ((base :: after.requests) ++ [base ++ tail ++ more])
          apply pairwise_concat shown.growing
          intro request present
          exact (shown.below request present).trans (List.prefix_append _ _)
      · intro keeps
        rw [flatten_concat, ← List.append_assoc]
        exact shown.accounts keeps
    · rfl
    · rfl

theorem streamRunBody_ledger (isOther : ∀ message ∈ opening, elsewhere message) (resumes : Bool)
    (ledger : Ledger elsewhere live) :
    Ledger elsewhere (streamRunBody env inputs resumes live base opening) := by
  unfold streamRunBody
  cases inputs.prepareFails with
  | some failure => exact ledger.onRun _
  | none =>
    dsimp only
    rcases ledger.told with ⟨told, tells, accounts⟩
    generalize isEnd : runSegment env inputs.rounds resumes live (base ++ opening) = result
    rcases result with ⟨after, ended⟩
    have opened : live.accountsFor (told.flatten ++ []) := by
      rw [List.append_nil]
      exact accounts
    have notRunning := runSegment_ends isEnd
    have said := runSegment_said speaks.rounds resumes (Woven.others opening isOther) opened
      ledger.noRequests isEnd notRunning
    cases ended with
    | running => exact absurd rfl notRunning
    | ended outcome => exact afterSegment_ledger speaks tells said
    | raised =>
      cases said with
      | raised shown nothingTaken => exact (shown.closed tells nothingTaken).onRun _

theorem driveRun_ledger (isOther : ∀ message ∈ opening, elsewhere message) (resumes : Bool)
    (ledger : Ledger elsewhere live) :
    Ledger elsewhere (driveRun env inputs resumes live base opening) :=
  (streamRunBody_ledger speaks isOther resumes (ledger.hear inputs.waiting)).settled

theorem resumeRun_ledger (isOther : elsewhere (userMessage chatContinueNudge))
    (ledger : Ledger elsewhere live) : Ledger elsewhere (resumeRun env live inputs) := by
  unfold resumeRun
  split
  · apply driveRun_ledger speaks ?_ true (ledger.onRun _)
    intro message present
    rw [List.mem_singleton] at present
    rw [present]
    exact isOther
  · exact ledger

end

/-- A message of a run that is no text of the user: one of the first request, an answer or
a tool call of the model, an observation, or a nudge of the code. -/
inductive Elsewhere (env : ChatEnvironment) (opening : List Message) (drives : List DriveInputs) :
    Message → Prop where
  | opening {message : Message} (present : message ∈ opening) : Elsewhere env opening drives message
  | assistant (text : String) : Elsewhere env opening drives (assistantMessage text)
  | toolCalls (text : String) (calls : List ModelToolCall) :
      Elsewhere env opening drives (assistantToolCallMessage text calls)
  | planGate (pending : List Fields) :
      Elsewhere env opening drives (userMessage (planGateNudgeText env pending))
  | evaluator (gaps : List String) :
      Elsewhere env opening drives (userMessage (evaluatorNudgeText gaps))
  | continued : Elsewhere env opening drives (userMessage chatContinueNudge)
  | observed {drive : DriveInputs} {turn position : Nat} {call : ModelToolCall} {message : Message}
      (isDrive : drive ∈ drives)
      (dispatched : (drive.rounds turn).dispatchTool position call = .ok message) :
      Elsewhere env opening drives message
  | observedInside {drive : DriveInputs} {segment turn position : Nat} {call : ModelToolCall}
      {message : Message} (isDrive : drive ∈ drives)
      (dispatched : ((drive.judgment.segments segment).rounds turn).dispatchTool position call =
        .ok message) :
      Elsewhere env opening drives message

theorem speaksFrom_elsewhere {drives : List DriveInputs} {drive : DriveInputs}
    (isDrive : drive ∈ drives) :
    drive.SpeaksFrom env (Elsewhere env opening drives) where
  rounds :=
    { assistant := .assistant
      toolCalls := .toolCalls
      planGate := .planGate
      observed := fun _ _ _ _ dispatched => .observed isDrive dispatched }
  judgment :=
    ⟨fun _ =>
      { assistant := .assistant
        toolCalls := .toolCalls
        planGate := .planGate
        observed := fun _ _ _ _ dispatched => .observedInside isDrive dispatched },
      .evaluator⟩

theorem runDrives_ledger (env : ChatEnvironment) (message : String) (templateId : Option String)
    (opening : List Message) (first : DriveInputs) (later : List DriveInputs) :
    Ledger (Elsewhere env opening (first :: later))
      (runDrives env message templateId opening first later) := by
  have created : Ledger (Elsewhere env opening (first :: later)) (submitted message templateId) :=
    ⟨⟨[], .nil, fun _ => rfl⟩, rfl, rfl⟩
  have driven : Ledger (Elsewhere env opening (first :: later))
      (driveRun env first false (submitted message templateId) [] opening) :=
    driveRun_ledger (speaksFrom_elsewhere List.mem_cons_self)
      (fun _ present => .opening present) false created
  have all : ∀ drives : List DriveInputs, (∀ drive ∈ drives, drive ∈ first :: later) →
      ∀ live, Ledger (Elsewhere env opening (first :: later)) live →
        Ledger (Elsewhere env opening (first :: later)) (drives.foldl (resumeRun env) live) := by
    intro drives
    induction drives with
    | nil =>
      intro among live ledger
      exact ledger
    | cons drive rest ih =>
      intro among live ledger
      apply ih (fun other present => among other (List.mem_cons_of_mem _ present))
      exact resumeRun_ledger (speaksFrom_elsewhere (among drive List.mem_cons_self)) .continued
        ledger
  exact all later (fun drive present => List.mem_cons_of_mem _ present) _ driven

/-- Every accepted text is told once, as a user message of its own and in the order in which
the texts were accepted, in the requests and snapshots of the run, or waits for the next
continuation. -/
structure Delivered (elsewhere : Message → Prop) (live : Live) : Prop where
  told : ∃ told, tellsTexts elsewhere told live.traces ∧ live.accepted = told.flatten ++ live.queue
  waits : live.run.status.isTerminal = true → live.queue = []

theorem settled_queue (terminal : live.settled.run.status.isTerminal = true) :
    live.settled.queue = [] := by
  unfold Live.settled at terminal ⊢
  by_cases isOver : live.run.status.isTerminal = true
  · rw [if_pos isOver]
  · rw [if_neg isOver] at terminal
    exact absurd terminal isOver

theorem runDrives_queue (env : ChatEnvironment) (message : String) (templateId : Option String)
    (opening : List Message) (first : DriveInputs) (later : List DriveInputs)
    (terminal : (runDrives env message templateId opening first later).run.status.isTerminal =
      true) : (runDrives env message templateId opening first later).queue = [] := by
  have all : ∀ (drives : List DriveInputs) (live : Live),
      (live.run.status.isTerminal = true → live.queue = []) →
        (drives.foldl (resumeRun env) live).run.status.isTerminal = true →
          (drives.foldl (resumeRun env) live).queue = [] := by
    intro drives
    induction drives with
    | nil =>
      intro live held isOver
      exact held isOver
    | cons drive rest ih =>
      intro live held isOver
      apply ih (resumeRun env live drive) ?_ isOver
      unfold resumeRun
      split
      · exact settled_queue
      · exact held
  exact all later _ settled_queue terminal

def streamsText (text : String) : List ModelChunk :=
  [ { kind := "text_delta"
      text := text
      toolCalls := []
      errorCode := none
      message := none } ]

def streamFails : List ModelChunk :=
  [ { kind := "error"
      text := ""
      toolCalls := []
      errorCode := some "model_call_failed"
      message := some "model provider call failed" } ]

def roundOf (arrivals : List Arrival) (chunks : List ModelChunk) : Round :=
  { arrivals := arrivals
    chunks := chunks
    raises := false
    plan := []
    dispatchTool := fun _ _ => .ok [] }

/-- A drive in which the user speaks while the first answer is streamed. -/
def steeredDrive : DriveInputs :=
  { waiting := []
    prepareFails := none
    rounds := fun turn =>
      if turn = 1 then roundOf [.said "and the tax"] (streamsText "done")
      else roundOf [] (streamsText "done with the tax")
    exceptionText := ""
    judgment := { oneTextInputs "more" with enabled := false } }

/-- A drive in which the user speaks while the judge is asked, and again while the text is
delivered; the model fails then. -/
def failingDelivery : DriveInputs :=
  { waiting := []
    prepareFails := none
    rounds := fun _ => roundOf [] (streamsText "done")
    exceptionText := ""
    judgment :=
      { enabled := true
        maxContinuations := 1
        judgings := fun _ =>
          { arrivals := [.said "one"]
            answer := none }
        segments := fun _ =>
          { preparation := .prepared
            rounds := fun _ => roundOf [.said "two"] streamFails } } }

theorem told_of_woven (woven : Woven elsewhere texts messages) :
    ∀ text ∈ texts, userMessage text ∈ messages := by
  induction woven with
  | nil =>
    intro text present
    cases present
  | other woven isOther ih =>
    intro text present
    exact List.mem_append_left _ (ih text present)
  | said woven ih =>
    intro text present
    rcases List.mem_append.mp present with before | isLast
    · exact List.mem_append_left _ (ih text before)
    · rw [List.mem_singleton] at isLast
      rw [isLast]
      exact List.mem_append_right _ (List.mem_singleton.mpr rfl)

theorem told_of_tellsTexts (tells : tellsTexts elsewhere told traces) :
    ∀ text ∈ told.flatten, ∃ trace ∈ traces, userMessage text ∈ trace.shown := by
  induction tells with
  | nil =>
    intro text present
    cases present
  | @cons texts trace rest others first later ih =>
    intro text present
    rw [List.flatten_cons, List.mem_append] at present
    rcases present with here | there
    · exact ⟨trace, List.mem_cons_self, told_of_woven first.1 text here⟩
    · rcases ih text there with ⟨other, among, shown⟩
      exact ⟨other, List.mem_cons_of_mem _ among, shown⟩

end AnnaAgent.Chat
