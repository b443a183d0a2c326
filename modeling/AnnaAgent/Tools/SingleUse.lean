/-
How often an approval is used.

A tool with a replay policy is executed through the ledger of its effect: at
most once, and a call that comes after the execution was started returns what
the ledger says.  A tool without one is executed by every call that finds its
approval approved.
-/

import AnnaAgent.Tools.ApprovalBinding
import AnnaAgent.Tools.EffectOnce

namespace AnnaAgent.Tools

open Foundation EventStore BoundToolGateway

def PlainRequest : Request → Prop
  | .append event _ => event.type ≠ "tool.effect.started"
  | .sandboxExecute request replayPolicy => replayPolicy = none ∨ request.effectKey = none
  | .settle _ _ => False
  | _ => True

inductive GatewayPart (digest : String → String) : (γ : Type) → Async γ → Prop
  | request {request : Request} (isPlain : PlainRequest request) :
      GatewayPart digest request.Response (ask request)
  | effect (sandbox : Sandbox) (request : ToolRequest) (replayPolicy : ReplayPolicy) :
      GatewayPart digest ToolResult (executeEffect digest sandbox request replayPolicy)

abbrev GatewayBuilt (digest : String → String) {γ : Type} (program : Async γ) : Prop :=
  Program.Built (GatewayPart digest) γ program

variable {details : List (String × Json)}

section Built

open Program

variable {digest : String → String} {request lifecycleRequest : ToolRequest}
  {definition : ToolDefinition} {effectKey : String}

theorem request_built {request : Request} (isPlain : PlainRequest request) :
    GatewayBuilt digest (Tools.ask request) :=
  .part (.request isPlain)

theorem append_built {event : Event} {cause : Option Cause}
    (other : event.type ≠ "tool.effect.started") :
    Program.Built (GatewayPart digest) Unit (Tools.ask (.append event cause)) := by
  have isPlain : PlainRequest (.append event cause) := other
  exact request_built isPlain

theorem lifecycle_built {type : String} (other : type ≠ "tool.effect.started") :
    GatewayBuilt digest (appendToolLifecycleEvent request type details) := by
  refine .bind (request_built trivial) ?_
  intro durableEvents
  refine .bind (request_built trivial) ?_
  intro timestamp
  exact append_built other

theorem terminalResult_built {result : ToolResult} {reason : Option String} :
    GatewayBuilt digest (terminalResult request result reason) :=
  .bind (lifecycle_built (by decide)) (fun _ => .pure result)

theorem executeApproved_built :
    GatewayBuilt digest (executeApproved digest definition request) := by
  unfold executeApproved
  split
  · exact .part (.effect _ _ _)
  · exact request_built (Or.inl rfl)

theorem requestApproval_built {approval : Approval} {durableEvents : List Event} :
    GatewayBuilt digest (requestApproval approval request effectKey durableEvents) := by
  unfold requestApproval
  split
  · refine .bind (request_built trivial) ?_
    intro id
    refine .bind (request_built trivial) ?_
    intro timestamp
    refine append_built ?_
    change "tool.approval.requested" ≠ "tool.effect.started"
    decide
  · exact .pure ()

theorem executeWithApproval_built :
    GatewayBuilt digest (executeWithApproval digest lifecycleRequest definition
      request effectKey) := by
  refine .bind (request_built trivial) ?_
  intro durableEvents
  dsimp only
  split
  · exact .bind executeApproved_built (fun _ => terminalResult_built)
  · exact terminalResult_built
  · exact .bind requestApproval_built (fun _ => terminalResult_built)

theorem executeDecided_built {decision : String} :
    GatewayBuilt digest (executeDecided digest lifecycleRequest definition request decision) := by
  unfold executeDecided
  split
  · exact terminalResult_built
  · split
    · split
      · rename_i isKey
        exact .bind (request_built (Or.inr isKey)) (fun _ => terminalResult_built)
      · split
        · exact terminalResult_built
        · exact .bind (.part (.effect _ _ _)) (fun _ => terminalResult_built)
      · exact terminalResult_built
    · split
      · exact executeWithApproval_built
      · exact terminalResult_built

theorem executeNormalized_built :
    GatewayBuilt digest (executeNormalized digest lifecycleRequest definition request) := by
  refine .bind (.attempt (request_built trivial)) ?_
  intro decided
  cases decided with
  | error error => exact terminalResult_built
  | ok decision =>
    dsimp only
    split
    · exact terminalResult_built
    · exact .bind (lifecycle_built (by decide)) (fun _ => executeDecided_built)

variable {gateway : BoundToolGateway}

theorem execute_built : GatewayBuilt digest (gateway.execute digest request) := by
  unfold execute
  split
  · exact .pure _
  · refine .bind (lifecycle_built (by decide)) ?_
    intro _
    split
    · exact terminalResult_built
    · split
      · exact terminalResult_built
      · split
        · exact terminalResult_built
        · exact executeNormalized_built

theorem answerApproval_built {answer : ToolApprovalAnswer} :
    GatewayBuilt digest (gateway.answerApproval answer) := by
  unfold BoundToolGateway.answerApproval
  split
  · exact .throw _
  · refine .bind (request_built trivial) ?_
    intro durableEvents
    split
    · exact .throw _
    · refine .bind (request_built trivial) ?_
      intro id
      refine .bind (request_built trivial) ?_
      intro timestamp
      refine append_built ?_
      change "tool.approval.answered" ≠ "tool.effect.started"
      decide

theorem call_built (call : Call) : GatewayBuilt digest (call.program digest) := by
  cases call with
  | executeEffect sandbox request replayPolicy =>
    exact .bind (.part (.effect _ _ _)) (fun _ => .pure ())
  | execute gateway request => exact .bind execute_built (fun _ => .pure ())
  | answerApproval gateway answer => exact answerApproval_built

end Built

section Abides

variable {digest : String → String} {calls : Call → Prop}
  {meets : SeamId → (request : Request) → World → Except Thrown request.Response → Prop}

theorem plain_of_plainRequest {request : Request} (isPlain : PlainRequest request) :
    (ledgerProtocol digest calls meets).Plain request := by
  cases request with
  | append event cause =>
    refine ⟨rfl, ?_⟩
    intro answer
    cases answer with
    | error error => rfl
    | ok value =>
      change (if event.type = "tool.effect.started" then some event.streamId else none) = none
      rw [if_neg isPlain]
  | sandboxExecute request replayPolicy =>
    refine ⟨?_, fun _ => rfl⟩
    cases replayPolicy with
    | none => rfl
    | some replayPolicy =>
      rcases isPlain with isPolicy | isKey
      · cases isPolicy
      · change request.effectKey.map effectStreamId = none
        rw [isKey]
        rfl
  | _ => exact ⟨rfl, fun _ => rfl⟩

theorem calls_abide (digest : String → String) (calls : Call → Prop)
    (meets : SeamId → (request : Request) → World → Except Thrown request.Response → Prop) :
    (ledgerProtocol digest calls meets).Admits := by
  rintro seam program world ⟨call, _, isProgram⟩
  rw [isProgram]
  refine Protocol.abides_built ?_ (call_built call)
  intro γ program isPart now
  cases isPart with
  | request isPlain => exact Protocol.abides_request (plain_of_plainRequest isPlain)
  | effect sandbox request replayPolicy => exact executeEffect_abides

end Abides

/-! ### Recorded results -/

/-- The result is what the stream of the effect says, read when it held at
least what was recorded: what `recordedEffect` returns, or that the effect was
started and its outcome is unknown. -/
def RecordedResult (digest : String → String) (cause : Cause) (recorded : List Entry)
    (result : ToolResult) (world : World) : Prop :=
  ∃ replayPolicy effectKey read, cause.replayPolicy = some replayPolicy ∧
    cause.request.effectKey = some effectKey ∧ recorded <+: read ∧
    read <+: world.entries (effectStreamId effectKey) ∧
    (recordedEffect (read.map Entry.event) cause.request replayPolicy effectKey
          (effectIntentHash digest cause.request replayPolicy) = .result result ∨
      ((∃ startedSeq, recordedEffect (read.map Entry.event) cause.request replayPolicy effectKey
          (effectIntentHash digest cause.request replayPolicy) = .orphaned startedSeq) ∧
        result = unknownEffectResult effectKey))

/-- An execution that was entered after the effect was started ends with a
recorded result, or with an error. -/
def Reuses (digest : String → String) (cause : Cause) (recorded : List Entry)
    (outcome : Except Thrown ToolResult) (world : World) : Prop :=
  ∀ result, outcome = .ok result →
    (∃ started ∈ recorded, started.event.type = "tool.effect.started") →
    RecordedResult digest cause recorded result world

def ReuseInv (digest : String → String) (world : World) : Prop :=
  ∀ execution ∈ world.executions, ∀ outcome, execution.outcome = some outcome →
    Reuses digest execution.cause execution.recorded outcome world

def ReuseAllows (digest : String → String) : Request → World → Prop
  | .sandboxExecute request (some _), world => ∀ effectKey, request.effectKey = some effectKey →
      world.EffectStarted (effectStreamId effectKey)
  | .settle id outcome, world => ∀ execution, world.executions[id]? = some execution →
      Reuses digest execution.cause execution.recorded outcome world
  | _, _ => True

section Keeps

variable {digest : String → String} {before after : World}

theorem reuses_later {cause : Cause} {recorded : List Entry} {outcome : Except Thrown ToolResult}
    (later : Later before after) (reuses : Reuses digest cause recorded outcome before) :
    Reuses digest cause recorded outcome after := by
  intro result isResult started
  rcases reuses result isResult started with
    ⟨replayPolicy, effectKey, read, isPolicy, isKey, isBeginning, isRead, said⟩
  exact ⟨replayPolicy, effectKey, read, isPolicy, isKey, isBeginning,
    isRead.trans (later.streams _), said⟩

theorem perform_reuseInv {env : Env} {seam : SeamId} {request : Request}
    {answer : Except Thrown request.Response} (inv : ReuseInv digest before)
    (allowed : ReuseAllows digest request before)
    (done : perform env seam before request = some (answer, after)) : ReuseInv digest after := by
  have later := perform_later done
  intro execution member outcome isOutcome
  rcases perform_outcome done member isOutcome with
    isOld | ⟨id, old, rfl, found, sameCause, sameRecorded⟩
  · exact reuses_later later (inv execution isOld outcome isOutcome)
  · rw [sameCause, sameRecorded]
    exact reuses_later later (allowed old found)

end Keeps

def reuseContract (digest : String → String) (calls : Call → Prop)
    (meets : SeamId → (request : Request) → World → Except Thrown request.Response → Prop) :
    Contract World SeamId Request Request.Response Thrown :=
  { host := (host digest calls).within meets
    later := Later
    respects := host_respects digest calls meets
    inv := ReuseInv digest
    allowed := fun _ request world => ReuseAllows digest request world
    keeps := by
      rintro seam request before answer after ⟨⟨env, done⟩, _⟩ inv allowed
      exact perform_reuseInv inv allowed done
    stops := by
      intro seam before after stopped inv
      change after = { before with inFlight := _ } at stopped
      rw [stopped]
      intro execution member outcome isOutcome
      exact reuses_later (later_of_same rfl rfl) (inv execution member outcome isOutcome)
    drifts := fun drifted => drifted.elim }

section Ensures

open Contract Program

variable {digest : String → String} {calls : Call → Prop}
  {meets : SeamId → (request : Request) → World → Except Thrown request.Response → Prop}
  {seam : SeamId} {world : World} {request : ToolRequest} {replayPolicy : ReplayPolicy}
  {effectKey : String}

theorem reuseAllows_plain {request : Request} (isPlain : PlainRequest request) :
    ReuseAllows digest request world := by
  cases request with
  | sandboxExecute request replayPolicy =>
    cases replayPolicy with
    | none => exact trivial
    | some replayPolicy =>
      rcases isPlain with isPolicy | isKey
      · cases isPolicy
      · intro effectKey isEffect
        rw [isKey] at isEffect
        cases isEffect
  | settle id outcome => exact isPlain.elim
  | _ => exact trivial

theorem appendEffect_reuses {seq : Nat} {type : String} :
    (reuseContract digest calls meets).Ensures seam
      (appendEffect request replayPolicy effectKey seq type details) (fun _ _ => True) world := by
  refine ensures_call_any (fun _ _ _ => trivial) ?_ (fun _ _ _ _ => trivial)
  intro id _ _ _
  refine ensures_call_any (fun _ _ _ => trivial) ?_ (fun _ _ _ _ => trivial)
  intro timestamp _ _ _
  exact ensures_request (fun _ _ _ => trivial) (fun _ _ _ _ => trivial)

variable {startedSeq : Nat}

theorem appendUnknown_reuses :
    (reuseContract digest calls meets).Ensures seam
      (appendUnknownEffectTerminal request replayPolicy effectKey startedSeq)
      (fun outcome _ => ∀ result, outcome = .ok result → result = unknownEffectResult effectKey)
      world := by
  refine ensures_then appendEffect_reuses ?_ ?_
  · intro _ _ _ _ _ _ _ result isResult
    cases isResult
    rfl
  · intro error _ _ _ result isResult
    cases isResult

theorem appendOutcome_reuses {result : ToolResult} {cancelled : Bool} :
    (reuseContract digest calls meets).Ensures seam
      (appendOutcome request replayPolicy effectKey startedSeq result cancelled)
      (fun _ _ => True) world := by
  unfold appendOutcome
  split
  · exact appendEffect_reuses
  · split
    · exact appendEffect_reuses
    · exact appendEffect_reuses
    · exact ensures_pure (fun _ _ _ => trivial)

section

variable {sandbox : Sandbox} (isKey : request.effectKey = some effectKey)

include isKey

theorem sandbox_reuses (started : world.EffectStarted (effectStreamId effectKey)) :
    (reuseContract digest calls meets).Ensures seam
      (sandbox.execute request (some replayPolicy)) (fun _ _ => True) world := by
  have allowed : ∀ now, Later world now →
      ReuseAllows digest (.sandboxExecute request (some replayPolicy)) now := by
    intro now later other isOther
    rw [isKey, Option.some.injEq] at isOther
    rw [← isOther]
    exact effectStarted_later later started
  cases sandbox with
  | direct => exact ensures_request (fun now later _ => allowed now later) (fun _ _ _ _ => trivial)
  | cancellable =>
    refine ensures_call_any (fun _ _ _ => trivial) ?_ (fun _ _ _ _ => trivial)
    intro aborted first firstLater _
    split
    · exact ensures_pure (fun _ _ _ => trivial)
    · exact ensures_request (fun now later _ => allowed now (firstLater.trans later))
        (fun _ _ _ _ => trivial)

theorem startEffect_reuses {intentHash : String} :
    (reuseContract digest calls meets).Ensures seam
      (startEffect sandbox request replayPolicy effectKey intentHash startedSeq)
      (fun _ _ => True) world := by
  refine ensures_assoc (ensures_call_any (fun _ _ _ => trivial) ?_ (fun _ _ _ _ => trivial))
  intro id _ _ _
  refine ensures_assoc (ensures_call_any (fun _ _ _ => trivial) ?_ (fun _ _ _ _ => trivial))
  intro timestamp _ _ _
  refine ensures_call (fun _ _ _ => trivial) ?_ (fun _ _ _ _ => trivial)
  rintro before _ _ value after ⟨⟨env, done⟩, _⟩ _
  have started : after.EffectStarted (effectStreamId effectKey) :=
    effectStarted_of_append rfl (Option.some.inj done)
  refine ensures_then (ensures_attempt (sandbox_reuses isKey started)) ?_ (fun _ _ _ _ => trivial)
  intro outcome _ _ _
  cases outcome with
  | error error => exact ensures_mono appendUnknown_reuses (fun _ _ _ => trivial)
  | ok result =>
    dsimp only
    split
    · exact ensures_mono appendUnknown_reuses (fun _ _ _ => trivial)
    · refine ensures_call_any (fun _ _ _ => trivial) ?_ (fun _ _ _ _ => trivial)
      intro aborted _ _ _
      exact ensures_then appendOutcome_reuses (fun _ _ _ _ => ensures_pure (fun _ _ _ => trivial))
        (fun _ _ _ _ => trivial)

theorem executeDurableEffect_reuses {recorded : List Entry}
    (isBeginning : recorded <+: world.entries (effectStreamId effectKey)) :
    (reuseContract digest calls meets).Ensures seam
      (executeDurableEffect sandbox request replayPolicy
        (effectIntentHash digest request replayPolicy))
      (Reuses digest ⟨request, some replayPolicy⟩ recorded) world := by
  unfold executeDurableEffect
  rw [isKey]
  refine ensures_call (fun _ _ _ => trivial) ?_ (fun _ _ _ _ _ isResult => nomatch isResult)
  rintro before beforeLater _ durableEvents after ⟨⟨env, done⟩, _⟩ _
  rcases read_entries done with ⟨isAfter, isRead, _⟩
  have isLonger := isBeginning.trans (beforeLater.streams _)
  cases said : recordedEffect durableEvents request replayPolicy effectKey
      (effectIntentHash digest request replayPolicy) with
  | result reused =>
    refine ensures_pure ?_
    intro now nowLater _ result isResult _
    cases isResult
    refine ⟨replayPolicy, effectKey, before.entries (effectStreamId effectKey), rfl, isKey,
      isLonger, ?_, Or.inl (isRead ▸ said)⟩
    rw [← isAfter]
    exact nowLater.streams _
  | orphaned startedSeq =>
    refine ensures_mono (ensures_since appendUnknown_reuses (Later.refl after)) ?_
    intro outcome now ⟨isUnknown, nowLater⟩ result isResult _
    refine ⟨replayPolicy, effectKey, before.entries (effectStreamId effectKey), rfl, isKey,
      isLonger, ?_, Or.inr ⟨⟨startedSeq, isRead ▸ said⟩, isUnknown result isResult⟩⟩
    rw [← isAfter]
    exact nowLater.streams _
  | unrecorded =>
    refine ensures_mono (startEffect_reuses isKey) ?_
    intro outcome now _ result _ ⟨started, member, isStarted⟩
    rcases recordedEffect_cases durableEvents request replayPolicy effectKey
        (effectIntentHash digest request replayPolicy) with
      ⟨conflict, _⟩ | ⟨_, ⟨result, reused, _⟩ | ⟨event, _, _, orphaned⟩ | ⟨_, unstarted⟩⟩
    · rw [conflict] at said
      cases said
    · rw [reused] at said
      cases said
    · rw [orphaned] at said
      cases said
    · refine absurd isStarted (unstarted started.event ?_)
      rw [isRead]
      exact List.mem_map_of_mem (isLonger.subset member)

end

theorem executeEffect_reuses {sandbox : Sandbox} :
    (reuseContract digest calls meets).Ensures seam
      (executeEffect digest sandbox request replayPolicy) (fun _ _ => True) world := by
  unfold executeEffect
  split
  · exact ensures_pure (fun _ _ _ => trivial)
  · rename_i effectKey isKey
    refine ensures_call (fun _ _ _ => trivial) ?_ (fun _ _ _ _ => trivial)
    rintro before _ _ coordination after ⟨⟨env, done⟩, _⟩ _
    cases coordination with
    | joined execution => exact ensures_request (fun _ _ _ => trivial) (fun _ _ _ _ => trivial)
    | entered execution =>
      obtain ⟨own, isOwn, isCause, isRecorded⟩ := perform_entered isKey done
      have isBeginning : own.recorded <+: after.entries (effectStreamId effectKey) := by
        rw [isRecorded]
      have attempted : (reuseContract digest calls meets).Ensures seam
          (executeDurableEffect sandbox request replayPolicy
            (effectIntentHash digest request replayPolicy)).attempt
          (fun result now => ∀ outcome, result = .ok outcome →
            Reuses digest ⟨request, some replayPolicy⟩ own.recorded outcome now) after := by
        refine ensures_attempt (ensures_mono (executeDurableEffect_reuses isKey isBeginning) ?_)
        intro outcome now reuses other same
        cases same
        exact reuses
      refine ensures_bind attempted ?_ (fun _ _ _ _ _ => trivial)
      intro outcome second secondLater _ settles
      have reuses := settles outcome rfl
      refine ensures_call_any ?_ ?_ (fun _ _ _ _ => trivial)
      · intro third thirdLater _ settled isSettled
        obtain ⟨own', isOwn', sameCause, sameRecorded⟩ :=
          (secondLater.trans thirdLater).executions isOwn
        have same : own' = settled := Option.some.inj (isOwn'.symm.trans isSettled)
        rw [← same, sameCause, sameRecorded, isCause]
        exact reuses_later thirdLater reuses
      · intro _ third _ _
        refine ensures_call_any (fun _ _ _ => trivial) ?_ (fun _ _ _ _ => trivial)
        intro _ fourth _ _
        cases outcome with
        | ok result | error error => exact fun _ _ _ => trivial

theorem calls_reuse (digest : String → String) (calls : Call → Prop)
    (meets : SeamId → (request : Request) → World → Except Thrown request.Response → Prop) :
    (reuseContract digest calls meets).Admits := by
  rintro seam program world ⟨call, _, isProgram⟩ _
  rw [isProgram]
  refine ensures_built ?_ (call_built call)
  intro γ program isPart now
  cases isPart with
  | request isPlain =>
    exact ensures_request (fun _ _ _ => reuseAllows_plain isPlain) (fun _ _ _ _ => trivial)
  | effect sandbox request replayPolicy => exact executeEffect_reuses

end Ensures

section Runs

variable {digest : String → String} {trace : List (Move Crowd Happening)} {last : Crowd}

/-- In every run in which the sandbox calls for an effect key are executions of
the effect, there is at most one of them, after the effect was started; and an
execution that was entered after the effect was started returns what is
recorded. -/
theorem approval_single_use (run : ToolRun digest GatewayCall trace last) {effectKey : String}
    (ledgered : ∀ move ∈ trace, Ledgered effectKey move) :
    sandboxCalls effectKey trace ≤ 1 ∧
      (∀ move ∈ trace, ∀ seam request replayPolicy answer,
        move.label = .answered seam (.sandboxExecute request replayPolicy) answer →
        request.effectKey = some effectKey →
        move.before.shared.EffectStarted (effectStreamId effectKey)) ∧
      ∀ execution ∈ last.shared.executions, execution.cause.request.effectKey = some effectKey →
        (∃ started ∈ execution.recorded, started.event.type = "tool.effect.started") →
        ∀ result, execution.outcome = some (.ok result) →
          RecordedResult digest execution.cause execution.recorded result last.shared := by
  have within : Run ((host digest GatewayCall).within Unconditional).Step
      ⟨World.empty, []⟩ trace last := run_within run (fun _ _ _ _ _ _ => trivial)
  have initial : ReuseInv digest World.empty := by
    intro execution member
    exact absurd member List.not_mem_nil
  rcases Contract.run_allowed (calls_reuse digest GatewayCall Unconditional) initial within with
    ⟨inv, allowed⟩
  refine ⟨sandboxCalls_le_one (calls_abide digest GatewayCall Unconditional) within ledgered, ?_, ?_⟩
  · intro move member seam request replayPolicy answer isLabel isKey
    cases replayPolicy with
    | none => exact absurd isKey (ledgered move member seam request answer isLabel)
    | some replayPolicy => exact (allowed move member).2 seam _ answer isLabel effectKey isKey
  · intro execution member _ started result isResult
    exact inv execution member _ isResult result rfl started

def durableGateway : BoundToolGateway :=
  { approvalGateway with
    catalog := [{ name := "bounded_patch", inputSchema := .ok, replayPolicy := some .never }] }

def executesEffect (move : Move Crowd Happening) : Bool :=
  match move.label with
  | .answered _ (.sandboxExecute _ replayPolicy) _ => replayPolicy.isSome
  | _ => true

theorem approval_single_use_durable :
    0 < sandboxCalls "k" (approvalPlayed durableGateway ["a", "a"]).1 ∧
      sandboxCalls "k" (approvalPlayed durableGateway ["a", "a"]).1 ≤ 1 := by
  refine ⟨by decide +kernel, (approval_single_use (approvalPlayed_run durableGateway ["a", "a"]) ?_).1⟩
  have checked : (approvalPlayed durableGateway ["a", "a"]).1.all executesEffect = true := by
    decide +kernel
  intro move member seam request answer isLabel
  have isChecked := List.all_eq_true.1 checked move member
  unfold executesEffect at isChecked
  rw [isLabel] at isChecked
  cases isChecked

/-- One approved answer, and a tool without a replay policy is executed by both
calls that follow. -/
theorem approval_used_twice :
    ToolRun id GatewayCall (approvalPlayed approvalGateway ["a", "a"]).1
        (approvalPlayed approvalGateway ["a", "a"]).2 ∧
      (∀ move ∈ (approvalPlayed approvalGateway ["a", "a"]).1, MoveMeets RequiresApproval move) ∧
      ((approvalPlayed approvalGateway ["a", "a"]).2.shared.entries "r").countP (fun entry =>
        decide (entry.event.type = "tool.approval.answered")) = 1 ∧
      sandboxCalls "k" (approvalPlayed approvalGateway ["a", "a"]).1 = 2 :=
  ⟨approvalPlayed_run approvalGateway ["a", "a"], asksOwner_meets (by decide +kernel),
    by decide +kernel, by decide +kernel⟩

end Runs

end AnnaAgent.Tools
