/-
What an approval is bound to.

A requested approval is recorded for one call.  The lookup of an approval
compares tool, worker, effect key and attribution with the recorded event, and
the event says nothing of the input, so an approval that was requested for one
input is found by a call with another.  Where that does not happen, the
sandbox is called only for what was approved.
-/

import AnnaAgent.Tools.EffectRequests
import AnnaAgent.Tools.Intent
import AnnaAgent.Tools.Streams

namespace AnnaAgent.Tools

open Foundation EventStore BoundToolGateway

def RequestedFor (entry : Entry) (request : ToolRequest) : Prop :=
  ∃ effectKey, request.effectKey = some effectKey ∧
    entry.event.type = "tool.approval.requested" ∧
    entry.event.payload = approvalRequestPayload request effectKey (approvalIdFor effectKey) ∧
    entry.cause = some { request, replayPolicy := none }

/-- An approved answer is recorded after the approval request of a call with
the same tool, worker and normalized input. -/
def World.Approved (world : World) (request : ToolRequest) : Prop :=
  ∃ requested ∈ world.entries request.runId, ∃ answered ∈ world.entries request.runId,
    ∃ own, RequestedFor requested own ∧ own.name = request.name ∧
      own.workerProfileId = request.workerProfileId ∧ Json.Same own.input request.input ∧
      own.effectKey = request.effectKey ∧
      answered.event.type = "tool.approval.answered" ∧
      requested.event.seq < answered.event.seq ∧
      sameText (answered.event.payload.get? "effectKey") request.effectKey = true ∧
      answered.event.payload.get? "decision" = some (.str "approved")

variable {before after : World}

theorem approved_later {request : ToolRequest} (later : Later before after)
    (approved : before.Approved request) : after.Approved request := by
  rcases approved with ⟨requested, isRequested, answered, isAnswered, rest⟩
  exact ⟨requested, (later.streams _).subset isRequested, answered,
    (later.streams _).subset isAnswered, rest⟩

def ApprovalInv (world : World) : Prop :=
  ∀ streamId, ∀ entry ∈ world.entries streamId,
    entry.event.type = "tool.approval.requested" → ∃ request, RequestedFor entry request

def ApprovalAllows : Request → World → Prop
  | .append event cause, _ =>
    event.type = "tool.approval.requested" → ∃ request, RequestedFor ⟨event, cause⟩ request
  | .sandboxExecute request _, world => world.Approved request
  | _, _ => True

theorem approvalInv_of_streams (same : after.streams = before.streams) (inv : ApprovalInv before) :
    ApprovalInv after := by
  intro streamId entry member
  refine inv streamId entry ?_
  unfold World.entries at member ⊢
  rw [← same]
  exact member

theorem perform_approvalInv {env : Env} {seam : SeamId} {request : Request}
    {answer : Except Thrown request.Response} (inv : ApprovalInv before)
    (allowed : ApprovalAllows request before)
    (done : perform env seam before request = some (answer, after)) : ApprovalInv after := by
  rw [perform_left done]
  cases request with
  | append event cause =>
    change ApprovalInv (before.appendEntry env event cause).2
    rcases appendEntry_cases before env event cause with
      ⟨same, _⟩ | ⟨_, stream, isAppended, isStored⟩
    · rw [same]
      exact inv
    · intro streamId entry member
      rw [isStored, entries_update] at member
      by_cases same : streamId = event.streamId
      · rw [if_pos same, isAppended] at member
        rcases List.mem_append.1 member with old | isNew
        · exact inv event.streamId entry old
        · rw [List.mem_singleton.1 isNew]
          exact allowed
      · rw [if_neg same] at member
        exact inv streamId entry member
  | coordinate key cause =>
    have same : (before.coordinate seam key cause).2.streams = before.streams := by
      unfold World.coordinate
      split
      · rfl
      · rfl
    exact approvalInv_of_streams same inv
  | settle execution outcome => exact approvalInv_of_streams rfl inv
  | removeInFlight key execution => exact approvalInv_of_streams rfl inv
  | _ => exact inv

def RequiresApproval (_ : SeamId) (request : Request) (_ : World)
    (answer : Except Thrown request.Response) : Prop :=
  match request, answer with
  | .decide _, .ok decision => decision = "require_approval"
  | _, _ => True

/-- A call that finds its approval approved has the input of the call that the
approval was requested for. -/
def BindsInput (_ : SeamId) (request : Request) (world : World)
    (answer : Except Thrown request.Response) : Prop :=
  match request, answer with
  | .readStream streamId (some asked), .ok durableEvents =>
    ∀ effectKey, asked.effectKey = some effectKey →
      ∀ entry ∈ world.entries streamId, ∀ own, entry.cause = some own →
        (approvalFor durableEvents asked (approvalIdFor effectKey)).request = some entry.event →
        (approvalFor durableEvents asked (approvalIdFor effectKey)).decision = some .approved →
        Json.Same own.request.input asked.input
  | _, _ => True

def approvalContract (digest : String → String) (calls : Call → Prop)
    (meets : SeamId → (request : Request) → World → Except Thrown request.Response → Prop) :
    Contract World SeamId Request Request.Response Thrown :=
  { host := (host digest calls).within meets
    later := Later
    respects := host_respects digest calls meets
    inv := ApprovalInv
    allowed := fun _ request world => ApprovalAllows request world
    keeps := by
      rintro seam request before answer after ⟨⟨env, done⟩, _⟩ inv allowed
      exact perform_approvalInv inv allowed done
    stops := by
      intro seam before after stopped inv
      change after = { before with inFlight := _ } at stopped
      rw [stopped]
      exact approvalInv_of_streams rfl inv
    drifts := fun drifted => drifted.elim }

def EffectRequest (executes : ToolRequest → Prop) : Request → Prop
  | .append event _ => event.type ≠ "tool.approval.requested"
  | .sandboxExecute request _ => executes request
  | _ => True

section Asks

open Program

variable {digest : String → String} {executes : ToolRequest → Prop} {request : ToolRequest}
  {replayPolicy : ReplayPolicy} {effectKey : String}

theorem lifecycle_asks {type : String} {details : List (String × Json)}
    (other : type ≠ "tool.approval.requested") :
    (appendToolLifecycleEvent request type details).Asks (EffectRequest executes) := by
  refine asks_call_bind trivial ?_
  intro durableEvents
  refine asks_call_bind trivial ?_
  intro timestamp
  exact asks_request other

theorem terminalResult_asks {result : ToolResult} {reason : Option String} :
    (terminalResult request result reason).Asks (EffectRequest executes) :=
  asks_bind (lifecycle_asks (by decide)) (fun _ => trivial)

theorem executeEffect_asks {sandbox : Sandbox} (isExecuted : executes request) :
    (executeEffect digest sandbox request replayPolicy).Asks (EffectRequest executes) := by
  apply asks_mono (executeEffect_requests digest sandbox request replayPolicy)
  intro asked isRequest
  cases asked with
  | append event cause => exact isRequest.2
  | sandboxExecute other policy =>
    change executes other
    rw [isRequest.1]
    exact isExecuted
  | readStream streamId approvalOf => exact trivial
  | createEventId => exact trivial
  | now => exact trivial
  | decide request => exact trivial
  | aborted => exact trivial
  | coordinate executionKey cause => exact trivial
  | awaitExecution execution => exact trivial
  | settle execution outcome => exact trivial
  | removeInFlight executionKey execution => exact trivial

theorem executeApproved_asks {definition : ToolDefinition} (isExecuted : executes request) :
    (executeApproved digest definition request).Asks (EffectRequest executes) := by
  unfold executeApproved
  split
  · exact executeEffect_asks isExecuted
  · exact asks_request isExecuted

end Asks

section Lookup

variable {durableEvents : List Event} {event : Event} {asked own : ToolRequest}
  {approvalId : String} {cause : Option Cause}

theorem approvalFor_approved
    (approved : (approvalFor durableEvents asked approvalId).decision = some .approved) :
    ∃ requested ∈ durableEvents,
      (approvalFor durableEvents asked approvalId).request = some requested ∧
      isApprovalRequest requested asked approvalId = true ∧
      ∃ answered ∈ durableEvents, requested.seq < answered.seq ∧
        getApprovalDecision answered asked approvalId = some .approved := by
  cases found : durableEvents.find? (fun event => isApprovalRequest event asked approvalId) with
  | none =>
    simp only [approvalFor, found] at approved
    cases approved
  | some requested =>
    have isFound : (approvalFor durableEvents asked approvalId).request = some requested := by
      simp only [approvalFor, found]
    simp only [approvalFor, found] at approved
    rcases List.exists_of_findSome?_eq_some approved with ⟨answered, member, isDecision⟩
    rcases List.mem_filter.1 member with ⟨isEvent, isAfter⟩
    have isRequest := List.find?_some found
    exact ⟨requested, List.mem_of_find?_eq_some found, isFound, isRequest, answered, isEvent,
      of_decide_eq_true isAfter, isDecision⟩

theorem getApprovalDecision_approved
    (approved : getApprovalDecision event asked approvalId = some .approved) :
    event.type = "tool.approval.answered" ∧
      sameText (event.payload.get? "effectKey") asked.effectKey = true ∧
      event.payload.get? "decision" = some (.str "approved") := by
  unfold getApprovalDecision at approved
  split at approved
  · rename_i isAnswer
    simp only [Bool.and_eq_true, decide_eq_true_eq] at isAnswer
    refine ⟨isAnswer.1, isAnswer.2.2.2.2.2.2.1, ?_⟩
    split at approved
    · assumption
    · cases approved
    · cases approved
  · cases approved

theorem isApprovalRequest_own (isRequest : isApprovalRequest event asked approvalId = true)
    (recorded : RequestedFor ⟨event, cause⟩ own) :
    own.name = asked.name ∧ own.workerProfileId = asked.workerProfileId ∧
      own.effectKey = asked.effectKey := by
  rcases recorded with ⟨effectKey, isKey, _, isPayload, _⟩
  change event.payload = _ at isPayload
  unfold isApprovalRequest at isRequest
  simp only [Bool.and_eq_true, decide_eq_true_eq] at isRequest
  rcases isRequest with ⟨_, _, _, _, _, _, sameWorker, sameTool, sameKey, _⟩
  rw [isPayload] at sameWorker sameTool sameKey
  have worker : decide (own.workerProfileId = asked.workerProfileId) = true := sameWorker
  have tool : decide (own.name = asked.name) = true := sameTool
  have key : sameText ((some effectKey).map Json.str) asked.effectKey = true := sameKey
  exact ⟨of_decide_eq_true tool, of_decide_eq_true worker, isKey.trans (sameText_map.1 key)⟩

theorem approved_of_lookup {world : World} {effectKey : String} (inv : ApprovalInv world)
    (isKey : asked.effectKey = some effectKey)
    (isRead : durableEvents = (world.entries asked.runId).map Entry.event)
    (binds : BindsInput 0 (.readStream asked.runId (some asked)) world (.ok durableEvents))
    (approved : (approvalFor durableEvents asked
      (approvalIdFor effectKey)).decision = some .approved) : world.Approved asked := by
  rcases approvalFor_approved approved with
    ⟨requested, isRequested, isFound, isRequest, answered, isAnswered, isAfter, isDecision⟩
  rw [isRead] at isRequested isAnswered
  rcases List.mem_map.1 isRequested with ⟨requestedEntry, requestedMember, isRequestedEvent⟩
  rcases List.mem_map.1 isAnswered with ⟨answeredEntry, answeredMember, isAnsweredEvent⟩
  rw [← isAnsweredEvent] at isAfter isDecision
  rw [← isRequestedEvent] at isFound isRequest isAfter
  have isType : requestedEntry.event.type = "tool.approval.requested" := by
    unfold isApprovalRequest at isRequest
    rw [Bool.and_eq_true, decide_eq_true_eq] at isRequest
    exact isRequest.1
  rcases inv asked.runId requestedEntry requestedMember isType with ⟨own, recorded⟩
  rcases isApprovalRequest_own isRequest recorded with ⟨sameName, sameWorker, sameKey⟩
  rcases getApprovalDecision_approved isDecision with ⟨isAnswer, answersKey, isApproved⟩
  have isCause : requestedEntry.cause = some ⟨own, none⟩ := by
    rcases recorded with ⟨_, _, _, _, isCause⟩
    exact isCause
  have sameInput := binds effectKey isKey requestedEntry requestedMember ⟨own, none⟩ isCause
    isFound approved
  exact ⟨requestedEntry, requestedMember, answeredEntry, answeredMember, own, recorded, sameName,
    sameWorker, sameInput, sameKey, isAnswer, isAfter, answersKey, isApproved⟩

end Lookup

/-! ### Calls keep the contract -/

/-- The policy requires approvals, and an approval that a call finds binds its
input. -/
def ApprovalMeets (seam : SeamId) (request : Request) (world : World)
    (answer : Except Thrown request.Response) : Prop :=
  RequiresApproval seam request world answer ∧ BindsInput seam request world answer

def GatewayCall : Call → Prop
  | .executeEffect _ _ _ => False
  | .execute _ _ => True
  | .answerApproval _ _ => True

section Ensures

open Contract Program

variable {α : Type} {digest : String → String} {calls : Call → Prop} {seam : SeamId} {world : World}
  {request lifecycleRequest : ToolRequest} {definition : ToolDefinition} {effectKey : String}

theorem effects_ensures {program : Async α} (asks : program.Asks (EffectRequest world.Approved)) :
    (approvalContract digest calls ApprovalMeets).Ensures seam program (fun _ _ => True) world := by
  refine ensures_of_asks asks ?_
  intro request isAsked now later _
  cases request with
  | append event cause => exact fun isRequest => absurd isRequest isAsked
  | sandboxExecute request replayPolicy => exact approved_later later isAsked
  | _ => exact trivial

theorem appendApprovalRequest_ensures {durableEvents : List Event}
    (isKey : request.effectKey = some effectKey) :
    (approvalContract digest calls ApprovalMeets).Ensures seam
      (appendApprovalRequest request effectKey (approvalIdFor effectKey)
        durableEvents) (fun _ _ => True) world := by
  refine ensures_call_any (fun _ _ _ => trivial) ?_ (fun _ _ _ _ => trivial)
  intro id _ _ _
  refine ensures_call_any (fun _ _ _ => trivial) ?_ (fun _ _ _ _ => trivial)
  intro timestamp _ _ _
  refine ensures_request ?_ (fun _ _ _ _ => trivial)
  intro before _ _ _
  exact ⟨request, effectKey, isKey, rfl, rfl, rfl⟩

theorem executeWithApproval_ensures (isKey : request.effectKey = some effectKey) :
    (approvalContract digest calls ApprovalMeets).Ensures seam
      (executeWithApproval digest lifecycleRequest definition request effectKey)
      (fun _ _ => True) world := by
  refine ensures_call (fun _ _ _ => trivial) ?_ (fun _ _ _ _ => trivial)
  rintro before _ inv durableEvents after ⟨⟨env, done⟩, meets⟩ _
  rcases read_entries done with ⟨isAfter, isRead, _⟩
  dsimp only
  cases found : (approvalFor durableEvents request
      (approvalIdFor effectKey)).decision with
  | none =>
    refine ensures_then ?_ ?_ (fun _ _ _ _ => trivial)
    · unfold requestApproval
      split
      · exact appendApprovalRequest_ensures isKey
      · exact ensures_pure (fun _ _ _ => trivial)
    · intro _ _ _ _
      exact effects_ensures terminalResult_asks
  | some decision =>
    cases decision with
    | approved =>
      have approved := approved_of_lookup inv isKey isRead meets.2 found
      rw [← isAfter] at approved
      exact effects_ensures
        (asks_bind (executeApproved_asks approved) (fun _ => terminalResult_asks))
    | denied => exact effects_ensures terminalResult_asks

theorem executeDecided_ensures :
    (approvalContract digest calls ApprovalMeets).Ensures seam
      (executeDecided digest lifecycleRequest definition request
        "require_approval") (fun _ _ => True) world := by
  unfold executeDecided
  rw [if_neg (by decide), if_neg (by decide)]
  cases found : effectKeyOf request with
  | none => exact effects_ensures terminalResult_asks
  | some effectKey =>
    refine executeWithApproval_ensures ?_
    unfold effectKeyOf at found
    split at found
    · rename_i isKey
      split at found
      · cases found
      · rw [isKey, found]
    · cases found

theorem executeNormalized_ensures :
    (approvalContract digest calls ApprovalMeets).Ensures seam
      (executeNormalized digest lifecycleRequest definition request)
      (fun _ _ => True) world := by
  have decided : (approvalContract digest calls ApprovalMeets).Ensures seam
      (Tools.ask (.decide request)).attempt
      (fun outcome _ => ∀ decision, outcome = .ok (.ok decision) → decision = "require_approval")
      world := by
    refine ensures_attempt ?_
    intro before _ _
    refine ⟨trivial, ?_⟩
    rintro answer after ⟨_, meets⟩
    cases answer with
    | error error =>
      intro _ _ _ decision same
      cases same
    | ok decided =>
      intro _ _ _ decision same
      cases same
      exact meets.1
  refine ensures_bind decided ?_ (fun _ _ _ _ _ => trivial)
  intro outcome now _ _ requires
  cases outcome with
  | error error => exact effects_ensures terminalResult_asks
  | ok decision =>
    have known : "require_approval" ∈ ["allow", "deny", "require_approval"] := by decide
    dsimp only
    rw [requires decision rfl, if_neg (not_not_intro known)]
    refine ensures_then (effects_ensures (lifecycle_asks (by decide))) ?_ (fun _ _ _ _ => trivial)
    intro _ _ _ _
    exact executeDecided_ensures

variable {gateway : BoundToolGateway}

theorem execute_ensures :
    (approvalContract digest calls ApprovalMeets).Ensures seam (gateway.execute digest request)
      (fun _ _ => True) world := by
  unfold execute
  cases lifecycleRequestFor gateway request with
  | none => exact ensures_pure (fun _ _ _ => trivial)
  | some lifecycleRequest =>
    refine ensures_then (effects_ensures (lifecycle_asks (by decide))) ?_ (fun _ _ _ _ => trivial)
    intro _ _ _ _
    split
    · exact effects_ensures terminalResult_asks
    · split
      · exact effects_ensures terminalResult_asks
      · split
        · exact effects_ensures terminalResult_asks
        · exact executeNormalized_ensures

theorem answerApproval_asks {executes : ToolRequest → Prop} {answer : ToolApprovalAnswer} :
    (gateway.answerApproval answer).Asks (EffectRequest executes) := by
  unfold BoundToolGateway.answerApproval
  split
  · exact trivial
  · refine asks_call_bind trivial ?_
    intro durableEvents
    split
    · exact trivial
    · refine asks_call_bind trivial ?_
      intro id
      refine asks_call_bind trivial ?_
      intro timestamp
      refine asks_request ?_
      change "tool.approval.answered" ≠ "tool.approval.requested"
      decide

theorem approvalContract_admits (digest : String → String) :
    (approvalContract digest GatewayCall ApprovalMeets).Admits := by
  rintro seam program world ⟨call, isCall, isProgram⟩ _
  rw [isProgram]
  cases call with
  | executeEffect sandbox request replayPolicy => exact isCall.elim
  | execute gateway request =>
    exact ensures_then execute_ensures (fun _ _ _ _ => fun _ _ _ => trivial)
      (fun _ _ _ _ => trivial)
  | answerApproval gateway answer => exact effects_ensures answerApproval_asks

end Ensures

section Runs

variable {digest : String → String} {trace : List (Move Crowd Happening)} {last : Crowd}

theorem approvalInv_empty : ApprovalInv World.empty := by
  intro streamId entry member
  exact absurd member List.not_mem_nil

/-- In every run under a policy that requires approvals, in which each call
that finds its approval approved has the input it was requested for, the
sandbox is called only for what was approved. -/
theorem sandbox_executes_approved (run : ToolRun digest GatewayCall trace last)
    (required : ∀ move ∈ trace, MoveMeets RequiresApproval move)
    (bound : ∀ move ∈ trace, MoveMeets BindsInput move) :
    ∀ move ∈ trace, ∀ seam request replayPolicy answer,
      move.label = .answered seam (.sandboxExecute request replayPolicy) answer →
      move.before.shared.Approved request := by
  have within : Run ((host digest GatewayCall).within ApprovalMeets).Step
      ⟨World.empty, []⟩ trace last := by
    refine run_within run ?_
    intro move member seam request answer isLabel
    exact ⟨required move member seam request answer isLabel,
      bound move member seam request answer isLabel⟩
  rcases Contract.run_allowed (approvalContract_admits digest) approvalInv_empty within with
    ⟨_, allowed⟩
  intro move member seam request replayPolicy answer isLabel
  exact (allowed move member).2 seam _ answer isLabel

def approvalGateway : BoundToolGateway :=
  { catalog := [{ name := "bounded_patch", inputSchema := .ok, replayPolicy := none }]
    scope := { workspaceId := "w", channelId := "c" }
    workerProfileId := "p" }

def approvalRequest (input : String) : ToolRequest :=
  { workspaceId := "w"
    channelId := "c"
    runId := "r"
    workerProfileId := "p"
    name := "bounded_patch"
    input := .str input
    effectKey := some "k"
    toolCallId := "t"
    parentRunId := none
    parentEventId := none
    laneId := none }

def approvalAnswer : ToolApprovalAnswer :=
  { workspaceId := "w"
    channelId := "c"
    runId := "r"
    effectKey := "k"
    approvalId := "approval:k"
    actorId := "owner"
    decision := "approved"
    parentRunId := none
    parentEventId := none
    laneId := none }

def approvalEnv : Env :=
  { append := .appended
    text := .ok "e"
    decision := .ok "require_approval"
    sandbox := .ok { status := .succeeded, output := none }
    aborted := false }

/-- A call asks for an approval, which is given; then come calls with other
inputs. -/
def approvalScript (gateway : BoundToolGateway) (inputs : List String) : List Choice :=
  .call 0 (.execute gateway (approvalRequest "a")) ::
    List.replicate 14 (.answer 0 approvalEnv) ++
    .call 0 (.answerApproval gateway approvalAnswer) :: List.replicate 4 (.answer 1 approvalEnv) ++
    (inputs.zipIdx.map (fun (input, index) =>
      .call 0 (.execute gateway (approvalRequest input)) ::
        List.replicate 24 (.answer (index + 2) approvalEnv))).flatten

def approvalPlayed (gateway : BoundToolGateway) (inputs : List String) :
    List (Move Crowd Happening) × Crowd :=
  play id (approvalScript gateway inputs) ⟨World.empty, []⟩

theorem approvalPlayed_run (gateway : BoundToolGateway) (inputs : List String) :
    ToolRun id GatewayCall (approvalPlayed gateway inputs).1 (approvalPlayed gateway inputs).2 := by
  refine play_run id ?_ ⟨World.empty, []⟩
  intro choice member
  unfold approvalScript at member
  simp only [List.cons_append, List.append_assoc, List.mem_cons, List.mem_append,
    List.mem_replicate, List.mem_flatten, List.mem_map] at member
  rcases member with isCall | isAnswer | isCall | isAnswer | ⟨turn, ⟨reused, _, isTurn⟩, inTurn⟩
  · rw [isCall]
    exact trivial
  · rw [isAnswer.2]
    exact trivial
  · rw [isCall]
    exact trivial
  · rw [isAnswer.2]
    exact trivial
  · rw [← isTurn] at inTurn
    rcases List.mem_cons.1 inTurn with isCall | isAnswer
    · rw [isCall]
      exact trivial
    · rw [List.eq_of_mem_replicate isAnswer]
      exact trivial

/-- The checks that a scripted run is under the policy and binds inputs. -/
def asksOwner (move : Move Crowd Happening) : Bool :=
  match move.label with
  | .answered _ (.decide _) (.ok decision) => decide (decision = "require_approval")
  | _ => true

def recordsInput (input : Json) (entry : Entry) : Bool :=
  match entry.cause with
  | some own => decide (own.request.input.sortKeys = input.sortKeys)
  | none => true

theorem recordsInput_same {input : Json} {entry : Entry} {own : Cause}
    (isOwn : entry.cause = some own) :
    recordsInput input entry = true ↔ Json.Same own.request.input input := by
  unfold recordsInput Json.Same
  rw [isOwn]
  exact decide_eq_true_iff

def findsOwnInput (move : Move Crowd Happening) : Bool :=
  match move.label with
  | .answered _ (.readStream streamId (some asked)) _ =>
    (move.before.shared.entries streamId).all (recordsInput asked.input)
  | _ => true

theorem asksOwner_meets (checked : trace.all asksOwner = true) :
    ∀ move ∈ trace, MoveMeets RequiresApproval move := by
  intro move member seam request answer isLabel
  have isChecked := List.all_eq_true.1 checked move member
  unfold asksOwner at isChecked
  rw [isLabel] at isChecked
  cases request with
  | decide request =>
    cases answer with
    | ok decision =>
      change decision = "require_approval"
      exact of_decide_eq_true isChecked
    | error error => exact trivial
  | _ => exact trivial

theorem sandbox_executes_approved_again :
    0 < sandboxCalls "k" (approvalPlayed approvalGateway ["a"]).1 ∧
      ∀ move ∈ (approvalPlayed approvalGateway ["a"]).1, ∀ seam request replayPolicy answer,
        move.label = .answered seam (.sandboxExecute request replayPolicy) answer →
        move.before.shared.Approved request := by
  refine ⟨by decide +kernel, ?_⟩
  refine sandbox_executes_approved (approvalPlayed_run approvalGateway ["a"])
    (asksOwner_meets (by decide +kernel)) ?_
  have checked : (approvalPlayed approvalGateway ["a"]).1.all findsOwnInput = true := by decide +kernel
  intro move member seam request answer isLabel
  have isChecked := List.all_eq_true.1 checked move member
  unfold findsOwnInput at isChecked
  rw [isLabel] at isChecked
  cases request with
  | readStream streamId approvalOf =>
    cases approvalOf with
    | none => exact trivial
    | some asked =>
      cases answer with
      | error error => exact trivial
      | ok durableEvents =>
        intro effectKey _ entry inStream own isOwn _ _
        exact (recordsInput_same isOwn).1 (List.all_eq_true.1 isChecked entry inStream)
  | _ => exact trivial

def executesUnrecorded (move : Move Crowd Happening) : Bool :=
  match move.label with
  | .answered _ (.sandboxExecute request _) _ =>
    (move.before.shared.entries request.runId).all (fun entry =>
      !(recordsInput request.input entry && entry.cause.isSome))
  | _ => false

theorem approval_reused_for_other_input :
    ToolRun id GatewayCall (approvalPlayed approvalGateway ["b"]).1 (approvalPlayed approvalGateway ["b"]).2 ∧
      (∀ move ∈ (approvalPlayed approvalGateway ["b"]).1, MoveMeets RequiresApproval move) ∧
      ∃ move ∈ (approvalPlayed approvalGateway ["b"]).1, ∃ seam request replayPolicy answer,
        move.label = .answered seam (.sandboxExecute request replayPolicy) answer ∧
        ¬ move.before.shared.Approved request := by
  refine ⟨approvalPlayed_run approvalGateway ["b"], asksOwner_meets (by decide +kernel), ?_⟩
  have found : (approvalPlayed approvalGateway ["b"]).1.any executesUnrecorded = true := by
    decide +kernel
  rcases List.any_eq_true.1 found with ⟨move, member, isFound⟩
  refine ⟨move, member, ?_⟩
  unfold executesUnrecorded at isFound
  cases isLabel : move.label with
  | answered seam request answer =>
    rw [isLabel] at isFound
    cases request with
    | sandboxExecute request replayPolicy =>
      refine ⟨seam, request, replayPolicy, answer, rfl, ?_⟩
      rintro ⟨requested, isRequested, _, _, own, recorded, _, _, sameInput, _⟩
      rcases recorded with ⟨_, _, _, _, isCause⟩
      have differs := List.all_eq_true.1 isFound requested isRequested
      rw [(recordsInput_same isCause).2 sameInput, isCause] at differs
      cases differs
    | _ => cases isFound
  | _ =>
    rw [isLabel] at isFound
    cases isFound

end Runs

end AnnaAgent.Tools
