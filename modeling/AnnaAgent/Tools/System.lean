/-
Gateways over one scoped event store.

A seam is the `events` object that gateways of one process share; the
executions in flight belong to it, and a crash ends all calls at it.  The
store appends an event only when its `seq` is the length of the stream, may
refuse it for any other reason, and may fail after it has appended.  Beside
the events a stream keeps the call each of them was appended for, and of each
execution the world records the call and what its stream held at that time:
no program reads either.
-/

import AnnaAgent.Foundation.Interleaving
import AnnaAgent.Tools.Gateway

namespace AnnaAgent.Tools

open Foundation EventStore

structure Entry where
  event : Event
  cause : Option Cause

structure EventStream where
  entries : List Entry
  numbered : ∀ (index : Nat) (entry : Entry), entries[index]? = some entry → entry.event.seq = index

namespace EventStream

def empty : EventStream :=
  { entries := []
    numbered := by
      intro index entry found
      cases found }

def events (stream : EventStream) : List Event := stream.entries.map Entry.event

/-- `none` when the `seq` of the event is not the length of the stream. -/
def append? (stream : EventStream) (entry : Entry) : Option EventStream :=
  if next : entry.event.seq = stream.entries.length then
    some
      { entries := stream.entries ++ [entry]
        numbered := by
          intro index other found
          rcases Nat.lt_trichotomy index stream.entries.length with inside | isLast | outside
          · rw [List.getElem?_append_left inside] at found
            exact stream.numbered index other found
          · rw [List.getElem?_append_right (Nat.le_of_eq isLast.symm), isLast, Nat.sub_self] at found
            cases found
            rw [next, isLast]
          · rw [List.getElem?_append_right (Nat.le_of_lt outside)] at found
            have isNext := List.getElem?_eq_some_iff.1 found
            rcases isNext with ⟨bound, _⟩
            rw [List.length_singleton] at bound
            omega }
  else none

end EventStream

/-- An execution of an effect with what its stream held when it was entered. -/
structure Execution where
  cause : Cause
  recorded : List Entry
  outcome : Option (Except Thrown ToolResult)

/-- A call that joined an execution in flight. -/
structure Joined where
  cause : Cause
  execution : ExecutionId

abbrev SeamId := Nat

structure World where
  streams : StreamId → EventStream
  inFlight : SeamId → List (String × ExecutionId)
  executions : List Execution
  joins : List Joined

def World.empty : World :=
  { streams := fun _ => .empty
    inFlight := fun _ => []
    executions := []
    joins := [] }

def World.entries (world : World) (streamId : StreamId) : List Entry :=
  (world.streams streamId).entries

inductive AppendAnswer where
  | appended
  | acknowledgementLost (error : Thrown)
  | refused (error : Thrown)

/-- What is drawn from outside: how the store behaves, the texts of
`createEventId` and the clock, the policy, the sandbox and the signal. -/
structure Env where
  append : AppendAnswer
  text : Except Thrown String
  decision : Except Thrown String
  sandbox : Except Thrown ToolResult
  aborted : Bool

def World.appendEntry (world : World) (env : Env) (event : Event) (cause : Option Cause) :
    Except Thrown Unit × World :=
  let streams := fun stream => Function.update world.streams event.streamId stream
  match (world.streams event.streamId).append? { event, cause }, env.append with
  | some stream, .appended => (.ok (), { world with streams := streams stream })
  | some stream, .acknowledgementLost error =>
    (.error error, { world with streams := streams stream })
  | some _, .refused error => (.error error, world)
  | none, .refused error => (.error error, world)
  | none, _ => (.error .eventSequenceConflictError, world)

/-- `inFlight.get`, and `inFlight.set` when there is nothing. -/
def World.coordinate (world : World) (seam : SeamId) (key : String) (cause : Cause) :
    Coordination × World :=
  match (world.inFlight seam).lookup key with
  | some execution =>
    (.joined execution, { world with joins := world.joins ++ [{ cause, execution }] })
  | none =>
    let recorded := match cause.request.effectKey with
      | some effectKey => world.entries (effectStreamId effectKey)
      | none => []
    (.entered world.executions.length,
      { world with
        inFlight := Function.update world.inFlight seam
          ((key, world.executions.length) :: world.inFlight seam)
        executions := world.executions ++ [{ cause, recorded, outcome := none }] })

def World.settle (world : World) (execution : ExecutionId) (outcome : Except Thrown ToolResult) :
    World :=
  { world with
    executions := world.executions.modify execution
      (fun settled => { settled with outcome := some outcome }) }

def World.removeInFlight (world : World) (seam : SeamId) (key : String)
    (execution : ExecutionId) : World :=
  { world with
    inFlight := Function.update world.inFlight seam
      ((world.inFlight seam).filter (fun entry => entry ≠ (key, execution))) }

/-- The answer to a request; `none` while an awaited execution is not settled. -/
def perform (env : Env) (seam : SeamId) (world : World) :
    (request : Request) → Option (Except Thrown request.Response × World)
  | .readStream streamId _ => some (.ok (world.streams streamId).events, world)
  | .append event cause => some (world.appendEntry env event cause)
  | .createEventId => some (env.text, world)
  | .now => some (env.text, world)
  | .decide _ => some (env.decision, world)
  | .sandboxExecute _ _ => some (env.sandbox, world)
  | .aborted => some (.ok env.aborted, world)
  | .coordinate key cause =>
    let coordinated := world.coordinate seam key cause
    some (.ok coordinated.1, coordinated.2)
  | .awaitExecution execution =>
    match (world.executions[execution]?).bind Execution.outcome with
    | some outcome => some (outcome, world)
    | none => none
  | .settle execution outcome => some (.ok (), world.settle execution outcome)
  | .removeInFlight key execution => some (.ok (), world.removeInFlight seam key execution)

inductive Call where
  | executeEffect (sandbox : Sandbox) (request : ToolRequest) (replayPolicy : ReplayPolicy)
  | execute (gateway : BoundToolGateway) (request : ToolRequest)
  | answerApproval (gateway : BoundToolGateway) (answer : ToolApprovalAnswer)

variable (digest : String → String)

def Call.program : Call → Async Unit
  | .executeEffect sandbox request replayPolicy =>
    (Tools.executeEffect digest sandbox request replayPolicy).discard
  | .execute gateway request => (gateway.execute digest request).discard
  | .answerApproval gateway answer => gateway.answerApproval answer

/-- Any number of seams and any calls of the given kind. -/
def host (calls : Call → Prop) : Host World SeamId Request Request.Response Thrown where
  performs seam request before answer after :=
    ∃ env, perform env seam before request = some (answer, after)
  starts _ program _ := ∃ call, calls call ∧ program = call.program digest
  stops seam before after :=
    after = { before with inFlight := Function.update before.inFlight seam [] }
  drifts _ _ := False

abbrev Crowd := Foundation.Crowd World SeamId Request Request.Response Thrown

abbrev Happening := Foundation.Happening SeamId Request Request.Response Thrown

abbrev ToolRun (calls : Call → Prop) (trace : List (Move Crowd Happening)) (last : Crowd) : Prop :=
  Run (host digest calls).Step ⟨World.empty, []⟩ trace last

/-- One step of a script: a call at a seam, or the answer to the request a
process waits on. -/
inductive Choice where
  | call (seam : SeamId) (invoked : Call)
  | answer (index : Nat) (env : Env)

def Choice.move (crowd : Crowd) : Choice → Option (Happening × Crowd)
  | .call seam invoked =>
    let program := invoked.program digest
    some (.started seam program, ⟨crowd.shared, crowd.processes ++ [⟨seam, program⟩]⟩)
  | .answer index env =>
    match crowd.processes[index]? with
    | some ⟨seam, .ask request next⟩ =>
      match perform env seam crowd.shared request with
      | some answered =>
        some (.answered seam request answered.1,
          ⟨answered.2, crowd.processes.set index ⟨seam, next answered.1⟩⟩)
      | none => none
    | _ => none

def Choice.Of (calls : Call → Prop) : Choice → Prop
  | .call _ invoked => calls invoked
  | .answer _ _ => True

theorem Choice.move_step {calls : Call → Prop} {choice : Choice} {crowd crowd' : Crowd}
    {happening : Happening} (isOf : choice.Of calls)
    (moved : choice.move digest crowd = some (happening, crowd')) :
    (host digest calls).Step crowd happening crowd' := by
  cases choice with
  | call seam invoked =>
    cases moved
    exact .started ⟨invoked, isOf, rfl⟩
  | answer index env =>
    simp only [Choice.move] at moved
    split at moved
    · rename_i seam request next waiting
      split at moved
      · rename_i answered performed
        cases moved
        exact .answered waiting ⟨env, performed⟩
      · cases moved
    · cases moved

/-- The moves of a script and where they lead; impossible choices are left
out. -/
def play : List Choice → Crowd → List (Move Crowd Happening) × Crowd
  | [], crowd => ([], crowd)
  | choice :: rest, crowd =>
    match choice.move digest crowd with
    | none => play rest crowd
    | some (happening, crowd') =>
      let later := play rest crowd'
      (⟨crowd, happening, crowd'⟩ :: later.1, later.2)

theorem play_run {calls : Call → Prop} {choices : List Choice}
    (areOf : ∀ choice ∈ choices, choice.Of calls) (crowd : Crowd) :
    Run (host digest calls).Step crowd (play digest choices crowd).1
      (play digest choices crowd).2 := by
  induction choices generalizing crowd with
  | nil => exact .nil crowd
  | cons choice rest ih =>
    have restOf := fun other member => areOf other (List.mem_cons_of_mem _ member)
    unfold play
    cases moved : choice.move digest crowd with
    | none => exact ih restOf crowd
    | some result =>
      rcases result with ⟨happening, crowd'⟩
      exact .cons (Choice.move_step digest (areOf choice List.mem_cons_self) moved)
        (ih restOf crowd')

def sandboxCalls (effectKey : String) (trace : List (Move Crowd Happening)) : Nat :=
  trace.countP (fun move =>
    match move.label with
    | .answered _ (.sandboxExecute request _) _ => decide (request.effectKey = some effectKey)
    | _ => false)

end AnnaAgent.Tools
