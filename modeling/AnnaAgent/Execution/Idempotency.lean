/-
Command idempotency.

A command row, once written, decides every later dispatch under its workspace
and request id: the same payload replays the recorded result, any other payload
is a conflict, and neither changes a table.
-/

import AnnaAgent.Execution.EventLog

namespace AnnaAgent.Execution

open Foundation

variable {digest : Digest} {env : Env} {db db' : Db} {command : ExecutionCommand}

theorem atomically_of_ok {α : Type} {body : Db → Except StoreError (α × Db)} {value : α}
    (done : body db = .ok (value, db')) : atomically body db = (.ok value, db') := by
  unfold atomically
  rw [done]

theorem atomically_of_error {α : Type} {body : Db → Except StoreError (α × Db)}
    {error : StoreError} (raised : body db = .error error) :
    atomically body db = (.error error, db) := by
  unfold atomically
  rw [raised]

variable {existing : CommandRow}

theorem afterCreation_of_replay (creates : command.Creates)
    {body : Db → Except StoreError (Option ExecutionId × Db)}
    (replayed : body db = .ok (existing.result.created, db)) :
    Db.afterCreation command.requestId (atomically body db) = (existing.replay command db, db) := by
  rw [atomically_of_ok replayed]
  cases created : existing.result.created with
  | none =>
    rw [replay_none created, overflowAnswer_of_creates creates]
    rfl
  | some executionId =>
    rw [replay_some created]
    rfl

theorem atomically_of_replay (answer : command.overflowAnswer = .keyError "execution_id")
    (same : Db.assertSameCommand digest existing command = .ok ())
    {body : Db → Except StoreError (ExecutionSnapshot × Db)}
    (replayed : body db = Db.replayTarget digest db existing command) :
    atomically body db = (existing.replay command db, db) := by
  unfold Db.replayTarget at replayed
  rw [same] at replayed
  change body db = (existing.result.target >>= fun executionId =>
    db.get executionId >>= fun snapshot => .ok (snapshot, db)) at replayed
  cases created : existing.result.created with
  | none =>
    rw [target_error created] at replayed
    rw [replay_none created, answer]
    exact atomically_of_error replayed
  | some executionId =>
    rw [target_ok.2 created] at replayed
    change body db = (db.get executionId >>= fun snapshot => .ok (snapshot, db)) at replayed
    rw [replay_some created]
    cases read : db.get executionId with
    | ok snapshot =>
      rw [read] at replayed
      exact atomically_of_ok replayed
    | error error =>
      rw [read] at replayed
      exact atomically_of_error replayed

theorem dispatch_of_replays (replays : Replays digest command db existing) (maxQueueDepth : Int) :
    db.dispatch digest env command maxQueueDepth = (existing.replay command db, db) := by
  have found := replays.found
  have same : Db.assertSameCommand digest existing command = .ok () :=
    assertSameCommand_ok.2 replays.samePayload
  cases command with
  | start command =>
    refine @afterCreation_of_replay db (.start command) existing trivial _ ?_
    unfold Db.startTransaction
    change db.commandRow command.workspaceId command.requestId = _ at found
    rw [found]
    simp only [same]
    rfl
  | redrive command =>
    refine @afterCreation_of_replay db (.redrive command) existing trivial _ ?_
    unfold Db.redriveTransaction
    change db.commandRow command.workspaceId command.requestId = _ at found
    rw [found]
    simp only [same]
    rfl
  | signal command =>
    refine atomically_of_replay rfl same ?_
    unfold Db.dispatchSignal
    change db.commandRow command.workspaceId command.requestId = _ at found
    rw [found]
  | cancel command =>
    refine atomically_of_replay rfl same ?_
    unfold Db.dispatchCancel
    change db.commandRow command.workspaceId command.requestId = _ at found
    rw [found]

theorem dispatch_of_conflict
    (found : db.commandRow command.workspaceId command.requestId = some existing)
    (different : existing.payloadHash ≠ digest command.payload) (maxQueueDepth : Int) :
    db.dispatch digest env command maxQueueDepth =
      (.error (.idempotencyConflict command.requestId), db) := by
  have sameRequest : existing.requestId = command.requestId :=
    congrArg Prod.snd (Table.find?_key found)
  have conflict : Db.assertSameCommand digest existing command =
      .error (.idempotencyConflict command.requestId) := by
    unfold Db.assertSameCommand require
    rw [if_neg different, sameRequest]
  cases command with
  | start command =>
    change Db.afterCreation _ (atomically _ db) = _
    rw [atomically_of_error]
    · rfl
    · unfold Db.startTransaction
      change db.commandRow command.workspaceId command.requestId = _ at found
      rw [found]
      simp only [conflict]
      rfl
  | redrive command =>
    change Db.afterCreation _ (atomically _ db) = _
    rw [atomically_of_error]
    · rfl
    · unfold Db.redriveTransaction
      change db.commandRow command.workspaceId command.requestId = _ at found
      rw [found]
      simp only [conflict]
      rfl
  | signal command =>
    apply atomically_of_error
    unfold Db.dispatchSignal Db.replayTarget
    change db.commandRow command.workspaceId command.requestId = _ at found
    rw [found]
    simp only [conflict]
    rfl
  | cancel command =>
    apply atomically_of_error
    unfold Db.dispatchCancel Db.replayTarget
    change db.commandRow command.workspaceId command.requestId = _ at found
    rw [found]
    simp only [conflict]
    rfl

/-- The command is recorded, and its row stands for this answer. -/
inductive Settled (digest : Digest) (command : ExecutionCommand) (db : Db) :
    Except StoreError ExecutionSnapshot → Prop
  | created {existing : CommandRow} {snapshot : ExecutionSnapshot}
      (replays : Replays digest command db existing)
      (created : existing.result.created = some snapshot.executionId)
      (found : db.executions.find? snapshot.executionId = some snapshot) :
      Settled digest command db (.ok snapshot)
  | overflowed {existing : CommandRow} (replays : Replays digest command db existing)
      (created : existing.result.created = none) (creates : command.Creates) :
      Settled digest command db (.error (.queueOverflow command.requestId))

/-- A dispatch is accepted when it answers with an execution or a queue
overflow. -/
def AcceptedDispatch (answer : Except StoreError ExecutionSnapshot) : Prop :=
  (∃ snapshot, answer = .ok snapshot) ∨ ∃ requestId, answer = .error (.queueOverflow requestId)

theorem settled_of_replay (replays : Replays digest command db existing)
    (accepted : AcceptedDispatch (existing.replay command db)) :
    Settled digest command db (existing.replay command db) := by
  cases created : existing.result.created with
  | none =>
    rw [replay_none created] at accepted ⊢
    rcases accepted with ⟨_, impossible⟩ | ⟨requestId, overflow⟩
    · cases impossible
    · cases command with
      | start command => exact @Settled.overflowed _ (.start command) _ _ replays created trivial
      | redrive command =>
        exact @Settled.overflowed _ (.redrive command) _ _ replays created trivial
      | signal command | cancel command => cases overflow
  | some executionId =>
    rw [replay_some created] at accepted ⊢
    rcases accepted with ⟨snapshot, read⟩ | ⟨requestId, overflow⟩
    · have found := executionRow_ok.1 read
      rw [read]
      have sameId := found_executionId found
      rw [← sameId] at created found
      exact .created replays created found
    · exact absurd overflow (Silent.get requestId)

variable {answer : Except StoreError ExecutionSnapshot}

theorem settled_of_dispatch (outcome : DispatchOutcome digest command db answer db')
    (accepted : AcceptedDispatch answer) : Settled digest command db' answer := by
  cases outcome with
  | replayed replays => exact settled_of_replay replays accepted
  | recorded records targeted found =>
    rcases records.recorded with ⟨existing, replays, result⟩
    have sameId := found_executionId found
    rw [← sameId] at targeted found
    exact .created replays (result ▸ targeted) found
  | overflowed creates records only =>
    rcases records.recorded with ⟨existing, replays, result⟩
    exact .overflowed replays (result ▸ rfl) creates
  | failed other =>
    rcases accepted with ⟨_, impossible⟩ | ⟨requestId, overflow⟩
    · cases impossible
    · cases overflow
      exact absurd rfl (other requestId)

def SameKind : Except StoreError ExecutionSnapshot → Except StoreError ExecutionSnapshot → Prop
  | .ok first, .ok second => second.executionId = first.executionId
  | .error first, .error second => second = first
  | _, _ => False

theorem Settled.replayed {answer : Except StoreError ExecutionSnapshot} {last : Db}
    {trace : List (Move Db Performed)} (settled : Settled digest command db answer)
    (run : Run (Step digest) db trace last) (maxQueueDepth : Int) :
    ∃ again, last.dispatch digest env command maxQueueDepth = (again, last) ∧
      SameKind answer again := by
  cases settled with
  | @created existing snapshot replays created found =>
    have still : Replays digest command last existing :=
      ⟨commands_persist run replays.found, replays.samePayload⟩
    obtain ⟨row, lastFound, continues⟩ := (run_follows run snapshot.executionId).rows snapshot found
    refine ⟨.ok row, ?_, continues.executionId⟩
    rw [dispatch_of_replays still, replay_some created]
    exact congrArg (·, last) (executionRow_ok.2 lastFound)
  | @overflowed existing replays created creates =>
    have still : Replays digest command last existing :=
      ⟨commands_persist run replays.found, replays.samePayload⟩
    refine ⟨_, dispatch_of_replays still maxQueueDepth, ?_⟩
    rw [replay_none created, overflowAnswer_of_creates creates]
    exact rfl

theorem Settled.conflicts {last : Db} {trace : List (Move Db Performed)}
    (settled : Settled digest command db answer) (run : Run (Step digest) db trace last)
    {other : ExecutionCommand} (sameWorkspace : other.workspaceId = command.workspaceId)
    (sameRequest : other.requestId = command.requestId)
    (different : digest other.payload ≠ digest command.payload) (maxQueueDepth : Int) :
    last.dispatch digest env other maxQueueDepth =
      (.error (.idempotencyConflict command.requestId), last) := by
  have recorded : ∃ existing, Replays digest command db existing := by
    cases settled with
    | created replays created found | overflowed replays created creates => exact ⟨_, replays⟩
  rcases recorded with ⟨existing, replays⟩
  have found : last.commandRow other.workspaceId other.requestId = some existing := by
    rw [sameWorkspace, sameRequest]
    exact commands_persist run replays.found
  rw [← sameRequest]
  apply dispatch_of_conflict found
  rw [replays.samePayload]
  exact fun same => different same.symm

theorem typeName_of_payload {left right : ExecutionCommand}
    (same : left.payload = right.payload) : left.typeName = right.typeName := by
  have typed : ∀ command : ExecutionCommand,
      dictGet command.payload "command_type" = some (.str command.typeName) := by
    intro command
    cases command <;> rfl
  have sameField := (typed left).symm.trans ((congrArg (dictGet · "command_type") same).trans
    (typed right))
  exact Json.str.inj (Option.some.inj sameField)

/-- Command idempotency. -/
theorem command_idempotency (digest : Digest) :
    (∀ early first later last command maxQueueDepth answer,
      StoreRun digest (early ++ first :: later) last →
      first.label.call.operation = .dispatch command maxQueueDepth →
      first.label.outcome = answer.map Response.snapshot → AcceptedDispatch answer →
      (∀ env depth, ∃ again,
        perform digest ⟨env, .dispatch command depth⟩ last = (again.map Response.snapshot, last) ∧
        SameKind answer again) ∧
      ∀ other env depth, other.workspaceId = command.workspaceId →
        other.requestId = command.requestId →
        other.payload ≠ command.payload ∨ other.typeName ≠ command.typeName →
        (digest other.payload = digest command.payload → other.payload = command.payload) →
        perform digest ⟨env, .dispatch other depth⟩ last =
          (.error (.idempotencyConflict command.requestId), last)) ∧
    (∀ env command maxQueueDepth db db' error,
      perform digest ⟨env, .dispatch command maxQueueDepth⟩ db = (.error error, db') →
      db' = db ∨ (error = .queueOverflow command.requestId ∧
        db.commandRow command.workspaceId command.requestId = none)) := by
  constructor
  · intro early first later last command maxQueueDepth answer run isDispatch answered accepted
    rcases run.around with ⟨_, step, rest⟩
    rcases first with ⟨before, ⟨⟨env, operation⟩, outcome⟩, after⟩
    cases isDispatch
    have outcomeOf := @dispatch_outcome digest env before command maxQueueDepth
    have lastDb : (before.dispatch digest env command maxQueueDepth).2 = after :=
      congrArg Prod.snd step
    have wrapped : (before.dispatch digest env command maxQueueDepth).1.map Response.snapshot =
        answer.map Response.snapshot := (congrArg Prod.fst step).trans answered
    have sameAnswer : (before.dispatch digest env command maxQueueDepth).1 = answer := by
      cases result : (before.dispatch digest env command maxQueueDepth).1 with
      | ok snapshot =>
        rw [result] at wrapped
        cases answer with
        | ok other =>
          cases wrapped
          rfl
        | error error => cases wrapped
      | error error =>
        rw [result] at wrapped
        cases answer with
        | ok other => cases wrapped
        | error other =>
          cases wrapped
          rfl
    rw [lastDb, sameAnswer] at outcomeOf
    have settled := settled_of_dispatch outcomeOf accepted
    constructor
    · intro env depth
      obtain ⟨again, same, kind⟩ := settled.replayed rest depth
      refine ⟨again, ?_, kind⟩
      change AnnaAgent.Execution.answer .snapshot (last.dispatch digest env command depth) = _
      rw [same]
      rfl
    · intro other env depth sameWorkspace sameRequest different collisionFree
      have distinct : digest other.payload ≠ digest command.payload := by
        intro sameDigest
        have samePayload := collisionFree sameDigest
        rcases different with payload | type
        · exact payload samePayload
        · exact type (typeName_of_payload samePayload)
      change AnnaAgent.Execution.answer .snapshot (last.dispatch digest env other depth) = _
      rw [settled.conflicts rest sameWorkspace sameRequest distinct]
      rfl
  · intro env command maxQueueDepth db db' error raised
    rcases perform_error raised with same | ⟨_, _, isDispatch, overflow, records, _⟩
    · exact Or.inl same
    · cases isDispatch
      exact Or.inr ⟨overflow, records.fresh⟩

end AnnaAgent.Execution
