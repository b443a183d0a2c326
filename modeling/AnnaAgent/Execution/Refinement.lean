/-
Every operation moves every execution along its transitions.

`Call.Allows` says which transitions a call may take, with what the call found
in the database when it took them.  `perform_traced` collects the operations;
it is all that the invariants of the next modules know about them.
-/

import AnnaAgent.Execution.DispatchSteps

namespace AnnaAgent.Execution

open Foundation

/-- The transitions a call may take from a database. -/
def Call.Allows (call : Call) (db : Db) (executionId : ExecutionId) (label : Label) : Prop :=
  let env := call.env
  match call.operation with
  | .dispatch (.start _) _ => label = .started ∧ executionId = "exec_" ++ env.uuid
  | .dispatch (.redrive _) _ => label = .started ∧ executionId = "exec_" ++ env.uuid
  | .dispatch (.signal command) _ =>
    label = .signaled ("sig_" ++ env.uuid) ∧ executionId = command.executionId
  | .dispatch (.cancel command) _ => label = .cancelled ∧ executionId = command.executionId
  | .claimNext _ leaseTtlSeconds => (∃ ttl, validateLeaseTtl leaseTtlSeconds = .ok ttl) ∧
      (LoopAllows db env.now executionId label ∨ label.Claims)
  | .heartbeat target ownerId leaseToken _ =>
    executionId = target ∧ db.Holds target ownerId leaseToken env.now ∧ label = .renewed
  | .commitLoopResult target ownerId leaseToken result signalIds =>
    executionId = target ∧ db.Holds target ownerId leaseToken env.now ∧
      (label = .merged result (signalIds.getD result.appliedSignalIds) ∨
        label = .released (.deferred result (signalIds.getD result.appliedSignalIds)))
  | .failExecution target ownerId leaseToken errorCode message =>
    executionId = target ∧ db.Holds target ownerId leaseToken env.now ∧
      (label = .merged (failureResult errorCode message) [] ∨
        label = .released (.deferred (failureResult errorCode message) []))
  | .scheduleRetryClaimed target ownerId leaseToken _ _ _ notBefore maxAttempts =>
    executionId = target ∧ db.Holds target ownerId leaseToken env.now ∧
      RetryStep env db target notBefore maxAttempts label
  | .deadLetterClaimed target ownerId leaseToken _ _ _ _ =>
    executionId = target ∧ db.Holds target ownerId leaseToken env.now ∧
      env.fault "before_dead_letter_commit" = false ∧ label = .released .deadLettered
  | .requeueClaimed target ownerId leaseToken _ =>
    executionId = target ∧ db.Holds target ownerId leaseToken env.now ∧
      label = .released .requeuedClaimed
  | .reconcileStartup => HealAllows db env.now executionId label
  | .recordToolEffect target _ _ _ _ _ => executionId = target ∧ label = .effectRecorded
  | .claimOutboxEvents _ _ _ _ => label = .outboxClaimed
  | .ackOutboxEvents _ _ _ => label = .outboxDelivered

def Label.Source (label : Label) (operation : Operation) (executionId : ExecutionId) : Prop :=
  match label with
  | .started => ∃ command maxQueueDepth, operation = .dispatch command maxQueueDepth ∧
      command.Creates
  | .signaled _ => ∃ command maxQueueDepth,
      operation = .dispatch (.signal command) maxQueueDepth ∧ command.executionId = executionId
  | .cancelled => ∃ command maxQueueDepth,
      operation = .dispatch (.cancel command) maxQueueDepth ∧ command.executionId = executionId
  | .claimed | .reclaimed => ∃ ownerId seconds, operation = .claimNext ownerId seconds
  | .renewed => ∃ ownerId leaseToken seconds,
      operation = .heartbeat executionId ownerId leaseToken seconds
  | .merged result signalIds | .released (.deferred result signalIds) =>
    ∃ ownerId leaseToken, (∃ listed,
      operation = .commitLoopResult executionId ownerId leaseToken result listed ∧
        signalIds = listed.getD result.appliedSignalIds) ∨
      ∃ errorCode message, operation = .failExecution executionId ownerId leaseToken errorCode
        message ∧ result = failureResult errorCode message ∧ signalIds = []
  | .released (.retried _) | .released .blockedClaimed =>
    ∃ ownerId leaseToken reason errorCode message notBefore maxAttempts,
      operation = .scheduleRetryClaimed executionId ownerId leaseToken reason errorCode message
        notBefore maxAttempts
  | .released .deadLettered => ∃ ownerId leaseToken reason errorCode message maxAttempts,
      operation = .deadLetterClaimed executionId ownerId leaseToken reason errorCode message
          maxAttempts ∨
        ∃ notBefore, operation = .scheduleRetryClaimed executionId ownerId leaseToken reason
          errorCode message notBefore maxAttempts
  | .released .requeuedClaimed => ∃ ownerId leaseToken reason,
      operation = .requeueClaimed executionId ownerId leaseToken reason
  | .released .blockedLapsed =>
    (∃ ownerId seconds, operation = .claimNext ownerId seconds) ∨ operation = .reconcileStartup
  | .released .requeuedLapsed => operation = .reconcileStartup
  | .effectRecorded => ∃ effectKey toolName requestHash status result,
      operation = .recordToolEffect executionId effectKey toolName requestHash status result
  | .outboxClaimed => ∃ ownerId limit seconds subjectRefPrefix,
      operation = .claimOutboxEvents ownerId limit seconds subjectRefPrefix
  | .outboxDelivered => ∃ events ownerId claimToken,
      operation = .ackOutboxEvents events ownerId claimToken

variable {executionId : ExecutionId} {call : Call}

theorem Call.Allows.source {db : Db} {label : Label} (allowed : call.Allows db executionId label) :
    label.Source call.operation executionId := by
  rcases call with ⟨env, operation⟩
  cases operation with
  | dispatch command maxQueueDepth =>
    cases command with
    | start command | redrive command =>
      rw [allowed.1]
      exact ⟨_, _, rfl, trivial⟩
    | signal command | cancel command =>
      rw [allowed.1]
      exact ⟨_, _, rfl, allowed.2.symm⟩
  | claimNext ownerId seconds =>
    rcases allowed.2 with ⟨isBlock, _⟩ | claims
    · rw [isBlock]
      exact Or.inl ⟨_, _, rfl⟩
    · cases label with
      | claimed | reclaimed => exact ⟨_, _, rfl⟩
      | started | signaled | cancelled | renewed | merged | released | effectRecorded
      | outboxClaimed | outboxDelivered => exact claims.elim
  | heartbeat target ownerId leaseToken seconds =>
    rcases allowed with ⟨same, _, isRenewal⟩
    rw [isRenewal, same]
    exact ⟨_, _, _, rfl⟩
  | commitLoopResult target ownerId leaseToken result listed =>
    rcases allowed with ⟨same, _, merged | deferred⟩
    · rw [merged, same]
      exact ⟨_, _, Or.inl ⟨_, rfl, rfl⟩⟩
    · rw [deferred, same]
      exact ⟨_, _, Or.inl ⟨_, rfl, rfl⟩⟩
  | failExecution target ownerId leaseToken errorCode message =>
    rcases allowed with ⟨same, _, merged | deferred⟩
    · rw [merged, same]
      exact ⟨_, _, Or.inr ⟨_, _, rfl, rfl, rfl⟩⟩
    · rw [deferred, same]
      exact ⟨_, _, Or.inr ⟨_, _, rfl, rfl, rfl⟩⟩
  | scheduleRetryClaimed target ownerId leaseToken reason errorCode message notBefore maxAttempts =>
    rcases allowed with ⟨same, _, step⟩
    rw [same]
    cases step with
    | blocked | retried => exact ⟨_, _, _, _, _, _, _, rfl⟩
    | exhausted => exact ⟨_, _, _, _, _, _, Or.inr ⟨_, rfl⟩⟩
  | deadLetterClaimed target ownerId leaseToken reason errorCode message maxAttempts =>
    rcases allowed with ⟨same, _, _, isDeadLetter⟩
    rw [isDeadLetter, same]
    exact ⟨_, _, _, _, _, _, Or.inl rfl⟩
  | requeueClaimed target ownerId leaseToken reason =>
    rcases allowed with ⟨same, _, isRequeue⟩
    rw [isRequeue, same]
    exact ⟨_, _, _, rfl⟩
  | reconcileStartup =>
    rcases allowed with isRequeue | ⟨isBlock, _⟩
    · rw [isRequeue]
      rfl
    · rw [isBlock]
      exact Or.inr rfl
  | recordToolEffect target effectKey toolName requestHash status result =>
    rcases allowed with ⟨same, isRecord⟩
    rw [isRecord, same]
    exact ⟨_, _, _, _, _, rfl⟩
  | claimOutboxEvents ownerId limit seconds subjectRefPrefix =>
    have isClaim : label = .outboxClaimed := allowed
    rw [isClaim]
    exact ⟨_, _, _, _, rfl⟩
  | ackOutboxEvents events ownerId claimToken =>
    have isDelivery : label = .outboxDelivered := allowed
    rw [isDelivery]
    exact ⟨_, _, _, rfl⟩

section Dispatch

variable {digest : Digest} {env : Env} {db db' : Db} {allows : ExecutionId → Label → Prop}
  {command : ExecutionCommand}

theorem Created.traced {created : Option ExecutionId}
    (outcome : Created digest env command db db' created)
    (allowed : allows ("exec_" ++ env.uuid) .started) : Traced allows db db' := by
  cases outcome with
  | replayed replays unchanged =>
    rw [unchanged]
    exact .refl db
  | overflowed records only => exact .of_same only.aggregate records.kept
  | created records advanced free found => exact advanced.traced allowed

theorem Targeted.traced {label : Label} {result : CommandResult} {snapshot : ExecutionSnapshot}
    (outcome : Targeted digest command executionId label result db db' snapshot)
    (allowed : allows executionId label) : Traced allows db db' := by
  cases outcome with
  | replayed replays targeted unchanged found =>
    rw [unchanged]
    exact .refl db
  | applied records advanced found => exact advanced.traced allowed

theorem afterCreation_db {requestId : RequestId}
    {committed : Except StoreError (Option ExecutionId) × Db} :
    (Db.afterCreation requestId committed).2 = committed.2 := by
  unfold Db.afterCreation
  split <;> rfl

theorem atomically_cases {α : Type} (body : Db → Except StoreError (α × Db)) (db : Db) :
    (∃ value, body db = .ok (value, (atomically body db).2)) ∨ (atomically body db).2 = db := by
  unfold atomically
  cases result : body db with
  | ok pair => exact Or.inl ⟨pair.1, rfl⟩
  | error error => exact Or.inr rfl

end Dispatch

theorem traced_of_committed {α : Type} {wrap : α → Response}
    {body : Db → Except StoreError (α × Db)} {allows : ExecutionId → Label → Prop}
    {db db' : Db} {outcome : Outcome} (done : answer wrap (atomically body db) = (outcome, db'))
    (traced : ∀ value, body db = .ok (value, db') → Traced allows db db') :
    Traced allows db db' := by
  rcases answer_atomically done with ⟨value, committed, _⟩ | ⟨_, same⟩
  · exact traced value committed
  · rw [same]
    exact .refl db

variable {digest : Digest}

theorem perform_traced {db db' : Db} {outcome : Outcome}
    (done : perform digest call db = (outcome, db')) : Traced (call.Allows db) db db' := by
  rcases call with ⟨env, operation⟩
  unfold perform at done
  cases operation with
  | dispatch command maxQueueDepth =>
    have last : (db.dispatch digest env command maxQueueDepth).2 = db' := congrArg Prod.snd done
    cases command with
    | start command =>
      rw [← last]
      change Traced _ db (Db.afterCreation _ _).2
      rw [afterCreation_db]
      rcases atomically_cases (Db.startTransaction digest env command maxQueueDepth) db with
        ⟨created, committed⟩ | same
      · exact (startTransaction_created committed).traced ⟨rfl, rfl⟩
      · rw [same]
        exact .refl db
    | redrive command =>
      rw [← last]
      change Traced _ db (Db.afterCreation _ _).2
      rw [afterCreation_db]
      rcases atomically_cases (Db.redriveTransaction digest env command maxQueueDepth) db with
        ⟨created, committed⟩ | same
      · exact (redriveTransaction_created committed).traced ⟨rfl, rfl⟩
      · rw [same]
        exact .refl db
    | signal command =>
      refine traced_of_committed done ?_
      intro _ committed
      exact (dispatchSignal_targeted committed).traced ⟨rfl, rfl⟩
    | cancel command =>
      refine traced_of_committed done ?_
      intro _ committed
      exact (dispatchCancel_targeted committed).traced ⟨rfl, rfl⟩
  | claimNext ownerId leaseTtlSeconds =>
    refine traced_of_committed done ?_
    intro _ committed
    obtain ⟨ttl, valid, _⟩ := bind_ok committed
    cases claimNext_outcome committed with
    | nothing blocked exhausted =>
      exact blocked.mono (fun _ _ allowed => ⟨⟨ttl, valid⟩, Or.inl allowed⟩)
    | claimed blocked next claims advanced =>
      exact (blocked.mono (fun _ _ allowed => ⟨⟨ttl, valid⟩, Or.inl allowed⟩)).trans
        (advanced.traced ⟨⟨ttl, valid⟩, Or.inr claims⟩)
  | heartbeat executionId ownerId leaseToken leaseTtlSeconds =>
    refine traced_of_committed done ?_
    intro _ committed
    rcases heartbeat_advanced committed with ⟨_, holds, advanced⟩ | ⟨_, _, same⟩
    · exact advanced.traced ⟨rfl, holds, rfl⟩
    · rw [same]
      exact .refl db
  | commitLoopResult executionId ownerId leaseToken result signalIds =>
    refine traced_of_committed done ?_
    intro _ committed
    obtain ⟨holds, merged | deferred⟩ := commitLoopResult_advanced committed
    · exact merged.traced ⟨rfl, holds, Or.inl rfl⟩
    · exact deferred.traced ⟨rfl, holds, Or.inr rfl⟩
  | failExecution executionId ownerId leaseToken errorCode message =>
    refine traced_of_committed done ?_
    intro _ committed
    obtain ⟨holds, merged | deferred⟩ := failExecution_advanced committed
    · exact merged.traced ⟨rfl, holds, Or.inl rfl⟩
    · exact deferred.traced ⟨rfl, holds, Or.inr rfl⟩
  | scheduleRetryClaimed executionId ownerId leaseToken reason errorCode message notBefore
      maxAttempts =>
      refine traced_of_committed done ?_
      intro _ committed
      obtain ⟨holds, label, step, advanced⟩ := scheduleRetryClaimed_advanced committed
      exact advanced.traced ⟨rfl, holds, step⟩
  | deadLetterClaimed executionId ownerId leaseToken reason errorCode message maxAttempts =>
    refine traced_of_committed done ?_
    intro _ committed
    obtain ⟨holds, noFault, advanced⟩ := deadLetterClaimed_advanced committed
    exact advanced.traced ⟨rfl, holds, noFault, rfl⟩
  | requeueClaimed executionId ownerId leaseToken reason =>
    refine traced_of_committed done ?_
    intro _ committed
    obtain ⟨holds, advanced⟩ := requeueClaimed_advanced committed
    exact advanced.traced ⟨rfl, holds, rfl⟩
  | reconcileStartup =>
    refine traced_of_committed done ?_
    intro _ committed
    exact reconcileStartup_traced committed
  | recordToolEffect executionId effectKey toolName requestHash status result =>
    refine traced_of_committed done ?_
    intro _ committed
    exact (recordToolEffect_advanced committed).traced ⟨rfl, rfl⟩
  | claimOutboxEvents ownerId limit leaseTtlSeconds subjectRefPrefix =>
    refine traced_of_committed done ?_
    intro _ committed
    exact claimOutboxEvents_traced (fun _ => rfl) committed
  | ackOutboxEvents events ownerId claimToken =>
    refine traced_of_committed done ?_
    intro _ committed
    exact ackOutboxEvents_traced (fun _ => rfl) committed

theorem perform_error {db db' : Db} {error : StoreError}
    (raised : perform digest call db = (.error error, db')) :
    db' = db ∨ ∃ command maxQueueDepth, call.operation = .dispatch command maxQueueDepth ∧
      error = .queueOverflow command.requestId ∧
      Records digest command .queueOverflow db db' ∧ OnlyCommands db db' := by
  rcases call with ⟨env, operation⟩
  unfold perform at raised
  cases operation with
  | dispatch command maxQueueDepth =>
    have outcome := @dispatch_outcome digest env db command maxQueueDepth
    have last : (db.dispatch digest env command maxQueueDepth).2 = db' := congrArg Prod.snd raised
    have answered : (db.dispatch digest env command maxQueueDepth).1.map Response.snapshot =
      .error error := congrArg Prod.fst raised
    rw [last] at outcome
    generalize (db.dispatch digest env command maxQueueDepth).1 = result at outcome answered
    cases outcome with
    | replayed replays | failed other => exact Or.inl rfl
    | recorded records targeted found => cases answered
    | overflowed creates records only =>
      cases answered
      exact Or.inr ⟨command, maxQueueDepth, rfl, rfl, records, only⟩
  | claimNext | heartbeat | commitLoopResult | failExecution | scheduleRetryClaimed
  | deadLetterClaimed | requeueClaimed | reconcileStartup | recordToolEffect
  | claimOutboxEvents | ackOutboxEvents =>
    rcases answer_atomically raised with ⟨_, _, returned⟩ | ⟨_, same⟩
    · cases returned
    · exact Or.inl same

theorem aggregate_invariant (P : ExecutionId → Aggregate → Prop)
    (start : ∀ executionId, P executionId (Db.empty.aggregate executionId))
    (kept : ∀ executionId before label after, Transition executionId before label after → P executionId before → P executionId after)
    {db : Db} (reached : ReachableDb digest db) (executionId : ExecutionId) :
    P executionId (db.aggregate executionId) := by
  refine reached.invariant (fun db => ∀ executionId, P executionId (db.aggregate executionId))
    ?_ start executionId
  intro before performed after step held executionId
  obtain ⟨trace, run, _⟩ := (perform_traced step).moves executionId
  exact run.invariant (P executionId) (kept executionId) (held executionId)

variable {trace : List (Move Db Performed)}

theorem aggregate_relates {first last : Db} (run : Run (Step digest) first trace last)
    (executionId : ExecutionId) (R : Aggregate → Aggregate → Prop)
    (refl : ∀ aggregate, R aggregate aggregate)
    (trans : ∀ {left middle right}, R left middle → R middle right → R left right)
    (respects : ∀ before label after, Transition executionId before label after → R before after) :
    R (first.aggregate executionId) (last.aggregate executionId) := by
  refine run.relates (fun left right => R (left.aggregate executionId)
    (right.aggregate executionId)) (fun _ => refl _) trans ?_
  intro before performed after step
  obtain ⟨moves, inner, _⟩ := (perform_traced step).moves executionId
  exact inner.relates R refl trans respects

theorem commands_persist {first last : Db} (run : Run (Step digest) first trace last)
    {key : WorkspaceId × RequestId} {row : CommandRow} (found : first.commands.find? key = some row) :
    last.commands.find? key = some row :=
  run.relates (fun left right => left.commands.find? key = some row →
      right.commands.find? key = some row) (fun _ same => same)
    (fun early late same => late (early same))
    (fun _ _ _ step => (perform_traced step).commands key row) found

end AnnaAgent.Execution
