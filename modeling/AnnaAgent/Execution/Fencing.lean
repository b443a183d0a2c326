/-
Lease fencing.

A fenced operation acts under the owner and token it names.  When these are not
the current lease, or the lease has run out, the operation changes no table; and
as tokens never decrease, nothing written under an old token follows the claim
of a newer one.
-/

import AnnaAgent.Execution.Leases

namespace AnnaAgent.Execution

open Foundation

def Operation.fence : Operation → Option (ExecutionId × String × Nat)
  | .heartbeat executionId ownerId leaseToken _ => some (executionId, ownerId, leaseToken)
  | .commitLoopResult executionId ownerId leaseToken _ _ =>
    some (executionId, ownerId, leaseToken)
  | .failExecution executionId ownerId leaseToken _ _ => some (executionId, ownerId, leaseToken)
  | .scheduleRetryClaimed executionId ownerId leaseToken _ _ _ _ _ =>
    some (executionId, ownerId, leaseToken)
  | .deadLetterClaimed executionId ownerId leaseToken _ _ _ _ =>
    some (executionId, ownerId, leaseToken)
  | .requeueClaimed executionId ownerId leaseToken _ => some (executionId, ownerId, leaseToken)
  | .dispatch _ _ | .claimNext _ _ | .reconcileStartup | .recordToolEffect _ _ _ _ _ _
  | .claimOutboxEvents _ _ _ _ | .ackOutboxEvents _ _ _ => none

/-- The operation did not raise, and a heartbeat did not report a lost lease. -/
def Outcome.accepted (outcome : Outcome) : Prop :=
  ∃ response, outcome = .ok response ∧ response ≠ .renewed false

def Db.LeaseValid (db : Db) (executionId : ExecutionId) (ownerId : String) (leaseToken : Nat)
    (now : Time) : Prop :=
  ∃ row, db.executions.find? executionId = some row ∧ row.leaseOwner = some ownerId ∧
    row.leaseToken = leaseToken ∧ ∃ expires ∈ row.leaseExpiresAt, now < expires

def Db.runningAttempts (db : Db) (executionId : ExecutionId) : List AttemptRow :=
  db.attempts.select (fun row => row.executionId = executionId ∧ row.status = .running)

variable {executionId : ExecutionId} {ownerId : String} {leaseToken : Nat}

theorem Db.Holds.leaseValid {db : Db} {now : Time}
    (holds : db.Holds executionId ownerId leaseToken now) :
    db.LeaseValid executionId ownerId leaseToken now := by
  rcases holds with ⟨row, found, fenced⟩
  exact ⟨row, found, fenced.2⟩

variable {lease : ExecutionLease}

section Call

variable {digest : Digest} {call : Call} {db db' : Db} {outcome : Outcome}

theorem not_accepted {error : StoreError} (raised : outcome = .error error) :
    ¬ outcome.accepted := by
  rintro ⟨response, returned, _⟩
  rw [raised] at returned
  cases returned

theorem committed_or_failed {α : Type} {wrap : α → Response}
    {body : Db → Except StoreError (α × Db)} {holds : Prop}
    (done : answer wrap (atomically body db) = (outcome, db'))
    (onSuccess : ∀ value, body db = .ok (value, db') → holds) :
    holds ∨ (db' = db ∧ ¬ outcome.accepted) := by
  rcases answer_atomically done with ⟨value, committed, _⟩ | ⟨⟨_, _, raised⟩, same⟩
  · exact Or.inl (onSuccess value committed)
  · exact Or.inr ⟨same, not_accepted raised⟩

theorem fenced_call (done : perform digest call db = (outcome, db'))
    (fenced : call.operation.fence = some (executionId, ownerId, leaseToken)) :
    db.Holds executionId ownerId leaseToken call.env.now ∨ (db' = db ∧ ¬ outcome.accepted) := by
  rcases call with ⟨env, operation⟩
  unfold perform at done
  cases operation with
  | heartbeat target owner token ttl =>
    cases fenced
    rcases answer_atomically done with ⟨held, committed, returned⟩ | ⟨⟨error, _, raised⟩, same⟩
    · rcases heartbeat_advanced committed with ⟨_, holds, _⟩ | ⟨lost, _, same⟩
      · exact Or.inl holds
      · refine Or.inr ⟨same, ?_⟩
        rintro ⟨response, returnedOk, notLost⟩
        rw [returned, lost] at returnedOk
        cases returnedOk
        exact notLost rfl
    · exact Or.inr ⟨same, not_accepted raised⟩
  | commitLoopResult target owner token result signalIds =>
    cases fenced
    exact committed_or_failed done fun _ committed => (commitLoopResult_advanced committed).1
  | failExecution target owner token errorCode message =>
    cases fenced
    exact committed_or_failed done fun _ committed => (failExecution_advanced committed).1
  | scheduleRetryClaimed target owner token reason errorCode message notBefore maxAttempts =>
    cases fenced
    exact committed_or_failed done fun _ committed => (scheduleRetryClaimed_advanced committed).1
  | deadLetterClaimed target owner token reason errorCode message maxAttempts =>
    cases fenced
    exact committed_or_failed done fun _ committed => (deadLetterClaimed_advanced committed).1
  | requeueClaimed target owner token reason =>
    cases fenced
    exact committed_or_failed done fun _ committed => (requeueClaimed_advanced committed).1
  | dispatch | claimNext | reconcileStartup | recordToolEffect | claimOutboxEvents
  | ackOutboxEvents => cases fenced

theorem loop_row_none {now : Time} {middle : Db} (blocked : Traced (LoopAllows db now) db middle)
    (missing : db.executions.find? executionId = none) :
    middle.executions.find? executionId = none := by
  obtain ⟨trace, run, allowed⟩ := blocked.moves executionId
  refine run.keeps (fun aggregate => aggregate.row = none) ?_ missing
  intro move member step missing
  obtain ⟨isBlock, _⟩ := allowed move member
  rw [isBlock] at step
  rcases step.released_inv with ⟨row, _, _, present, _⟩
  rw [missing] at present
  cases present

theorem claimNext_of_lease {lease : Option ExecutionLease}
    (done : perform digest call db = (.ok (.lease lease), db')) :
    ∃ ownerId seconds, call.operation = .claimNext ownerId seconds ∧
      Db.claimNext call.env ownerId seconds db = .ok (lease, db') := by
  rcases call with ⟨env, operation⟩
  unfold perform at done
  cases operation with
  | claimNext ownerId seconds =>
    rcases answer_atomically done with ⟨_, committed, returned⟩ | ⟨⟨error, _, raised⟩, _⟩
    · cases returned
      exact ⟨ownerId, seconds, rfl, committed⟩
    · cases raised
  | dispatch command maxQueueDepth =>
    have wrapped := congrArg Prod.fst done
    change Except.map Response.snapshot _ = _ at wrapped
    cases result : (Db.dispatch digest env command maxQueueDepth db).1 with
    | ok snapshot | error error =>
      rw [result] at wrapped
      cases wrapped
  | heartbeat | commitLoopResult | failExecution | scheduleRetryClaimed | deadLetterClaimed
  | requeueClaimed | reconcileStartup | recordToolEffect | claimOutboxEvents
  | ackOutboxEvents =>
    rcases answer_atomically done with ⟨_, _, returned⟩ | ⟨⟨_, _, raised⟩, _⟩
    · cases returned
    · cases raised

theorem claim_inv (done : perform digest call db = (.ok (.lease (some lease)), db')) :
    ∃ middle label row, Traced (LoopAllows db call.env.now) db middle ∧ label.Claims ∧
      Advanced lease.executionId label middle db' ∧
      middle.executions.find? lease.executionId = some row ∧
      lease.leaseToken = row.leaseToken + 1 := by
  obtain ⟨ownerId, seconds, _, committed⟩ := claimNext_of_lease done
  cases claimNext_outcome committed with
  | claimed blocked next claims advanced =>
    exact ⟨_, _, _, blocked, claims, advanced, Table.find?_of_mem (nextClaimable_some next).1, rfl⟩

theorem claim_raises_token (done : perform digest call db = (.ok (.lease (some lease)), db')) :
    ∃ row row', db.executions.find? lease.executionId = some row ∧
      db'.executions.find? lease.executionId = some row' ∧
      row.leaseToken < lease.leaseToken ∧ row'.leaseToken = lease.leaseToken := by
  obtain ⟨middle, label, row, blocked, claims, advanced, found, isNext⟩ := claim_inv done
  obtain ⟨claimedRow, row', present, found', token', _, _⟩ := advanced.here.claims_inv claims
  cases found.symm.trans present
  cases before : db.executions.find? lease.executionId with
  | none =>
    rw [loop_row_none blocked before] at found
    cases found
  | some earlier =>
    obtain ⟨trace, run, _⟩ := blocked.moves lease.executionId
    have follows := run.relates (fun earlier later => later.Follows earlier) .refl
      (fun early late => late.trans early) (fun _ _ _ step => step.follows)
    obtain ⟨same, sameFound, continues⟩ := follows.rows earlier before
    cases found.symm.trans sameFound
    refine ⟨earlier, row', rfl, found', ?_, token'.trans isNext.symm⟩
    rw [isNext]
    exact Nat.lt_succ_of_le continues.leaseToken

end Call

section Reachable

variable {digest : Digest} {db : Db}
variable {row : ExecutionRow}

theorem reachable_invariant (reached : ReachableDb digest db) (member : row ∈ db.executions.rows) :
    LeaseInvariant row (db.attemptsOf row.executionId) :=
  (reachable_leased reached row.executionId).present row (Table.find?_of_mem member)

theorem mem_runningAttempts {attempt : AttemptRow} :
    attempt ∈ db.runningAttempts executionId ↔
      attempt ∈ db.attemptsOf executionId ∧ attempt.status = .running := by
  unfold Db.runningAttempts Db.attemptsOf
  rw [Table.mem_select, Table.mem_select, and_assoc]

theorem running_attempt (reached : ReachableDb digest db) (member : row ∈ db.executions.rows)
    (running : row.status = .running) :
    ∃ attempt, db.runningAttempts row.executionId = [attempt] := by
  have invariant := reachable_invariant reached member
  have begun := invariant.begun running
  have numbered : row.attempt ∈ (db.attemptsOf row.executionId).map AttemptRow.attempt := by
    rw [invariant.numbered, List.mem_range'_1]
    omega
  obtain ⟨attempt, attemptMember, atCurrent⟩ := List.mem_map.1 numbered
  obtain ⟨inTable, owned⟩ := (Table.mem_select _).1 attemptMember
  refine ⟨attempt, Table.select_eq_singleton _ _ ?_⟩
  intro other
  constructor
  · rintro ⟨otherMember, otherOwned, otherRunning⟩
    have otherAttempt : other ∈ db.attemptsOf row.executionId :=
      (Table.mem_select _).2 ⟨otherMember, otherOwned⟩
    have otherCurrent := ((invariant.current other otherAttempt).1 otherRunning).2
    apply List.inj_on_of_nodup_map db.attempts.keysNodup otherMember inTable
    rw [otherOwned, owned, otherCurrent, atCurrent]
  · intro same
    rw [same]
    exact ⟨inTable, owned, (invariant.current attempt attemptMember).2 ⟨running, atCurrent⟩⟩

theorem running_iff_one_attempt (reached : ReachableDb digest db)
    (member : row ∈ db.executions.rows) :
    row.status = .running ↔ ∃ attempt, db.runningAttempts row.executionId = [attempt] := by
  constructor
  · exact running_attempt reached member
  · rintro ⟨attempt, only⟩
    have isRunning : attempt ∈ db.runningAttempts row.executionId := by
      rw [only]
      exact List.mem_singleton_self attempt
    obtain ⟨attemptMember, attemptRunning⟩ := mem_runningAttempts.1 isRunning
    exact (((reachable_invariant reached member).current attempt attemptMember).1 attemptRunning).1

theorem running_iff_leased (reached : ReachableDb digest db) (member : row ∈ db.executions.rows) :
    row.status = .running ↔ row.leaseOwner.isSome = true ∧ row.leaseExpiresAt.isSome = true := by
  have invariant := reachable_invariant reached member
  constructor
  · exact invariant.held
  · rintro ⟨owner, _⟩
    by_contra released
    rw [(invariant.free released).1] at owner
    cases owner

theorem running_attempt_is_current (reached : ReachableDb digest db)
    (member : row ∈ db.executions.rows) {attempt : AttemptRow}
    (isRunning : attempt ∈ db.runningAttempts row.executionId) :
    attempt.attempt = row.attempt ∧ attempt.leaseToken = row.leaseToken ∧
      row.leaseOwner = some attempt.ownerId := by
  have invariant := reachable_invariant reached member
  obtain ⟨attemptMember, attemptRunning⟩ := mem_runningAttempts.1 isRunning
  obtain ⟨running, atCurrent⟩ := (invariant.current attempt attemptMember).1 attemptRunning
  exact ⟨atCurrent, (invariant.token_iff_number attemptMember).2 atCurrent,
    invariant.owners attempt attemptMember running atCurrent⟩

end Reachable

theorem accepted_after_claim {digest : Digest} {trace early middle late : List (Move Db Performed)}
    {last : Db} {claim write : Move Db Performed} (run : StoreRun digest trace last)
    (order : trace = early ++ claim :: (middle ++ write :: late))
    (claimed : claim.label.outcome = .ok (.lease (some lease)))
    (fenced : write.label.call.operation.fence = some (lease.executionId, ownerId, leaseToken))
    (accepted : write.label.outcome.accepted) : lease.leaseToken ≤ leaseToken := by
  rw [order] at run
  rcases run.around with ⟨_, claimStep, rest⟩
  rcases rest.around with ⟨between, writeStep, _⟩
  unfold Step at claimStep
  rw [claimed] at claimStep
  obtain ⟨_, row, _, found, _, token⟩ := claim_raises_token claimStep
  obtain ⟨row', found', continues⟩ := (run_follows between lease.executionId).rows row found
  rcases fenced_call writeStep fenced with ⟨held, heldFound, heldFence⟩ | ⟨_, refused⟩
  · cases found'.symm.trans heldFound
    rw [← token, ← heldFence.current]
    exact continues.leaseToken
  · exact absurd accepted refused

/-- Lease fencing. -/
theorem lease_fencing (digest : Digest) :
    (∀ db, ReachableDb digest db → ∀ row ∈ db.executions.rows,
      (row.status = .running ↔ row.leaseOwner.isSome = true ∧ row.leaseExpiresAt.isSome = true) ∧
      row.leaseToken = row.attempt ∧
      (row.status = .running ↔ ∃ attempt, db.runningAttempts row.executionId = [attempt]) ∧
      ∀ attempt ∈ db.runningAttempts row.executionId,
        attempt.attempt = row.attempt ∧ attempt.leaseToken = row.leaseToken ∧
          row.leaseOwner = some attempt.ownerId) ∧
    (∀ call db db' lease, perform digest call db = (.ok (.lease (some lease)), db') →
      ∃ row row', db.executions.find? lease.executionId = some row ∧
        db'.executions.find? lease.executionId = some row' ∧
        row.leaseToken < lease.leaseToken ∧ row'.leaseToken = lease.leaseToken) ∧
    (∀ call db db' outcome executionId ownerId leaseToken,
      perform digest call db = (outcome, db') →
      call.operation.fence = some (executionId, ownerId, leaseToken) →
      ¬ db.LeaseValid executionId ownerId leaseToken call.env.now → db' = db) ∧
    (∀ early claim middle write late last lease ownerId leaseToken,
      StoreRun digest (early ++ claim :: (middle ++ write :: late)) last →
      claim.label.outcome = .ok (.lease (some lease)) →
      write.label.call.operation.fence = some (lease.executionId, ownerId, leaseToken) →
      write.label.outcome.accepted → lease.leaseToken ≤ leaseToken) := by
  refine ⟨?_, ?_, ?_, ?_⟩
  · intro db reached row member
    exact ⟨running_iff_leased reached member, (reachable_invariant reached member).token,
      running_iff_one_attempt reached member,
      fun attempt isRunning => running_attempt_is_current reached member isRunning⟩
  · intro call db db' lease claimed
    exact claim_raises_token claimed
  · intro call db db' outcome executionId ownerId leaseToken done fenced stale
    rcases fenced_call done fenced with holds | ⟨same, _⟩
    · exact absurd holds.leaseValid stale
    · exact same
  · intro early claim middle write late last lease ownerId leaseToken run claimed fenced accepted
    exact accepted_after_claim run rfl claimed fenced accepted

end AnnaAgent.Execution
