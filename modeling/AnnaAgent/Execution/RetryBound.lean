/-
How often a failing execution is claimed.

Every execution has a budget of claims: none once it is finished or waits for a
signal that has not come, and else what the retry limit leaves of its attempts,
but at least one.  While workers record each failure of an adapter under its
live lease, and no signal stays unapplied, a claim spends from the budget and
nothing fills it up.
-/

import AnnaAgent.Execution.Driver
import AnnaAgent.Execution.Signals

namespace AnnaAgent.Execution

open Foundation

/-- The claims an execution may still get; `base` is the lease token from before
the run, so a larger token is of an attempt of the run. -/
def Aggregate.budget (aggregate : Aggregate) (maxAttempts base : Nat) : Nat :=
  match aggregate.row with
  | none => 0
  | some row =>
    if row.status.terminal = true then 0
    else if row.status = .awaitingSignal ∧ aggregate.pending.isEmpty = true then 0
    else if row.status = .running ∧ base < row.leaseToken then maxAttempts - row.attempt
    else max 1 (maxAttempts - row.attempt)

def Label.Spends (label : Label) (maxAttempts base : Nat) (before : Aggregate) : Prop :=
  match label with
  | .renewed | .released .deadLettered => True
  | .merged result _ => result.status.terminal = true
  | .released (.retried limit) => limit = maxAttempts
  | .released (.deferred _ _) | .released .blockedClaimed => before.pending = []
  | .released .blockedLapsed =>
    before.pending = [] ∨ ∀ row, before.row = some row → row.leaseToken ≤ base
  | _ => False

section Budget

variable {executionId : ExecutionId} {before after : Aggregate} {label : Label}
  {maxAttempts base : Nat}
variable {aggregate : Aggregate}

theorem budget_of_terminal (row : ExecutionRow) (present : aggregate.row = some row)
    (ended : row.status.terminal = true) : aggregate.budget maxAttempts base = 0 := by
  unfold Aggregate.budget
  rw [present]
  exact if_pos ended

theorem budget_of_waiting (row : ExecutionRow) (present : aggregate.row = some row)
    (awaiting : row.status = .awaitingSignal) (none : aggregate.pending = []) :
    aggregate.budget maxAttempts base = 0 := by
  unfold Aggregate.budget
  rw [present]
  simp only [awaiting, none]
  rfl

theorem budget_of_running (row : ExecutionRow) (present : aggregate.row = some row)
    (running : row.status = .running) (newer : base < row.leaseToken) :
    aggregate.budget maxAttempts base = maxAttempts - row.attempt := by
  unfold Aggregate.budget
  rw [present]
  simp only [running, newer, and_true]
  rfl

theorem budget_le_left (row : ExecutionRow) (present : aggregate.row = some row) :
    aggregate.budget maxAttempts base ≤ max 1 (maxAttempts - row.attempt) := by
  unfold Aggregate.budget
  rw [present]
  simp only
  split
  · omega
  · split
    · omega
    · split
      · omega
      · exact le_rfl

theorem budget_of_claimable (row : ExecutionRow) (present : aggregate.row = some row)
    (claimable : row.status = .queued ∨ (row.status = .awaitingSignal ∧ aggregate.pending ≠ []) ∨
      (row.status = .running ∧ row.leaseToken ≤ base)) :
    aggregate.budget maxAttempts base = max 1 (maxAttempts - row.attempt) := by
  unfold Aggregate.budget
  rw [present]
  rcases claimable with queued | ⟨awaiting, pending⟩ | ⟨running, older⟩
  · simp only [queued]
    rfl
  · have some : aggregate.pending.isEmpty = false := List.isEmpty_eq_false_iff.2 pending
    simp only [awaiting, some]
    rfl
  · have notNewer : ¬ base < row.leaseToken := not_lt_of_ge older
    simp only [running, notNewer]
    rfl

theorem Label.Spends.not_signaled (spends : label.Spends maxAttempts base before)
    (signalId : SignalId) : label ≠ .signaled signalId := by
  intro isSignal
  rw [isSignal] at spends
  exact spends

theorem Transition.budget_le (step : Transition executionId before label after)
    (spends : label.Spends maxAttempts base before) :
    after.budget maxAttempts base ≤ before.budget maxAttempts base := by
  have noPending : before.pending = [] → after.pending = [] := step.pending_nil spends.not_signaled
  cases step with
  | started | signaled | cancelled | claimed | reclaimed | effectRecorded | outboxClaimed
  | outboxDelivered => exact spends.elim
  | @renewed row ownerId leaseExpiresAt now present held =>
    by_cases newer : base < row.leaseToken
    · rw [budget_of_running row present held.1 newer]
      exact (budget_of_running (row.renewed leaseExpiresAt now) rfl held.1 newer).le
    · rw [budget_of_claimable row present (Or.inr (Or.inr ⟨held.1, not_lt.1 newer⟩))]
      exact budget_le_left (row.renewed leaseExpiresAt now) rfl
  | @merged row ownerId now result signalIds emissions present held allowed settled plain
      emitted =>
      rw [budget_of_terminal (row.merged row ownerId result now) rfl spends]
      exact Nat.zero_le _
  | @released row kind now notBefore lastErrorCode emission present lease guarded named =>
    have running := lease.running
    cases kind with
    | deferred result signalIds =>
      rcases guarded with ⟨_, signal, pending, _⟩
      have none : before.pending = [] := spends
      rw [none] at pending
      cases pending
    | retried limit =>
      have isLimit : limit = maxAttempts := spends
      rcases guarded with ⟨_, below⟩
      rw [isLimit] at below
      refine (budget_le_left { row.released .queued now with
        notBefore := notBefore, lastErrorCode := lastErrorCode } rfl).trans ?_
      change max 1 (maxAttempts - row.attempt) ≤ _
      by_cases newer : base < row.leaseToken
      · rw [budget_of_running row present running newer]
        omega
      · rw [budget_of_claimable row present (Or.inr (Or.inr ⟨running, not_lt.1 newer⟩))]
    | deadLettered =>
      rw [budget_of_terminal { row.released .failed now with
        notBefore := notBefore, lastErrorCode := lastErrorCode } rfl rfl]
      exact Nat.zero_le _
    | blockedClaimed =>
      rw [budget_of_waiting { row.released .awaitingSignal now with
        notBefore := notBefore, lastErrorCode := lastErrorCode } rfl rfl (noPending spends)]
      exact Nat.zero_le _
    | blockedLapsed =>
      rcases spends with none | older
      · rw [budget_of_waiting { row.released .awaitingSignal now with
          notBefore := notBefore, lastErrorCode := lastErrorCode } rfl rfl (noPending none)]
        exact Nat.zero_le _
      · rw [budget_of_claimable row present (Or.inr (Or.inr ⟨running, older row present⟩))]
        exact budget_le_left { row.released .awaitingSignal now with
          notBefore := notBefore, lastErrorCode := lastErrorCode } rfl
    | requeuedClaimed | requeuedLapsed => exact spends.elim

theorem Transition.claim_budget (step : Transition executionId before label after)
    (claims : label.Claims) (newer : ∀ row, before.row = some row → base ≤ row.leaseToken)
    (older : ∀ row, before.row = some row → row.status = .running → row.leaseToken ≤ base) :
    after.budget maxAttempts base + 1 ≤ before.budget maxAttempts base := by
  have spent : ∀ {aggregate : Aggregate} {row row' : ExecutionRow}, before.row = some row →
      (row.status = .queued ∨ (row.status = .awaitingSignal ∧ before.pending ≠ []) ∨
        (row.status = .running ∧ row.leaseToken ≤ base)) →
      aggregate.row = some row' → row'.status = .running → row'.leaseToken = row.leaseToken + 1 →
      row'.attempt = row.attempt + 1 →
      aggregate.budget maxAttempts base + 1 ≤ before.budget maxAttempts base := by
    intro aggregate row row' present claimable present' running token number
    have atLeast := newer row present
    rw [budget_of_claimable row present claimable,
      budget_of_running row' present' running (by omega), number]
    omega
  cases step with
  | @claimed row ownerId leaseExpiresAt now emission present idle named =>
    exact spent present (idle.imp_right Or.inl) rfl rfl rfl rfl
  | @reclaimed row ownerId leaseExpiresAt now expiry emission present lapsed safe expiryNamed
      named =>
      exact spent present (Or.inr (Or.inr ⟨lapsed.1, older row present lapsed.1⟩)) rfl rfl rfl rfl
  | started | signaled | cancelled | renewed | merged | released | effectRecorded | outboxClaimed
  | outboxDelivered => exact claims.elim

end Budget

inductive FailingCall (maxAttempts : Nat) : Operation → Prop
  | claimNext (ownerId : String) (seconds : Seconds) :
      FailingCall maxAttempts (.claimNext ownerId seconds)
  | heartbeat (executionId : ExecutionId) (ownerId : String) (leaseToken : Nat)
      (seconds : Seconds) :
      FailingCall maxAttempts (.heartbeat executionId ownerId leaseToken seconds)
  | requeueClaimed (executionId : ExecutionId) (ownerId : String) (leaseToken : Nat)
      (reason : String) :
      FailingCall maxAttempts (.requeueClaimed executionId ownerId leaseToken reason)
  | failExecution (executionId : ExecutionId) (ownerId : String) (leaseToken : Nat)
      (errorCode message : String) :
      FailingCall maxAttempts (.failExecution executionId ownerId leaseToken errorCode message)
  | scheduleRetryClaimed (executionId : ExecutionId) (ownerId : String) (leaseToken : Nat)
      (reason errorCode message : String) (notBefore : Seconds) :
      FailingCall maxAttempts (.scheduleRetryClaimed executionId ownerId leaseToken reason
        errorCode message notBefore maxAttempts)
  | commitLoopResult (executionId : ExecutionId) (ownerId : String) (leaseToken : Nat)
      {result : LoopResult} (failed : result.status = .failed) :
      FailingCall maxAttempts (.commitLoopResult executionId ownerId leaseToken result (some []))

theorem FailingCall.not_started {call : Call} {maxAttempts : Nat} {db : Db}
    {executionId : ExecutionId} (failing : FailingCall maxAttempts call.operation) :
    ¬ call.Allows db executionId .started := by
  intro allowed
  rcases allowed.source with ⟨_, _, isDispatch, _⟩
  rw [isDispatch] at failing
  cases failing

variable {driver : ExecutionDriver} {lease : ExecutionLease} {ownerId : String} {host : Host}

theorem scheduleRetry_fails {now : Time} {reason errorCode message : String}
    {retryAfterSeconds : Option Seconds} {operation : Operation}
    (decided : driver.scheduleRetry host now ownerId lease reason errorCode message retryAfterSeconds = .ok operation) :
    FailingCall driver.retryPolicy.maxAttempts operation := by
  obtain ⟨delay, _, decided⟩ := bind_ok decided
  cases decided
  exact .scheduleRetryClaimed _ _ _ _ _ _ _

theorem record_fails {now : Time} {adapter : AdapterOutcome} {operation : Operation}
    {errorCode : String} {message : StoreError → String} (fails : adapter.Fails)
    (decided : driver.record host now ownerId lease adapter = .call operation errorCode message) :
    FailingCall driver.retryPolicy.maxAttempts operation := by
  cases adapter with
  | returned result =>
    unfold ExecutionDriver.record at decided
    simp only at decided
    split at decided
    · split at decided
      · rename_i scheduled
        cases decided
        exact scheduleRetry_fails scheduled
      · cases decided
    · cases decided
      rw [fails.2]
      exact .commitLoopResult _ _ _ fails.1
  | retryableLoopError text code retryAfterSeconds =>
    unfold ExecutionDriver.record at decided
    simp only at decided
    split at decided
    · rename_i scheduled
      cases decided
      exact scheduleRetry_fails scheduled
    · cases decided
  | raised | cancelled | aborted => cases decided

theorem RunOnce.call {digest : Digest} {db db' : Db} {phase phase' : Phase} {event : Event}
    (step : RunOnce digest driver host db phase event db' phase')
    (fails : ∀ adapter ∈ event.adapter, adapter.Fails) :
    (event.performed = none ∧ db' = db) ∨
      ∃ performed, event.performed = some performed ∧ Step digest db performed db' ∧
        FailingCall driver.retryPolicy.maxAttempts performed.call.operation := by
  cases step with
  | claim done => exact Or.inr ⟨_, rfl, done, .claimNext _ _⟩
  | heartbeat done => exact Or.inr ⟨_, rfl, done, .heartbeat _ _ _ _⟩
  | giveUp quiet done | shutdown quiet done | cancelled ended decided done =>
    exact Or.inr ⟨_, rfl, done, .requeueClaimed _ _ _ _⟩
  | tornDown raises | raised ended decided | abandoned ended decided => exact Or.inl ⟨rfl, rfl⟩
  | recorded ended decided done =>
    exact Or.inr ⟨_, rfl, done, record_fails (fails _ rfl) decided⟩
  | failed done => exact Or.inr ⟨_, rfl, done, .failExecution _ _ _ _ _⟩

/-! ### Keeping the budget -/

def Db.leaseToken (db : Db) (executionId : ExecutionId) : Nat :=
  ((db.executions.find? executionId).map ExecutionRow.leaseToken).getD 0

/-- The call makes the execution claimable again without a count against the
retry limit: it takes over a lapsed attempt that began after `start`, or hands
an attempt back, or gives it up while a signal is unapplied. -/
def Call.Reopens (call : Call) (start db : Db) (executionId : ExecutionId) : Prop :=
  match call.operation with
  | .claimNext _ seconds => (∃ ttl, validateLeaseTtl seconds = .ok ttl) ∧
      ∃ row, db.executions.find? executionId = some row ∧ row.Lapsed call.env.now ∧
        start.leaseToken executionId < row.leaseToken ∧
        (db.hasRecoveryBlockingEffect executionId = true → db.pendingSignals executionId ≠ [])
  | .requeueClaimed target ownerId leaseToken _ =>
    executionId = target ∧ db.Holds target ownerId leaseToken call.env.now
  | .commitLoopResult target ownerId leaseToken _ _ =>
    executionId = target ∧ db.Holds target ownerId leaseToken call.env.now ∧
      db.pendingSignals executionId ≠ []
  | .failExecution target ownerId leaseToken _ _ =>
    executionId = target ∧ db.Holds target ownerId leaseToken call.env.now ∧
      db.pendingSignals executionId ≠ []
  | .scheduleRetryClaimed target ownerId leaseToken _ _ _ _ _ =>
    executionId = target ∧ db.Holds target ownerId leaseToken call.env.now ∧
      db.hasRecoveryBlockingEffect executionId = true ∧ db.pendingSignals executionId ≠ []
  | _ => False

section Pays

variable {digest : Digest} {call : Call} {start db db' : Db} {outcome : Outcome}
  {executionId : ExecutionId} {label : Label} {maxAttempts : Nat}

theorem spends_of_allows (failing : FailingCall maxAttempts call.operation)
    (careful : ¬ call.Reopens start db executionId)
    (allowed : call.Allows db executionId label) {before : Aggregate} (base : Nat)
    (noPending : db.pendingSignals executionId = [] → before.pending = [])
    (notClaim : ∀ ownerId seconds, call.operation ≠ .claimNext ownerId seconds) :
    label.Spends maxAttempts base before := by
  rcases call with ⟨env, operation⟩
  cases failing with
  | claimNext ownerId seconds => exact absurd rfl (notClaim ownerId seconds)
  | heartbeat target ownerId leaseToken seconds =>
    rcases allowed with ⟨_, _, isRenewal⟩
    rw [isRenewal]
    exact trivial
  | requeueClaimed target ownerId leaseToken reason =>
    rcases allowed with ⟨same, holds, _⟩
    exact absurd ⟨same, holds⟩ careful
  | failExecution target ownerId leaseToken errorCode message =>
    rcases allowed with ⟨same, holds, isLabel⟩
    have none : db.pendingSignals executionId = [] := by
      by_contra pending
      exact careful ⟨same, holds, pending⟩
    rcases isLabel with merged | deferred
    · rw [merged]
      exact rfl
    · rw [deferred]
      exact noPending none
  | commitLoopResult target ownerId leaseToken failed =>
    rcases allowed with ⟨same, holds, isLabel⟩
    have none : db.pendingSignals executionId = [] := by
      by_contra pending
      exact careful ⟨same, holds, pending⟩
    rcases isLabel with merged | deferred
    · rw [merged]
      change ExecutionStatus.terminal _ = true
      rw [failed]
      rfl
    · rw [deferred]
      exact noPending none
  | scheduleRetryClaimed target ownerId leaseToken reason errorCode message notBefore =>
    rcases allowed with ⟨same, holds, step⟩
    cases step with
    | blocked positive finite uncertain =>
      apply noPending
      by_contra pending
      exact careful ⟨same, holds, same ▸ uncertain, pending⟩
    | exhausted => exact trivial
    | retried => exact rfl

def Db.TokenFrom (db : Db) (base : Nat) (executionId : ExecutionId) : Prop :=
  ∀ row, db.executions.find? executionId = some row → base ≤ row.leaseToken

theorem Traced.tokenFrom {allows : ExecutionId → Label → Prop} {base : Nat}
    (traced : Traced allows db db') (quiet : ¬ allows executionId .started)
    (newer : db.TokenFrom base executionId) : db'.TokenFrom base executionId := by
  obtain ⟨trace, run, allowed⟩ := traced.moves executionId
  refine run.keeps (fun aggregate => ∀ row, aggregate.row = some row → base ≤ row.leaseToken)
    ?_ newer
  intro move member step held row' present'
  cases present : move.before.row with
  | none =>
    have absent := step.absent (fun started => quiet (started ▸ allowed move member)) present
    rw [absent] at present'
    cases present'
  | some row =>
    obtain ⟨_, sameRow, continues⟩ := step.follows.rows row present
    cases sameRow.symm.trans present'
    exact (held row present).trans continues.leaseToken

theorem blocks_spend {ownerId : String} {seconds : Seconds} {env : Env} {middle : Db}
    (valid : ∃ ttl, validateLeaseTtl seconds = .ok ttl)
    (careful : ¬ Call.Reopens ⟨env, .claimNext ownerId seconds⟩ start db executionId)
    (blocked : Traced (LoopAllows db env.now) db middle) :
    (middle.aggregate executionId = db.aggregate executionId ∨
      ∃ row, (middle.aggregate executionId).row = some row ∧ row.status = .awaitingSignal) ∧
      (middle.aggregate executionId).budget maxAttempts (start.leaseToken executionId) ≤
        (db.aggregate executionId).budget maxAttempts (start.leaseToken executionId) := by
  obtain ⟨trace, run, allowed⟩ := blocked.moves executionId
  refine run.keeps (fun aggregate => (aggregate = db.aggregate executionId ∨
    ∃ row, aggregate.row = some row ∧ row.status = .awaitingSignal) ∧
      aggregate.budget maxAttempts (start.leaseToken executionId) ≤
        (db.aggregate executionId).budget maxAttempts (start.leaseToken executionId))
    ?_ ⟨Or.inl rfl, le_rfl⟩
  rintro ⟨before, label, after⟩ member step ⟨state, within⟩
  obtain ⟨isBlock, reached⟩ := allowed _ member
  change label = _ at isBlock
  subst isBlock
  rcases step.released_inv with ⟨row, row', now, present, lease, _, present', status, _⟩
  have running := lease.running
  refine ⟨Or.inr ⟨row', present', status⟩, le_trans ?_ within⟩
  apply step.budget_le
  rcases state with same | ⟨other, otherPresent, awaiting⟩
  · rcases reached with ⟨found, isFound, ⟨lapsed, uncertain⟩, _⟩
    by_cases pending : before.pending = []
    · exact Or.inl pending
    · right
      intro current isCurrent
      change before = _ at same
      rw [same] at isCurrent pending
      cases isFound.symm.trans isCurrent
      by_contra newer
      exact careful ⟨valid, found, isFound, lapsed, not_le.1 newer, fun _ => pending⟩
  · cases otherPresent.symm.trans present
    rw [running] at awaiting
    cases awaiting

theorem claim_pays {seconds : Seconds} {env : Env} {lease : Option ExecutionLease}
    (committed : Db.claimNext env ownerId seconds db = .ok (lease, db'))
    (careful : ¬ Call.Reopens ⟨env, .claimNext ownerId seconds⟩ start db executionId)
    (newer : db.TokenFrom (start.leaseToken executionId) executionId) :
    (db'.aggregate executionId).budget maxAttempts (start.leaseToken executionId) +
        (if lease.map ExecutionLease.executionId = some executionId then 1 else 0) ≤
      (db.aggregate executionId).budget maxAttempts (start.leaseToken executionId) := by
  obtain ⟨ttl, valid, _⟩ := bind_ok committed
  cases claimNext_outcome committed with
  | nothing blocked exhausted =>
    rw [if_neg (by nofun)]
    exact (blocks_spend ⟨ttl, valid⟩ careful blocked).2
  | @claimed middle row owner leaseExpiresAt label blocked next claims advanced =>
    obtain ⟨state, within⟩ := @blocks_spend start db executionId maxAttempts ownerId seconds env
      middle ⟨ttl, valid⟩ careful blocked
    obtain ⟨member, claimable, _⟩ := nextClaimable_some next
    by_cases isClaimed : row.executionId = executionId
    · have answers : (some (row.nextLease owner leaseExpiresAt)).map ExecutionLease.executionId =
          some executionId := congrArg some isClaimed
      rw [if_pos answers]
      refine le_trans ?_ within
      subst isClaimed
      have current := Table.find?_of_mem member
      have middleNewer := blocked.tokenFrom (fun started => by cases started.1) newer
      apply advanced.here.claim_budget claims middleNewer
      intro other present running
      cases current.symm.trans present
      rcases state with same | ⟨waiting, waitingPresent, awaiting⟩
      · have atFirst : db.executions.find? row.executionId = some row :=
          (congrArg Aggregate.row same).symm.trans current
        by_contra begun
        apply careful
        refine ⟨⟨ttl, valid⟩, row, atFirst, Claimable.lapsed claimable running, not_le.1 begun, ?_⟩
        intro uncertain
        obtain ⟨picked, _, isPicked, _, _, _, cases'⟩ := advanced.here.claims_inv claims
        cases current.symm.trans isPicked
        rcases cases' with queued | ⟨awaiting, _⟩ | ⟨_, safe⟩
        · rw [running] at queued
          cases queued
        · rw [running] at awaiting
          cases awaiting
        · rw [same] at safe
          exact absurd uncertain (Bool.eq_false_iff.1 safe)
      · cases waitingPresent.symm.trans present
        rw [running] at awaiting
        cases awaiting
    · have others : ¬ (some (row.nextLease owner leaseExpiresAt)).map
          ExecutionLease.executionId = some executionId :=
        fun same => isClaimed (Option.some.inj same)
      rw [if_neg others, advanced.elsewhere executionId (fun same => isClaimed same.symm)]
      exact within

theorem call_pays (done : perform digest call db = (outcome, db'))
    (failing : FailingCall maxAttempts call.operation)
    (careful : ¬ call.Reopens start db executionId)
    (newer : db.TokenFrom (start.leaseToken executionId) executionId) :
    (db'.aggregate executionId).budget maxAttempts (start.leaseToken executionId) +
        (if outcome.lease.map ExecutionLease.executionId = some executionId then 1 else 0) ≤
      (db.aggregate executionId).budget maxAttempts (start.leaseToken executionId) := by
  by_cases isClaim : ∃ ownerId seconds, call.operation = .claimNext ownerId seconds
  · rcases call with ⟨env, operation⟩
    rcases isClaim with ⟨ownerId, seconds, same⟩
    cases same
    rcases answer_atomically done with ⟨lease, committed, answered⟩ | ⟨⟨error, _, raised⟩, unchanged⟩
    · rw [answered]
      exact claim_pays committed careful newer
    · rw [raised, unchanged]
      exact le_rfl
  · have noLease : outcome.lease.map ExecutionLease.executionId ≠ some executionId := by
      intro claimed
      obtain ⟨lease, isLease, _⟩ := Option.map_eq_some_iff.1 claimed
      rw [Outcome.eq_of_lease isLease] at done
      obtain ⟨ownerId, seconds, isOperation, _⟩ := claimNext_of_lease done
      exact isClaim ⟨ownerId, seconds, isOperation⟩
    rw [if_neg noLease]
    obtain ⟨trace, run, allowed⟩ := (perform_traced done).moves executionId
    have kept := run.keeps (fun aggregate =>
      (db.pendingSignals executionId = [] → aggregate.pending = []) ∧
        aggregate.budget maxAttempts (start.leaseToken executionId) ≤
          (db.aggregate executionId).budget maxAttempts (start.leaseToken executionId))
      ?_ ⟨fun none => none, le_rfl⟩
    · exact kept.2
    · rintro move member step ⟨noPending, within⟩
      have spends := spends_of_allows failing careful (allowed move member)
        (start.leaseToken executionId) noPending
        (fun ownerId seconds same => isClaim ⟨ownerId, seconds, same⟩)
      refine ⟨?_, (step.budget_le spends).trans within⟩
      intro none
      exact step.pending_nil spends.not_signaled (noPending none)

end Pays

def Event.claimed (event : Event) : Option ExecutionId :=
  event.performed.bind (fun performed => performed.outcome.lease.map ExecutionLease.executionId)

def claimsOf (executionId : ExecutionId) (trace : List (Move World Event)) : Nat :=
  trace.countP (fun move => decide (move.label.claimed = some executionId))

theorem budget_le_maxAttempts {aggregate : Aggregate} {maxAttempts base : Nat}
    (positive : 0 < maxAttempts) : aggregate.budget maxAttempts base ≤ maxAttempts := by
  cases present : aggregate.row with
  | none =>
    unfold Aggregate.budget
    rw [present]
    exact Nat.zero_le _
  | some row =>
    have left : aggregate.budget maxAttempts base ≤ max 1 (maxAttempts - row.attempt) :=
      budget_le_left row present
    omega

/-- While no call makes an execution claimable again past the retry limit,
failing adapters claim it at most as often as the limit says. -/
theorem bounded_failure {digest : Digest} {driver : ExecutionDriver} {host : Host} {start : Db}
    {last : World} {trace : List (Move World Event)}
    (run : Run (WorldStep digest driver host) ⟨start, fun _ => .idle⟩ trace last)
    (failing : ∀ move ∈ trace, ∀ adapter ∈ move.label.adapter, adapter.Fails)
    (careful : ∀ move ∈ trace, ∀ performed ∈ move.label.performed, ∀ executionId,
      ¬ performed.call.Reopens start move.before.db executionId) (executionId : ExecutionId) :
    claimsOf executionId trace ≤ driver.retryPolicy.maxAttempts := by
  have spent := run.countP_le_budget
    (fun world => world.db.TokenFrom (start.leaseToken executionId) executionId)
    (fun move => decide (move.label.claimed = some executionId))
    (fun world => (world.db.aggregate executionId).budget driver.retryPolicy.maxAttempts
      (start.leaseToken executionId)) ?_ ?_ ?_
  · exact (Nat.le_add_right _ _).trans
      (spent.trans (budget_le_maxAttempts driver.retryPolicy.attemptsPositive))
  · rintro move member ⟨worker, step, _⟩ newer
    rcases step.call (failing move member) with ⟨_, same⟩ | ⟨performed, _, done, fails⟩
    · rw [same]
      exact newer
    · exact (perform_traced done).tokenFrom fails.not_started newer
  · rintro move member ⟨worker, step, _⟩ newer
    rcases step.call (failing move member) with ⟨none, same⟩ | ⟨performed, isCall, done, fails⟩
    · have notClaimed : move.label.claimed = .none := by
        unfold Event.claimed
        rw [none]
        rfl
      rw [same, notClaimed]
      exact le_rfl
    · have claimed : move.label.claimed =
          performed.outcome.lease.map ExecutionLease.executionId := by
        unfold Event.claimed
        rw [isCall]
        rfl
      have pays := call_pays done fails (careful move member performed isCall executionId) newer
      simp only [claimed, decide_eq_true_iff]
      exact pays
  · intro row found
    unfold Db.leaseToken
    rw [found]
    exact le_rfl

def onceDriver : ExecutionDriver :=
  { leaseTtlSeconds := 30
    retryPolicy := { defaultRetryPolicy with maxAttempts := 1, attemptsPositive := by decide }
    ttlPositive := by decide }

def plainHost : Host :=
  { bucket := fun _ => 0
    describe := fun _ => "" }

def soloWorld (db : Db) (phase : Phase) : World :=
  { db := db
    workers := fun worker => if worker = 0 then phase else .idle }

def claimCall (now : Time) : Call := callAt now "" (.claimNext "worker" (.finite 30))

def failCall (now : Time) (lease : ExecutionLease) : Call :=
  callAt now "" (.failExecution lease.executionId "worker" lease.leaseToken "loop_error" "boom")

def raisingRound (db : Db) (now : Time) (lease : ExecutionLease) : List (Move World Event) :=
  let claimed := perform sampleDigest (claimCall now) db
  let failed := perform sampleDigest (failCall now lease) claimed.2
  [⟨soloWorld db .idle, { performed := some ⟨claimCall now, claimed.1⟩ },
      soloWorld claimed.2 (.working "worker" lease)⟩,
   ⟨soloWorld claimed.2 (.working "worker" lease),
      { performed := none, adapter := some (.raised "boom") },
      soloWorld claimed.2 (.failing "worker" lease "loop_error" "boom")⟩,
   ⟨soloWorld claimed.2 (.failing "worker" lease "loop_error" "boom"),
      { performed := some ⟨failCall now lease, failed.1⟩ }, soloWorld failed.2 .idle⟩]

def afterRound (db : Db) (now : Time) (lease : ExecutionLease) : Db :=
  (perform sampleDigest (failCall now lease) (perform sampleDigest (claimCall now) db).2).2

theorem soloStep {db db' : Db} {phase phase' : Phase} {event : Event}
    (step : RunOnce sampleDigest onceDriver plainHost db phase event db' phase') :
    WorldStep sampleDigest onceDriver plainHost (soloWorld db phase) event
      (soloWorld db' phase') := by
  refine ⟨0, step, ?_⟩
  intro other different
  change (if other = 0 then phase' else Phase.idle) = if other = 0 then phase else Phase.idle
  rw [if_neg different, if_neg different]

theorem raisingRound_run (db : Db) (now : Time) (lease : ExecutionLease)
    (claimed : (perform sampleDigest (claimCall now) db).1.lease = some lease) :
    Run (WorldStep sampleDigest onceDriver plainHost) (soloWorld db .idle)
      (raisingRound db now lease) (soloWorld (afterRound db now lease) .idle) := by
  have working : Phase.afterClaim "worker" (perform sampleDigest (claimCall now) db).1 =
      .working "worker" lease := by
    unfold Phase.afterClaim
    rw [claimed]
  have decided : onceDriver.record plainHost now "worker" lease (.raised "boom") =
      .fail "loop_error" "boom" := rfl
  exact .cons (soloStep (working ▸ .claim rfl)) (.cons (soloStep (.raised ⟨rfl, rfl⟩ decided))
    (.cons (soloStep (.failed rfl)) (.nil _)))

theorem soloWorld_idle (db : Db) : soloWorld db .idle = ⟨db, fun _ => .idle⟩ := by
  unfold soloWorld
  congr 1
  funext worker
  exact ite_self _

theorem raisingRound_fails {db : Db} {now : Time} {move : Move World Event}
    (member : move ∈ raisingRound db now lease) :
    ∀ adapter ∈ move.label.adapter, adapter.Fails := by
  intro adapter isAdapter
  simp only [raisingRound, List.mem_cons, List.not_mem_nil, or_false] at member
  rcases member with isMove | isMove | isMove
  · rw [isMove] at isAdapter
    cases isAdapter
  · rw [isMove] at isAdapter
    cases isAdapter
    exact trivial
  · rw [isMove] at isAdapter
    cases isAdapter

def startedDb : Db := performAll sampleDigest Db.empty [callAt 0 "a" (sampleStart "start")]

def leaseOf (attempt : Nat) (leaseExpiresAt : Time) : ExecutionLease :=
  { executionId := "exec_a", ownerId := "worker", leaseToken := attempt, attempt := attempt,
    leaseExpiresAt := leaseExpiresAt }

theorem bounded_failure_raising :
    claimsOf "exec_a" (raisingRound startedDb 1 (leaseOf 1 31)) ≤ 1 := by
  have run := raisingRound_run startedDb 1 (leaseOf 1 31) (by decide +kernel)
  rw [soloWorld_idle startedDb] at run
  apply bounded_failure run (fun move member => raisingRound_fails member)
  intro move member performed isPerformed executionId reopens
  simp only [raisingRound, List.mem_cons, List.not_mem_nil, or_false] at member
  rcases member with isMove | isMove | isMove
  · rw [isMove] at isPerformed reopens
    cases isPerformed
    rcases reopens with ⟨_, row, found, lapsed, _⟩
    have idle : startedDb.executions.rows.all (fun row => row.status != .running) = true := by
      decide +kernel
    have notRunning := List.all_eq_true.1 idle row (Table.find?_mem found)
    rw [lapsed.1] at notRunning
    cases notRunning
  · rw [isMove] at isPerformed
    cases isPerformed
  · rw [isMove] at isPerformed reopens
    cases isPerformed
    rcases reopens with ⟨_, _, pending⟩
    apply pending
    have none : (perform sampleDigest (claimCall 1) startedDb).2.signals.rows.isEmpty = true := by
      decide +kernel
    change (perform sampleDigest (claimCall 1) startedDb).2.pendingSignals _ = []
    unfold Db.pendingSignals Db.signalsOf Table.select
    rw [List.isEmpty_iff.1 none]
    rfl

def signaledDb : Db :=
  performAll sampleDigest Db.empty
    [callAt 0 "a" (sampleStart "start"), callAt 1 "first" (sampleSignal "first" "exec_a")]

theorem claimed_past_limit :
    ¬ ∀ (driver : ExecutionDriver) (host : Host) (start : Db) (last : World)
      (trace : List (Move World Event)) (executionId : ExecutionId),
      ReachableDb sampleDigest start →
      Run (WorldStep sampleDigest driver host) ⟨start, fun _ => .idle⟩ trace last →
      (∀ move ∈ trace, ∀ adapter ∈ move.label.adapter, adapter.Fails) →
      claimsOf executionId trace ≤ driver.retryPolicy.maxAttempts := by
  intro bounded
  have first := raisingRound_run signaledDb 2 (leaseOf 1 32) (by decide +kernel)
  have second := raisingRound_run (afterRound signaledDb 2 (leaseOf 1 32)) 3 (leaseOf 2 33)
    (by decide +kernel)
  have run := first.append second
  rw [soloWorld_idle signaledDb] at run
  have within := bounded _ _ _ _ _ "exec_a" (performAll_reachable _ _) run ?_
  · have two : claimsOf "exec_a" (raisingRound signaledDb 2 (leaseOf 1 32) ++
        raisingRound (afterRound signaledDb 2 (leaseOf 1 32)) 3 (leaseOf 2 33)) = 2 := by
      decide +kernel
    rw [two] at within
    exact absurd within (by decide)
  · intro move member
    rcases List.mem_append.1 member with inFirst | inSecond
    · exact raisingRound_fails inFirst
    · exact raisingRound_fails inSecond

end AnnaAgent.Execution
