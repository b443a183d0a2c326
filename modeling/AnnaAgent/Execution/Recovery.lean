/-
Recovery with uncertain tool effects.

An execution whose attempt ends while an effect is pending or unknown should
wait for a signal before it runs again.  It is then parked: finished, or
awaiting a signal with none pending.  No step but a signal takes a parked
execution out of that state, and no claim takes it.
-/

import AnnaAgent.Execution.Signals

namespace AnnaAgent.Execution

open Foundation

/-- Finished, or awaiting a signal that has not come. -/
def Aggregate.Parked (aggregate : Aggregate) : Prop :=
  ∃ row, aggregate.row = some row ∧
    (row.status.terminal = true ∨ (row.status = .awaitingSignal ∧ aggregate.pending = []))

def Aggregate.Runs (aggregate : Aggregate) (number : Nat) : Prop :=
  ∃ attempt ∈ aggregate.attempts, attempt.attempt = number ∧ attempt.status = .running

theorem Aggregate.Parked.not_running {aggregate : Aggregate} {row : ExecutionRow}
    (parked : aggregate.Parked) (present : aggregate.row = some row) : row.status ≠ .running := by
  rcases parked with ⟨other, found, ended | ⟨awaiting, _⟩⟩
  · cases present.symm.trans found
    intro running
    rw [running] at ended
    cases ended
  · cases present.symm.trans found
    intro running
    rw [running] at awaiting
    cases awaiting

namespace Transition

variable {executionId : ExecutionId} {before after : Aggregate} {label : Label}

theorem parked_not_claimed (step : Transition executionId before label after)
    (parked : before.Parked) : ¬ label.Claims := by
  intro claims
  obtain ⟨row, _, present, _, _, _, claimable⟩ := step.claims_inv claims
  have notRunning := parked.not_running present
  rcases parked with ⟨other, found, state⟩
  cases present.symm.trans found
  rcases claimable with queued | ⟨awaiting, pending⟩ | ⟨running, _⟩
  · rcases state with ended | ⟨awaiting, _⟩
    · rw [queued] at ended
      cases ended
    · rw [queued] at awaiting
      cases awaiting
  · rcases state with ended | ⟨_, none⟩
    · rw [awaiting] at ended
      cases ended
    · exact pending none
  · exact notRunning running

theorem parked (step : Transition executionId before label after) (held : before.Parked)
    (quiet : ∀ signalId, label ≠ .signaled signalId) : after.Parked := by
  have notClaims := step.parked_not_claimed held
  have noPending : before.pending = [] → after.pending = [] := step.pending_nil quiet
  have notRunning := @Aggregate.Parked.not_running before
  cases step with
  | started absent queued unclaimed free named =>
    rcases held with ⟨row, found, _⟩
    rw [absent] at found
    cases found
  | signaled present alive unapplied named => exact absurd rfl (quiet _)
  | cancelled present alive named => exact ⟨_, rfl, Or.inl rfl⟩
  | claimed present idle named | reclaimed present lapsed safe expiryNamed named =>
    exact absurd trivial notClaims
  | renewed present lease => exact absurd lease.1 (notRunning held present)
  | merged present lease allowed settled plain emitted =>
    exact absurd lease.1 (notRunning held present)
  | released present lease guarded named =>
    exact absurd lease.running (notRunning held present)
  | effectRecorded | outboxClaimed | outboxDelivered =>
    rcases held with ⟨row, found, state⟩
    exact ⟨row, found, state.imp_right (fun awaiting => ⟨awaiting.1, noPending awaiting.2⟩)⟩

end Transition

/-- Labels under which an attempt ends by expiry, requeue, retry or
reconciliation, or begins. -/
def Label.GivesUp : Label → Prop
  | .claimed | .reclaimed => True
  | .released (.deferred _ _) => False
  | .released _ => True
  | _ => False

def Label.Blocks : Label → Prop
  | .released .blockedClaimed | .released .blockedLapsed => True
  | _ => False

theorem Label.GivesUp.not_signaled {label : Label} (givesUp : label.GivesUp)
    (signalId : SignalId) : label ≠ .signaled signalId := by
  intro isSignal
  rw [isSignal] at givesUp
  exact givesUp

variable {before after : Aggregate}

/-- An attempt given up with an uncertain effect leaves the execution parked,
unless it was requeued blindly or a signal was pending already. -/
theorem Transition.parks {executionId : ExecutionId} {label : Label} {number : Nat}
    (step : Transition executionId before label after) (givesUp : label.GivesUp)
    (blocked : before.blocked = true) (notBlind : label ≠ .released .requeuedClaimed)
    (noPending : label.Blocks → before.pending = []) (runs : before.Runs number) :
    after.Runs number ∨ after.Parked := by
  have keepsPending := step.pending_nil givesUp.not_signaled
  cases step with
  | started | signaled | cancelled | renewed | merged | effectRecorded | outboxClaimed
  | outboxDelivered => exact givesUp.elim
  | claimed present idle named =>
    rcases runs with ⟨attempt, member, isNumber, running⟩
    exact Or.inl ⟨attempt, List.mem_append_left _ member, isNumber, running⟩
  | reclaimed present lapsed safe expiryNamed named =>
    rw [blocked] at safe
    cases safe
  | @released row kind now notBefore lastErrorCode emission present lease guarded named =>
    right
    cases kind with
    | deferred result signalIds => exact givesUp.elim
    | retried maxAttempts =>
      have safe := guarded.1
      rw [blocked] at safe
      cases safe
    | deadLettered => exact ⟨_, rfl, Or.inl rfl⟩
    | blockedClaimed | blockedLapsed =>
      exact ⟨_, rfl, Or.inr ⟨rfl, keepsPending (noPending trivial)⟩⟩
    | requeuedClaimed => exact absurd rfl notBlind
    | requeuedLapsed =>
      have safe : before.blocked = false := guarded
      rw [blocked] at safe
      cases safe

theorem Transition.blocked_of_givesUp {executionId : ExecutionId} {label : Label}
    (step : Transition executionId before label after) (givesUp : label.GivesUp) :
    after.blocked = before.blocked := by
  cases step with
  | claimed | reclaimed | released => rfl
  | started | signaled | cancelled | renewed | merged | effectRecorded | outboxClaimed
  | outboxDelivered => exact givesUp.elim

def Operation.GivesUp : Operation → Prop
  | .claimNext _ _ | .requeueClaimed _ _ _ _ | .scheduleRetryClaimed _ _ _ _ _ _ _ _
  | .reconcileStartup => True
  | _ => False

/-- The call gives the execution up with an uncertain effect and does not leave
it waiting for a later signal: it requeues the execution without a look at its
effects, or makes it wait while a signal is pending already. -/
def Call.Blind (call : Call) (db : Db) (executionId : ExecutionId) : Prop :=
  match call.operation with
  | .requeueClaimed target ownerId leaseToken _ =>
    executionId = target ∧ db.Holds target ownerId leaseToken call.env.now ∧
      db.hasRecoveryBlockingEffect target = true
  | .claimNext _ leaseTtlSeconds =>
    (∃ ttl, validateLeaseTtl leaseTtlSeconds = .ok ttl) ∧
      db.BlockedByClaim call.env.now executionId ∧ db.pendingSignals executionId ≠ []
  | .reconcileStartup =>
    (∃ row, db.executions.find? executionId = some row ∧
      db.LapsedUncertain call.env.now row) ∧ db.pendingSignals executionId ≠ []
  | .scheduleRetryClaimed target ownerId leaseToken _ _ _ notBefore maxAttempts =>
    executionId = target ∧ db.Holds target ownerId leaseToken call.env.now ∧
      0 < maxAttempts ∧ notBefore ≠ .nonFinite ∧
      db.hasRecoveryBlockingEffect target = true ∧ db.pendingSignals target ≠ []
  | _ => False

variable {digest : Digest}

section Calls

variable {call : Call} {db : Db} {executionId : ExecutionId} {label : Label}

theorem Label.Claims.givesUp (claims : label.Claims) : label.GivesUp := by
  cases label with
  | claimed => exact trivial
  | reclaimed => exact trivial
  | started | signaled | cancelled | renewed | merged | released | effectRecorded | outboxClaimed
  | outboxDelivered => exact claims.elim

theorem givesUp_of_allows (givesUp : call.operation.GivesUp)
    (allowed : call.Allows db executionId label) : label.GivesUp := by
  rcases call with ⟨env, operation⟩
  cases operation with
  | claimNext =>
    rcases allowed.2 with ⟨isBlock, _⟩ | claims
    · rw [isBlock]
      exact trivial
    · exact claims.givesUp
  | requeueClaimed =>
    rw [allowed.2.2]
    exact trivial
  | scheduleRetryClaimed =>
    cases allowed.2.2 with
    | blocked | exhausted | retried => exact trivial
  | reconcileStartup =>
    rcases allowed with isRequeue | ⟨isBlock, _⟩
    · rw [isRequeue]
      exact trivial
    · rw [isBlock]
      exact trivial
  | dispatch | heartbeat | commitLoopResult | failExecution | deadLetterClaimed | recordToolEffect
  | claimOutboxEvents | ackOutboxEvents => exact givesUp.elim

theorem not_requeued (careful : ¬ call.Blind db executionId)
    (blocked : db.hasRecoveryBlockingEffect executionId = true)
    (allowed : call.Allows db executionId label) : label ≠ .released .requeuedClaimed := by
  intro isRequeue
  rw [isRequeue] at allowed
  rcases allowed.source with ⟨ownerId, leaseToken, reason, source⟩
  rcases call with ⟨env, operation⟩
  cases source
  exact careful ⟨rfl, allowed.2.1, blocked⟩

theorem none_pending (careful : ¬ call.Blind db executionId)
    (allowed : call.Allows db executionId label) (blocks : label.Blocks) :
    db.pendingSignals executionId = [] := by
  by_contra pending
  have source := allowed.source
  rcases call with ⟨env, operation⟩
  cases label with
  | released kind =>
    cases kind with
    | blockedClaimed =>
      rcases source with ⟨_, _, _, _, _, _, _, isRetry⟩
      cases isRetry
      rcases allowed with ⟨_, holds, step⟩
      cases step with
      | blocked positive finite uncertain =>
        exact careful ⟨rfl, holds, positive, finite, uncertain, pending⟩
    | blockedLapsed =>
      rcases source with ⟨_, _, isClaim⟩ | isReconcile
      · cases isClaim
        rcases allowed with ⟨valid, ⟨_, reached⟩ | claims⟩
        · exact careful ⟨valid, reached, pending⟩
        · exact claims
      · cases isReconcile
        rcases allowed with impossible | ⟨_, uncertain⟩
        · cases impossible
        · exact careful ⟨uncertain, pending⟩
    | deferred | retried | deadLettered | requeuedClaimed | requeuedLapsed => exact blocks
  | started | signaled | cancelled | claimed | reclaimed | renewed | merged | effectRecorded
  | outboxClaimed | outboxDelivered => exact blocks

theorem ending_parks {db' : Db} {outcome : Outcome} {number : Nat}
    (done : perform digest call db = (outcome, db')) (givesUp : call.operation.GivesUp)
    (careful : ¬ call.Blind db executionId)
    (blocked : db.hasRecoveryBlockingEffect executionId = true)
    (runs : (db.aggregate executionId).Runs number)
    (ended : ¬ (db'.aggregate executionId).Runs number) : (db'.aggregate executionId).Parked := by
  obtain ⟨trace, run, allowed⟩ := (perform_traced done).moves executionId
  have invariant := run.keeps
    (fun aggregate => aggregate.blocked = true ∧
      (db.pendingSignals executionId = [] → aggregate.pending = []) ∧
      (aggregate.Runs number ∨ aggregate.Parked)) ?_
    ⟨blocked, fun none => none, Or.inl runs⟩
  · exact invariant.2.2.resolve_left ended
  · rintro move member step ⟨stillBlocked, noPending, state⟩
    have moveAllowed := allowed move member
    have moveGivesUp := givesUp_of_allows givesUp moveAllowed
    refine ⟨(step.blocked_of_givesUp moveGivesUp).trans stillBlocked, ?_, ?_⟩
    · intro none
      exact step.pending_nil moveGivesUp.not_signaled (noPending none)
    · rcases state with runsBefore | parkedBefore
      · refine step.parks moveGivesUp stillBlocked
          (not_requeued careful blocked moveAllowed) ?_ runsBefore
        intro blocks
        exact noPending (none_pending careful moveAllowed blocks)
      · exact Or.inr (step.parked parkedBefore moveGivesUp.not_signaled)

end Calls

/-! ### Runs -/

def Db.Uncertain (db : Db) (executionId : ExecutionId) (effectKey : EffectKey) : Prop :=
  ∃ effect, db.toolEffects.find? effectKey = some effect ∧ effect.executionId = executionId ∧
    effect.status.blocksRecovery = true

structure EndsUncertainly (move : Move Db Performed) (executionId : ExecutionId) (number : Nat)
    (effectKey : EffectKey) : Prop where
  givesUp : move.label.call.operation.GivesUp
  running : ∃ attempt ∈ move.before.attemptsOf executionId,
    attempt.attempt = number ∧ attempt.status = .running
  ended : ∀ attempt ∈ move.after.attemptsOf executionId,
    attempt.attempt = number → attempt.status ≠ .running
  uncertain : move.before.Uncertain executionId effectKey

def StartsAttempt (move : Move Db Performed) (executionId : ExecutionId) : Prop :=
  ∃ lease, move.label.outcome = .ok (.lease (some lease)) ∧ lease.executionId = executionId

def SignalsExecution (move : Move Db Performed) (executionId : ExecutionId) : Prop :=
  (∃ command maxQueueDepth,
    move.label.call.operation = .dispatch (.signal command) maxQueueDepth ∧
      command.executionId = executionId) ∧
    (move.before.signalsOf executionId).length < (move.after.signalsOf executionId).length

/-- After an attempt ended with an uncertain effect, no further attempt starts
while the effect is uncertain unless a signal was dispatched in between. -/
def NoBlindRestart (trace : List (Move Db Performed)) : Prop :=
  ∀ early ending later executionId number effectKey, trace = early ++ ending :: later →
    EndsUncertainly ending executionId number effectKey →
    ¬ StartsAttempt ending executionId ∧
      ∀ middle restart late, later = middle ++ restart :: late →
        StartsAttempt restart executionId → restart.before.Uncertain executionId effectKey →
        ∃ signaling ∈ middle, SignalsExecution signaling executionId

theorem Db.Uncertain.blocked {db : Db} {executionId : ExecutionId} {effectKey : EffectKey}
    (uncertain : db.Uncertain executionId effectKey) :
    db.hasRecoveryBlockingEffect executionId = true := by
  rcases uncertain with ⟨effect, found, owned, blocks⟩
  unfold Db.hasRecoveryBlockingEffect
  rw [List.any_eq_true]
  exact ⟨effect, (Table.mem_select _).2 ⟨Table.find?_mem found, owned⟩, blocks⟩

theorem Transition.signals_length {executionId : ExecutionId} {label : Label}
    (step : Transition executionId before label after) :
    before.signals.length ≤ after.signals.length ∧
      ∀ signalId, label = .signaled signalId → before.signals.length < after.signals.length := by
  cases step with
  | started | cancelled | claimed | reclaimed | renewed | effectRecorded | outboxClaimed
  | outboxDelivered => exact ⟨le_rfl, fun _ impossible => by cases impossible⟩
  | @signaled row signal emission now present alive unapplied named =>
    have grown : before.signals.length < (before.signals ++ [signal]).length := by
      rw [List.length_append, List.length_singleton]
      exact Nat.lt_succ_self _
    exact ⟨grown.le, fun _ _ => grown⟩
  | @merged row ownerId now result signalIds emissions present held allowed settled plain
      emitted =>
      refine ⟨?_, fun _ impossible => by cases impossible⟩
      change _ ≤ (((before.emitAll executionId emissions).signals).map _).length
      rw [List.length_map, Aggregate.emitAll_signals]
  | @released row kind now notBefore lastErrorCode emission present lease guarded named =>
    refine ⟨?_, fun _ impossible => by cases impossible⟩
    change _ ≤ (before.signals.map _).length
    rw [List.length_map]

variable {move : Move Db Performed}

theorem signals_of_signaled {executionId : ExecutionId}
    (step : Step digest move.before move.label move.after)
    (quiet : ¬ SignalsExecution move executionId) :
    ∃ trace, Run (Transition executionId) (move.before.aggregate executionId) trace
        (move.after.aggregate executionId) ∧
      ∀ inner ∈ trace, ∀ signalId, inner.label ≠ .signaled signalId := by
  obtain ⟨trace, run, allowed⟩ := (perform_traced step).moves executionId
  refine ⟨trace, run, ?_⟩
  intro inner member signalId isSignal
  apply quiet
  have source := (allowed inner member).source
  rw [isSignal] at source
  refine ⟨source, ?_⟩
  obtain ⟨front, back, split⟩ := List.append_of_mem member
  rw [split] at run
  rcases run.around with ⟨start, taken, rest⟩
  have grows : ∀ {first last : Aggregate} {steps}, Run (Transition executionId) first steps last →
      first.signals.length ≤ last.signals.length := by
    intro first last steps run
    exact run.relates (fun left right => left.signals.length ≤ right.signals.length)
      (fun _ => le_rfl) (fun early late => early.trans late)
      (fun _ _ _ step => step.signals_length.1)
  exact (grows start).trans_lt ((taken.signals_length.2 signalId isSignal).trans_le (grows rest))

theorem not_parked_of_starts {executionId : ExecutionId}
    (step : Step digest move.before move.label move.after) (starts : StartsAttempt move executionId) :
    ¬ (move.after.aggregate executionId).Parked ∧ ¬ (move.before.aggregate executionId).Parked := by
  rcases starts with ⟨lease, answered, sameId⟩
  unfold Step at step
  rw [answered] at step
  obtain ⟨middle, label, row, blocked, claims, advanced, _, _⟩ := claim_inv step
  rw [sameId] at advanced
  constructor
  · intro parked
    obtain ⟨_, row', _, written, _, running, _⟩ := advanced.here.claims_inv claims
    exact parked.not_running written running
  · intro parked
    obtain ⟨trace, run, allowed⟩ := blocked.moves executionId
    have still := run.keeps Aggregate.Parked ?_ parked
    · exact advanced.here.parked_not_claimed still claims
    · intro inner member taken held
      apply taken.parked held
      intro signalId isSignal
      rw [(allowed inner member).1] at isSignal
      cases isSignal

/-- When no call gives an execution up blindly, none restarts blindly. -/
theorem no_blind_restart {digest : Digest} {trace : List (Move Db Performed)} {last : Db}
    (run : StoreRun digest trace last)
    (careful : ∀ move ∈ trace, ∀ executionId, ¬ move.label.call.Blind move.before executionId) :
    NoBlindRestart trace := by
  intro early ending later executionId number effectKey order ends
  subst order
  rcases run.around with ⟨_, endStep, rest⟩
  have endCareful := careful ending (List.mem_append_right _ List.mem_cons_self) executionId
  have parked : (ending.after.aggregate executionId).Parked := by
    apply ending_parks endStep ends.givesUp endCareful ends.uncertain.blocked ends.running
    rintro ⟨attempt, member, isNumber, running⟩
    exact ends.ended attempt member isNumber running
  refine ⟨fun starts => (not_parked_of_starts endStep starts).1 parked, ?_⟩
  intro middle restart late order starts _
  subst order
  rcases rest.around with ⟨between, restartStep, _⟩
  have reached := between.stays_or (fun db => (db.aggregate executionId).Parked)
    (fun move => SignalsExecution move executionId) ?_ parked
  · rcases reached with stillParked | signaling
    · exact absurd stillParked (not_parked_of_starts restartStep starts).2
    · exact signaling
  · intro move member step held
    by_cases signals : SignalsExecution move executionId
    · exact Or.inr signals
    · left
      obtain ⟨inner, innerRun, quiet⟩ := signals_of_signaled step signals
      exact innerRun.keeps Aggregate.Parked
        (fun move member taken held => taken.parked held (quiet move member)) held

def Db.Settled (db : Db) : Bool :=
  db.signals.rows.isEmpty || db.executions.rows.all (fun row => row.status != .running)

theorem not_blind_of_settled {call : Call} {db : Db} {ownerId : String}
    {leaseTtlSeconds : Seconds} (settled : db.Settled = true)
    (isClaim : call.operation = .claimNext ownerId leaseTtlSeconds)
    (executionId : ExecutionId) : ¬ call.Blind db executionId := by
  intro blind
  unfold Call.Blind at blind
  rw [isClaim] at blind
  rcases blind with ⟨_, ⟨row, found, lapsed, _⟩, pending⟩
  unfold Db.Settled at settled
  rcases Bool.or_eq_true_iff.1 settled with empty | idle
  · apply pending
    unfold Db.pendingSignals Db.signalsOf Table.select
    rw [List.isEmpty_iff.1 empty]
    rfl
  · have notRunning := List.all_eq_true.1 idle row (Table.find?_mem found)
    have running : row.status = .running := lapsed.1.1
    rw [running] at notRunning
    cases notRunning

/-- An attempt lapses with a pending effect, and the next one waits for a signal. -/
def parkedCalls : List Call :=
  [callAt 0 "a" (sampleStart "start"), callAt 1 "" (.claimNext "worker" (.finite 30)),
   callAt 2 "" (.recordToolEffect "exec_a" "charge" "pay" "hash" .pending none),
   callAt 40 "" (.claimNext "other" (.finite 30)),
   callAt 41 "first" (sampleSignal "first" "exec_a"),
   callAt 42 "" (.claimNext "other" (.finite 30))]

theorem no_blind_restart_parked :
    NoBlindRestart (record sampleDigest Db.empty parkedCalls) := by
  apply no_blind_restart (record_run sampleDigest Db.empty parkedCalls)
  intro move inTrace
  have settled : (record sampleDigest Db.empty parkedCalls).all
      (fun move => move.before.Settled) = true := by decide +kernel
  have moveSettled := List.all_eq_true.1 settled move inTrace
  have isCall := call_of_mem_record inTrace
  simp only [parkedCalls, List.mem_cons, List.not_mem_nil, or_false] at isCall
  rcases isCall with isCall | isCall | isCall | isCall | isCall | isCall
  · rw [isCall]
    exact fun _ blind => blind
  · exact not_blind_of_settled moveSettled (congrArg Call.operation isCall)
  · rw [isCall]
    exact fun _ blind => blind
  · exact not_blind_of_settled moveSettled (congrArg Call.operation isCall)
  · rw [isCall]
    exact fun _ blind => blind
  · exact not_blind_of_settled moveSettled (congrArg Call.operation isCall)

theorem uncertain_of_status {db : Db} {executionId : ExecutionId} {effectKey : EffectKey}
    (looked : (db.toolEffects.find? effectKey).map
      (fun effect => (effect.executionId, effect.status)) = some (executionId, .pending)) :
    db.Uncertain executionId effectKey := by
  obtain ⟨effect, found, same⟩ := Option.map_eq_some_iff.1 looked
  obtain ⟨owned, isPending⟩ := Prod.mk.inj same
  refine ⟨effect, found, owned, ?_⟩
  rw [isPending]
  rfl

theorem starts_of_lease {executionId : ExecutionId}
    (claimed : move.label.outcome.lease.map ExecutionLease.executionId = some executionId) :
    StartsAttempt move executionId := by
  obtain ⟨lease, isLease, same⟩ := Option.map_eq_some_iff.1 claimed
  exact ⟨lease, Outcome.eq_of_lease isLease, same⟩

def payingCalls : List Call :=
  [callAt 0 "a" (sampleStart "start"), callAt 1 "" (.claimNext "worker" (.finite 30)),
   callAt 2 "" (.recordToolEffect "exec_a" "charge" "pay" "hash" .pending none)]

/-- The worker stops and hands its attempt back. -/
def requeueCall : Call := callAt 3 "" (.requeueClaimed "exec_a" "worker" 1 "worker_shutdown")

def reclaimCall : Call := callAt 4 "" (.claimNext "other" (.finite 30))

theorem restart_after_requeue :
    ¬ ∀ trace last, StoreRun sampleDigest trace last →
      Timely (trace.map (fun move => move.label.call)) → NoBlindRestart trace := by
  intro never
  have timely : Timely (payingCalls ++ [requeueCall, reclaimCall]) :=
    timely_of_instants [0, 1, 2, 3, 4] rfl (by decide)
  have safe := never _ _ (record_run sampleDigest Db.empty (payingCalls ++ [requeueCall, reclaimCall]))
    (by rwa [record_calls])
  rw [record_append] at safe
  obtain ⟨_, onlySignaled⟩ := safe _ _ _ "exec_a" 1 "charge" rfl
    { givesUp := trivial
      running := by decide +kernel
      ended := by decide +kernel
      uncertain := uncertain_of_status (by decide +kernel) }
  have signaled := onlySignaled [] _ [] rfl (starts_of_lease (by decide +kernel))
    (uncertain_of_status (by decide +kernel))
  rcases signaled with ⟨_, member, _⟩
  exact List.not_mem_nil member

end AnnaAgent.Execution
