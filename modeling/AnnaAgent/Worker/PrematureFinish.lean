/-
When the terminal proposal of an orderly worker is refused as premature.

The refusal can only come with the arrival of the proposal.  By then the host
has answered every frame, and what it still waits for is the callback of the
write with which it did so.
-/

import AnnaAgent.Worker.OrderlyFinish

namespace AnnaAgent.Worker

open Foundation

variable {before after : Channel} {event : Event}

variable {frame : WorkerFrame} {rest : List WorkerFrame}

theorem Orderly.nothing_open (orderly : Orderly before) (oldest : before.inFlight = frame :: rest)
    (isTerminal : frame.kind = .terminalProposed) :
    before.waiting = [] ∧ ∀ handling, before.current = some handling →
      handling.isWaiting = true := by
  have terminals := orderly.terminals
  have load := orderly.load
  have isProposal : frame.isTerminal = true := decide_eq_true isTerminal
  simp only [Channel.terminals, oldest, List.countP_cons, isProposal, if_true] at terminals
  have hasProposed : before.hasProposed = true := by
    cases hasProposed : before.hasProposed with
    | true => rfl
    | false =>
      rw [hasProposed] at terminals
      change _ ≤ 0 at terminals
      omega
  rw [orderly.proposed hasProposed] at load
  rw [hasProposed] at terminals
  change _ ≤ 1 at terminals
  simp only [Channel.load] at load
  have noneBehind : before.waiting.countP WorkerFrame.isTerminal = 0 := by omega
  have noOtherBehind : before.waiting.countP (fun frame => !frame.isTerminal) = 0 := by omega
  have notHandled :
      before.handled.countP (fun handling => handling.frame.isTerminal) = 0 := by omega
  have noneOpen : before.handled.countP Handling.isOpen = 0 := by omega
  constructor
  · cases waiting : before.waiting with
    | nil => rfl
    | cons next later =>
      rw [waiting] at noneBehind noOtherBehind
      cases nextTerminal : next.isTerminal with
      | true => simp [nextTerminal] at noneBehind
      | false => simp [nextTerminal] at noOtherBehind
  · intro handling current
    simp only [Channel.handled, current] at notHandled noneOpen
    simp at notHandled noneOpen
    simp only [Handling.isOpen, notHandled] at noneOpen
    simp [Handling.isWaiting] at noneOpen ⊢
    exact noneOpen.1

theorem Orderly.behind_iff (orderly : Orderly before) (oldest : before.inFlight = frame :: rest)
    (isTerminal : frame.kind = .terminalProposed) :
    (before.pendingOperation = true ∨ frame.bytes < before.queuedBytes + frame.bytes) ↔
      .handler ∈ before.uncalled := by
  rcases orderly.nothing_open oldest isTerminal with ⟨noneWaiting, isWaiting⟩
  have bytes := orderly.bytes
  have waits := orderly.waits
  cases current : before.current with
  | none =>
    simp [Channel.frameBytes, Channel.handled, current, noneWaiting] at bytes
    simp [Channel.handled, current] at waits
    constructor
    · intro isBehind
      rcases isBehind with isPending | isLarger
      · rcases orderly.operation isPending with ⟨handling, isCurrent, _⟩
        cases current.symm.trans isCurrent
      · omega
    · intro uncalled
      exact absurd rfl (waits _ uncalled)
  | some handling =>
    have positive := handling.frame.bytes_pos
    simp [Channel.frameBytes, Channel.handled, current, noneWaiting] at bytes
    simp [Channel.handled, current, isWaiting handling current] at waits
    constructor
    · intro _
      have counted : 0 < before.uncalled.countP (fun waiter => waiter = .handler) := by
        omega
      rcases List.countP_pos_iff.mp counted with ⟨waiter, uncalled, isHandler⟩
      rw [of_decide_eq_true isHandler] at uncalled
      exact uncalled
    · intro _
      right
      omega

/-- The proposal comes in while a callback of the handler has not run. -/
def Channel.isEarly (channel : Channel) (event : Event) : Prop :=
  ∃ frame, event = .arrived frame ∧ frame.kind = .terminalProposed ∧
    channel.fits frame = true ∧ .handler ∈ channel.uncalled

theorem flush_failure (channel : Channel) (frame : WorkerFrame) :
    (channel.flush frame).failure = channel.failure := by
  unfold Channel.flush
  split
  · rfl
  · rfl

theorem resume_failure (channel : Channel) (handling : Handling) :
    (channel.resume handling).failure = channel.failure := by
  unfold Channel.resume
  cases handling.phase with
  | working => rfl
  | writing => rfl
  | answering =>
    dsimp only
    split
    · exact flush_failure _ _
    · rfl
  | flushing => exact flush_failure _ _

theorem callBack_failure (channel : Channel) (waiter : Waiter) (rest : List Waiter) :
    (channel.callBack waiter rest).failure = channel.failure := by
  cases waiter with
  | start => rfl
  | steer =>
    unfold Channel.callBack
    dsimp only
    split
    · rfl
    · rfl
  | handler =>
    unfold Channel.callBack
    cases channel.current with
    | none => rfl
    | some handling => exact resume_failure _ _

theorem enqueue_failure (channel : Channel) (frame : WorkerFrame) :
    (channel.enqueue frame).failure = channel.failure := by
  unfold Channel.enqueue
  cases channel.current with
  | none => rfl
  | some handling => rfl

theorem arrive_failure (orderly : Orderly before) (notFailed : before.failure = none)
    (oldest : before.inFlight = frame :: rest) :
    ({ before with inFlight := rest }.arrive frame).failure = some .terminalWithPendingWork ↔
      before.isEarly (.arrived frame) := by
  have sameFits : ({ before with inFlight := rest } : Channel).fits frame = before.fits frame := rfl
  constructor
  · intro failed
    unfold Channel.arrive at failed
    split at failed
    · cases failed
    · rename_i isWithin
      split at failed
      · rename_i isPremature
        exact ⟨frame, rfl, isPremature.1, by simpa [sameFits] using isWithin,
          (orderly.behind_iff oldest isPremature.1).mp isPremature.2⟩
      · rw [enqueue_failure] at failed
        cases notFailed.symm.trans failed
  · rintro ⟨_, same, isTerminal, isWithin, uncalled⟩
    cases same
    have isBehind := (orderly.behind_iff oldest isTerminal).mpr uncalled
    unfold Channel.arrive
    rw [if_neg (by simp [sameFits, isWithin]), if_pos ⟨isTerminal, isBehind⟩]
    rfl

theorem arrive_settled (channel : Channel) (frame : WorkerFrame)
    (notFailed : channel.failure = none) (failed : (channel.arrive frame).failure ≠ none) :
    (channel.arrive frame).settled = true := by
  unfold Channel.arrive at failed ⊢
  split
  · rfl
  · rename_i isWithin
    rw [if_neg isWithin] at failed
    split
    · rfl
    · rename_i notPremature
      rw [if_neg notPremature, enqueue_failure] at failed
      exact absurd notFailed failed

theorem step_failure (step : Step before event after) (notFailed : before.failure = none) :
    (∃ frame rest, before.inFlight = frame :: rest ∧ event = .arrived frame ∧
      after = { before with inFlight := rest }.arrive frame) ∨
    ((∀ frame, event ≠ .arrived frame) ∧
      (after.failure = none ∨
        ∃ failure, failure ≠ .terminalWithPendingWork ∧ after = before.fail failure)) := by
  cases step with
  | arrived goesOn oldest => exact .inl ⟨_, _, oldest, rfl, rfl⟩
  | sent frame goesOn notProposed notTerminal
  | proposed frame goesOn notProposed isTerminal answered =>
    exact .inr ⟨by simp, .inl notFailed⟩
  | received goesOn oldest | began goesOn here isOperation
  | wrote written goesOn here underWay allowed
  | answered goesOn here notTerminal underWay | accepted goesOn here isTerminal =>
    exact .inr ⟨by simp, .inl notFailed⟩
  | refused goesOn here => exact .inr ⟨by simp, .inr ⟨.frameRefused, by simp, rfl⟩⟩
  | calledBack goesOn oldest =>
    exact .inr ⟨by simp, .inl ((callBack_failure _ _ _).trans notFailed)⟩
  | steered goesOn =>
    have same : before.steer.failure = before.failure := by
      unfold Channel.steer
      split
      · rfl
      · rfl
    exact .inr ⟨by simp, .inl (same.trans notFailed)⟩
  | stopped goesOn => exact .inr ⟨by simp, .inr ⟨.stopped, by simp, rfl⟩⟩

theorem step_failure_iff (orderly : Orderly before) (notFailed : before.failure = none)
    (step : Step before event after) :
    (after.failure = some .terminalWithPendingWork ↔ before.isEarly event) ∧
      (after.failure ≠ none → after.settled = true) := by
  rcases step_failure step notFailed with
    ⟨frame, rest, oldest, rfl, rfl⟩ | ⟨notArrived, outcome⟩
  · exact ⟨arrive_failure orderly notFailed oldest, arrive_settled _ _ notFailed⟩
  · have notEarly : ¬ before.isEarly event := by
      rintro ⟨frame, arrived, _⟩
      exact notArrived frame arrived
    rcases outcome with goesOn | ⟨failure, isOther, rfl⟩
    · constructor
      · simp [goesOn, notEarly]
      · intro failed
        exact absurd goesOn failed
    · constructor
      · simp [Channel.fail, isOther, notEarly]
      · intro _
        rfl

theorem step_goesOn (step : Step before event after) : before.settled = false := by
  cases step with
  | _ => assumption

theorem settled_stops {trace : List (Move Channel Event)} (run : Run Step before trace after)
    (settled : before.settled = true) : trace = [] ∧ after = before := by
  cases run with
  | nil => exact ⟨rfl, rfl⟩
  | cons move later => cases settled.symm.trans (step_goesOn move)

theorem run_failure {trace : List (Move Channel Event)} (run : Run Step before trace after)
    (orderly : Orderly before) (notFailed : before.failure = none) :
    after.failure = some .terminalWithPendingWork ↔
      ∃ move ∈ trace, move.before.isEarly move.label := by
  induction run with
  | nil => simp [notFailed]
  | @cons first middle last label rest move later ih =>
    rcases step_failure_iff orderly notFailed move with ⟨early, settles⟩
    cases failure : middle.failure with
    | none =>
      have notEarly : ¬ first.isEarly label := by
        intro isEarly
        cases failure.symm.trans (early.mpr isEarly)
      rw [ih (orderly.step move) failure]
      simp [notEarly]
    | some other =>
      rcases settled_stops later (settles (by simp [failure])) with ⟨rfl, rfl⟩
      rw [early]
      simp

end AnnaAgent.Worker
