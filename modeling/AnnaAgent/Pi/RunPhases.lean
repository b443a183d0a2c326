/-
The phases of a run of the Pi loop kernel.

Each phase knows which of the three maps holds the run and what the run has been
told so far.
-/

import AnnaAgent.Pi.StartAndAbort

namespace AnnaAgent.Pi

open Foundation

/-- The preparation has not begun. -/
def Phase.isPreliminary (phase : Phase) : Prop :=
  phase = .reading ∨ phase = .recording ∨ phase = .rereading

/-- The preparation is under way. -/
def Phase.isPreparing (phase : Phase) : Prop :=
  phase = .preparing ∨ phase = .readingPrepared ∨ phase = .receipting ∨ phase = .readingReady

/-- The final event has not been appended yet. -/
def Phase.isOpen : Phase → Bool
  | .finishing _ => false
  | .ended _ => false
  | _ => true

variable {command : StartRun} {before after : Kernel} {event : Event}

structure Sound (command : StartRun) (kernel : Kernel) : Prop where
  preliminary : kernel.phase.isPreliminary →
    kernel.preparation = none ∧ kernel.registered = false ∧ kernel.cancelled = false
  preparing : kernel.phase.isPreparing → kernel.preparation.isSome = true
  stopped : ∀ reason, kernel.preparation = some (some reason) →
    reason = .timedOut → kernel.expired = true
  stopping : ∀ reason, kernel.phase = .stopping reason → kernel.preparation = some (some reason)
  expiring : kernel.phase = .expiring → kernel.expired = true
  driving : kernel.phase = .driving →
    kernel.preparation = none ∧ kernel.pendingAbort = none ∧ kernel.registered = true
  limited : kernel.expired = true → command.hasWallTime = true
  channel : kernel.pendingAbort.isSome = true → command.readsChannel = true

theorem started_sound (command : StartRun) : Sound command (started command) := by
  constructor
  · intro _
    exact ⟨rfl, rfl, rfl⟩
  · intro isPreparing
    simp [started, Phase.isPreparing] at isPreparing
  · intro reason stopped
    cases stopped
  · intro reason here
    cases here
  · intro here
    cases here
  · intro here
    cases here
  · intro isExpired
    cases isExpired
  · intro isPending
    cases reads : command.readsChannel with
    | false => simp [started, reads] at isPending
    | true => rfl

section

variable (sound : Sound command before)

include sound

theorem Sound.close (outcome : Outcome) : Sound command (before.close outcome) := by
  constructor
  · intro here
    simp [Kernel.close, Phase.isPreliminary] at here
  · intro here
    simp [Kernel.close, Phase.isPreparing] at here
  · intro reason stopped
    cases stopped
  · intro reason here
    cases here
  · intro here
    cases here
  · intro here
    cases here
  · exact sound.limited
  · intro isPending
    cases isPending

theorem Sound.drive : Sound command (before.drive command) := by
  have phases : (before.drive command).phase = .driving ∨
      ∃ status, (before.drive command).phase = .finishing status := by
    unfold Kernel.drive
    dsimp only
    split
    · exact .inr ⟨_, rfl⟩
    · exact .inl rfl
  constructor
  · intro here
    rcases phases with same | ⟨status, same⟩
    · simp [same, Phase.isPreliminary] at here
    · simp [same, Phase.isPreliminary] at here
  · intro here
    rcases phases with same | ⟨status, same⟩
    · simp [same, Phase.isPreparing] at here
    · simp [same, Phase.isPreparing] at here
  · intro reason stopped
    cases stopped
  · intro reason here
    rcases phases with same | ⟨status, same⟩
    · cases same.symm.trans here
    · cases same.symm.trans here
  · intro here
    rcases phases with same | ⟨status, same⟩
    · cases same.symm.trans here
    · cases same.symm.trans here
  · intro _
    exact ⟨rfl, rfl, rfl⟩
  · exact sound.limited
  · intro isPending
    cases isPending

theorem Sound.moved {phase : Phase} (preliminary : phase.isPreliminary → before.phase.isPreliminary)
    (preparing : phase.isPreparing → before.preparation.isSome = true)
    (stopping : ∀ reason, phase = .stopping reason → before.preparation = some (some reason))
    (expiring : phase = .expiring → before.expired = true) (driving : phase ≠ .driving) :
    Sound command { before with phase := phase } :=
  { sound with
    preliminary := fun here => sound.preliminary (preliminary here)
    preparing := preparing
    stopping := stopping
    expiring := expiring
    driving := fun here => absurd here driving }

theorem Sound.toStopping {reason : PreparationStopReason}
    (stopped : before.preparation = some (some reason)) :
    Sound command { before with phase := .stopping reason } := by
  apply sound.moved
  · simp [Phase.isPreliminary]
  · simp [Phase.isPreparing]
  · intro other same
    cases same
    exact stopped
  · simp
  · simp

theorem Sound.toExpiring (isExpired : before.expired = true) :
    Sound command { before with phase := .expiring } := by
  apply sound.moved
  · simp [Phase.isPreliminary]
  · simp [Phase.isPreparing]
  · simp
  · intro _
    exact isExpired
  · simp

theorem Sound.fail : Sound command before.fail := by
  unfold Kernel.fail
  split
  · rename_i reason stopped
    exact sound.toStopping stopped
  · exact sound.close _

theorem Sound.goOn (next : Sound command after) : Sound command (before.goOn after) := by
  unfold Kernel.goOn
  split
  · rename_i reason stopped
    exact sound.toStopping stopped
  · exact next

theorem Sound.prepare : Sound command (before.prepare command) := by
  unfold Kernel.prepare
  split
  · exact sound.drive
  · split
    · exact sound.close _
    · split
      · rename_i isExpired
        exact sound.toExpiring isExpired.2
      · constructor
        · intro here
          simp [Phase.isPreliminary] at here
        · intro _
          rfl
        · intro reason stopped isTimeout
          dsimp only at stopped
          split at stopped
          · cases stopped
            cases isTimeout
          · cases stopped
        · intro reason here
          cases here
        · intro here
          cases here
        · intro here
          cases here
        · exact sound.limited
        · exact sound.channel

theorem Sound.finish (agent : AgentEnd) : Sound command (before.finish agent) := by
  have finishing : ∀ status, Sound command { before with phase := .finishing status } := by
    intro status
    apply sound.moved
    · simp [Phase.isPreliminary]
    · simp [Phase.isPreparing]
    · simp
    · simp
    · simp
  unfold Kernel.finish
  split
  · exact sound.close _
  · split
    · exact finishing _
    · split
      · exact finishing _
      · exact finishing _

theorem Sound.enter : Sound command (before.enter command) := by
  unfold Kernel.enter
  split
  · rename_i isExpired
    exact sound.toExpiring isExpired.2
  · exact sound.drive

theorem Sound.toPreparing {phase : Phase} (isPreparing : before.phase.isPreparing)
    (here : phase.isPreparing) : Sound command { before with phase := phase } := by
  have prepared := sound.preparing isPreparing
  apply sound.moved
  · intro preliminary
    rcases here with same | same | same | same
    all_goals simp [same, Phase.isPreliminary] at preliminary
  · intro _
    exact prepared
  · intro reason same
    rcases here with other | other | other | other
    all_goals cases other.symm.trans same
  · intro same
    rcases here with other | other | other | other
    all_goals cases other.symm.trans same
  · intro same
    rcases here with other | other | other | other
    all_goals cases other.symm.trans same

theorem Sound.flags (here : before.phase = .driving)
    (cancelled timedOut sinkFailed agentAborted : Bool) :
    Sound command { before with
      cancelled := cancelled
      timedOut := timedOut
      sinkFailed := sinkFailed
      agentAborted := agentAborted } :=
  { sound with
    preliminary := fun preliminary => by simp [here, Phase.isPreliminary] at preliminary }

theorem Sound.abort : Sound command before.abort := by
  unfold Kernel.abort
  split
  · rename_i pending reason prepared
    constructor
    · intro here
      have unprepared := (sound.preliminary here).1
      rw [prepared] at unprepared
      cases unprepared
    · intro _
      rfl
    · intro other stopped isTimeout
      cases reason with
      | none =>
        cases stopped
        cases isTimeout
      | some earlier =>
        cases stopped
        exact sound.stopped _ prepared isTimeout
    · intro other here
      have stopped := sound.stopping other here
      rw [prepared] at stopped
      cases stopped
      rfl
    · exact sound.expiring
    · intro here
      have unprepared := (sound.driving here).1
      rw [prepared] at unprepared
      cases unprepared
    · exact sound.limited
    · exact sound.channel
  · rename_i pending unprepared isPending
    exact
      { sound with
        driving := fun here => by
          have none := (sound.driving here).2.1
          rw [isPending] at none
          cases none
        channel := fun _ => sound.channel (by rw [isPending]; rfl) }
  · split
    · rename_i isRegistered
      exact
        { sound with
          preliminary := fun here => by
            have unregistered := (sound.preliminary here).2.1
            rw [isRegistered] at unregistered
            cases unregistered }
    · exact sound

theorem Sound.step (step : Step command before event after) : Sound command after := by
  cases step with
  | recordStart here =>
    apply sound.moved
    · intro _
      exact .inl here
    · simp [Phase.isPreparing]
    · simp
    · simp
    · simp
  | restored here | reread here => exact sound.prepare
  | recorded here =>
    apply sound.moved
    · intro _
      exact .inr (.inl here)
    · simp [Phase.isPreparing]
    · simp
    · simp
    · simp
  | unprepared here | stopped here | expiredEarly here | finished here | unfinished here =>
    exact sound.close _
  | prepared here =>
    exact sound.goOn (sound.toPreparing (.inl here) (.inr (.inl rfl)))
  | receipts here =>
    refine sound.goOn (sound.toPreparing ?_ (.inr (.inr (.inl rfl))))
    rcases here with here | here
    · exact .inr (.inl here)
    · exact .inr (.inr (.inl here))
  | receipted here =>
    refine sound.goOn (sound.toPreparing ?_ (.inr (.inr (.inr rfl))))
    rcases here with here | here
    · exact .inr (.inl here)
    · exact .inr (.inr (.inl here))
  | ready here => exact sound.goOn sound.enter
  | preparationFailed here => exact sound.fail
  | requested here goesOn => exact sound
  | sinkFailed here | budgetSpent here | wallTimer isExpired here => exact sound.flags here _ _ _ _
  | agentEnded agent here => exact sound.finish agent
  | expired limited goesOn =>
    exact
      { sound with
        stopped := fun _ _ _ => rfl
        expiring := fun _ => rfl
        limited := fun _ => limited }
  | preparationTimer isExpired here =>
    exact
      { sound with
        preliminary := fun preliminary => by
          have unprepared := (sound.preliminary preliminary).1
          rw [here] at unprepared
          cases unprepared
        preparing := fun _ => rfl
        stopped := fun _ _ _ => isExpired
        stopping := fun reason stopping => by
          have stopped := sound.stopping reason stopping
          rw [here] at stopped
          cases stopped
        driving := fun driving => by
          have unprepared := (sound.driving driving).1
          rw [here] at unprepared
          cases unprepared }
  | aborted => exact sound.abort

end

end AnnaAgent.Pi
