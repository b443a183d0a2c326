/-
Aborts that are kept.

An abort is kept when one of the maps knows the run and the wall time does not
run out while the abort waits for the preparation to begin.  From then on every
state of the run leads to its cancellation, or to a timeout that came first, or
the run rejects.
-/

import AnnaAgent.Pi.RunPhases

namespace AnnaAgent.Pi

open Foundation

/-- One of the three maps has an entry of the run. -/
def Kernel.isKnown (kernel : Kernel) : Prop :=
  kernel.preparation.isSome = true ∨ kernel.pendingAbort.isSome = true ∨ kernel.registered = true

/-- An abort finds the run in a map while it is open, and no wall time runs out
between an abort and the preparation it waits for. -/
def Covered (move : Move Kernel Event) : Prop :=
  (move.label = .aborted → move.before.phase.isOpen = true → move.before.isKnown) ∧
    (move.label = .expired →
      ¬ (move.before.pendingAbort = some true ∧ move.before.preparation = none))

/-- The outcomes of a run that is aborted: `late` says whether the wall time had
run out before. -/
def Kept (late : Bool) : Outcome → Prop
  | .rejected => True
  | .returned .cancelled => True
  | .returned .timedOut => late = true
  | .returned _ => False

/-- Something that `start` or the agent waits for has come. -/
def Event.resumes : Event → Bool
  | .advanced => true
  | .failed => true
  | .agentEnded => true
  | _ => false

/-- How often a run that is aborted can still go on. -/
def Phase.distance : Phase → Nat
  | .reading => 5
  | .recording => 4
  | .rereading => 3
  | .preparing => 2
  | .readingPrepared => 2
  | .receipting => 2
  | .readingReady => 2
  | .expiring => 2
  | .driving => 2
  | .stopping _ => 1
  | .finishing _ => 1
  | .ended _ => 0

structure Doomed (command : StartRun) (late : Bool) (kernel : Kernel) : Prop where
  waits : kernel.phase.isPreliminary →
    kernel.pendingAbort = some true ∧ command.readsChannel = true ∧
      (kernel.expired = true → late = true)
  preparing : kernel.phase.isPreparing →
    ∃ reason, kernel.preparation = some (some reason) ∧ (reason = .timedOut → late = true)
  stopping : ∀ reason, kernel.phase = .stopping reason → reason = .timedOut → late = true
  expiring : kernel.phase = .expiring → late = true
  driving : kernel.phase = .driving → kernel.cancelled = true ∧ kernel.agentAborted = true
  finishing : ∀ status, kernel.phase = .finishing status → Kept late (.returned status)
  ended : ∀ outcome, kernel.phase = .ended outcome → Kept late outcome

variable {command : StartRun} {late : Bool} {before after : Kernel} {event : Event}

theorem abort_phase (kernel : Kernel) : kernel.abort.phase = kernel.phase := by
  unfold Kernel.abort
  split
  · rfl
  · rfl
  · split
    · rfl
    · rfl

theorem abort_expired (kernel : Kernel) : kernel.abort.expired = kernel.expired := by
  unfold Kernel.abort
  split
  · rfl
  · rfl
  · split
    · rfl
    · rfl

variable {kernel : Kernel}

theorem abort_of_prepared {reason : Option PreparationStopReason}
    (prepared : kernel.preparation = some reason) :
    kernel.abort.preparation = some (some (reason.getD .cancelled)) := by
  unfold Kernel.abort
  rw [prepared]

theorem abort_of_pending (unprepared : kernel.preparation = none)
    (isPending : kernel.pendingAbort.isSome = true) : kernel.abort.pendingAbort = some true := by
  unfold Kernel.abort
  rw [unprepared]
  cases pending : kernel.pendingAbort with
  | none =>
    rw [pending] at isPending
    cases isPending
  | some aborted => rfl

theorem abort_of_registered (unprepared : kernel.preparation = none)
    (notPending : kernel.pendingAbort = none) (isRegistered : kernel.registered = true) :
    kernel.abort.cancelled = true ∧ kernel.abort.agentAborted = true := by
  unfold Kernel.abort
  rw [unprepared, notPending]
  change (if kernel.registered = true then _ else kernel).cancelled = true ∧
    (if kernel.registered = true then _ else kernel).agentAborted = true
  rw [if_pos isRegistered]
  exact ⟨rfl, rfl⟩

theorem Sound.doomed (sound : Sound command before) (isOpen : before.phase.isOpen = true)
    (isKnown : before.isKnown) : Doomed command before.expired before.abort := by
  constructor
  · intro here
    rw [abort_phase] at here
    rcases sound.preliminary here with ⟨unprepared, unregistered, _⟩
    have isPending : before.pendingAbort.isSome = true := by
      rcases isKnown with prepared | pending | registered
      · rw [unprepared] at prepared
        cases prepared
      · exact pending
      · rw [unregistered] at registered
        cases registered
    rw [abort_expired]
    exact ⟨abort_of_pending unprepared isPending, sound.channel isPending, id⟩
  · intro here
    rw [abort_phase] at here
    rcases Option.isSome_iff_exists.mp (sound.preparing here) with ⟨reason, prepared⟩
    refine ⟨_, abort_of_prepared prepared, ?_⟩
    intro isTimeout
    cases reason with
    | none => cases isTimeout
    | some earlier => exact sound.stopped earlier prepared isTimeout
  · intro reason here isTimeout
    rw [abort_phase] at here
    exact sound.stopped reason (sound.stopping reason here) isTimeout
  · intro here
    rw [abort_phase] at here
    exact sound.expiring here
  · intro here
    rw [abort_phase] at here
    rcases sound.driving here with ⟨unprepared, notPending, isRegistered⟩
    exact abort_of_registered unprepared notPending isRegistered
  · intro status here
    rw [abort_phase] at here
    rw [here] at isOpen
    cases isOpen
  · intro outcome here
    rw [abort_phase] at here
    rw [here] at isOpen
    cases isOpen

theorem Doomed.closed (kernel : Kernel) {outcome : Outcome} (kept : Kept late outcome) :
    Doomed command late (kernel.close outcome) := by
  constructor
  · intro here
    simp [Kernel.close, Phase.isPreliminary] at here
  · intro here
    simp [Kernel.close, Phase.isPreparing] at here
  · intro reason here
    cases here
  · intro here
    cases here
  · intro here
    cases here
  · intro status here
    cases here
  · intro other here
    cases here
    exact kept

theorem Doomed.toStopping (kernel : Kernel) {reason : PreparationStopReason}
    (isLate : reason = .timedOut → late = true) :
    Doomed command late { kernel with phase := .stopping reason } := by
  constructor
  · intro here
    simp [Phase.isPreliminary] at here
  · intro here
    simp [Phase.isPreparing] at here
  · intro other here
    cases here
    exact isLate
  · intro here
    cases here
  · intro here
    cases here
  · intro status here
    cases here
  · intro other here
    cases here

theorem Doomed.toFinishing (kernel : Kernel) {status : Status}
    (kept : Kept late (.returned status)) :
    Doomed command late { kernel with phase := .finishing status } := by
  constructor
  · intro here
    simp [Phase.isPreliminary] at here
  · intro here
    simp [Phase.isPreparing] at here
  · intro reason here
    cases here
  · intro here
    cases here
  · intro here
    cases here
  · intro other here
    cases here
    exact kept
  · intro other here
    cases here

theorem kept_of_stop (reason : PreparationStopReason)
    (isLate : reason = .timedOut → late = true) : Kept late (.returned reason.status) := by
  cases reason with
  | cancelled => trivial
  | timedOut => exact isLate rfl

section

variable (doomed : Doomed command late before)

include doomed

theorem Doomed.goOn (here : before.phase.isPreparing) (next : Kernel)
    : Doomed command late (before.goOn next) := by
  rcases doomed.preparing here with ⟨reason, stopped, isLate⟩
  have stops : before.goOn next = { before with phase := .stopping reason } := by
    unfold Kernel.goOn
    simp only [stopped]
  rw [stops]
  exact Doomed.toStopping before isLate

theorem Doomed.prepare (here : before.phase.isPreliminary)
    : Doomed command late (before.prepare command) := by
  rcases doomed.waits here with ⟨isPending, readsChannel, isLate⟩
  unfold Kernel.prepare
  split
  · rename_i unread
    rw [readsChannel] at unread
    cases unread
  · split
    · exact Doomed.closed before trivial
    · split
      · rename_i isExpired
        constructor
        · intro preliminary
          simp [Phase.isPreliminary] at preliminary
        · intro preparing
          simp [Phase.isPreparing] at preparing
        · intro reason same
          cases same
        · intro _
          exact isLate isExpired.2
        · intro same
          cases same
        · intro status same
          cases same
        · intro outcome same
          cases same
      · constructor
        · intro preliminary
          simp [Phase.isPreliminary] at preliminary
        · intro _
          exact ⟨.cancelled, rfl, fun same => by cases same⟩
        · intro reason same
          cases same
        · intro same
          cases same
        · intro same
          cases same
        · intro status same
          cases same
        · intro outcome same
          cases same

theorem Doomed.fail (here : before.phase.isPreparing ∨ before.phase = .expiring) :
    Doomed command late before.fail := by
  unfold Kernel.fail
  split
  · rename_i reason stopped
    apply Doomed.toStopping before
    intro isTimeout
    rcases here with preparing | expiring
    · rcases doomed.preparing preparing with ⟨other, same, isLate⟩
      rw [stopped] at same
      cases same
      exact isLate isTimeout
    · exact doomed.expiring expiring
  · exact Doomed.closed before trivial

theorem Doomed.finish (here : before.phase = .driving) (agent : AgentEnd)
    : Doomed command late (before.finish agent) := by
  have isCancelled := (doomed.driving here).1
  have cancels : before.outcome agent.lastStopReason = .cancelled := if_pos isCancelled
  have finishing : Doomed command late { before with phase := .finishing .cancelled } :=
    Doomed.toFinishing before trivial
  unfold Kernel.finish
  split
  · exact Doomed.closed before trivial
  · split
    · exact finishing
    · split
      · rename_i awaits
        rw [isCancelled] at awaits
        cases awaits.2.1
      · rw [cancels]
        exact finishing

theorem Doomed.told (same : after.phase = before.phase)
    (pending : before.phase.isPreliminary → after.pendingAbort = before.pendingAbort ∧ (after.expired = true → before.expired = true))
    (prepared : before.phase.isPreparing → after.preparation = before.preparation)
    (driven : before.phase = .driving → after.cancelled = before.cancelled ∧ (before.agentAborted = true → after.agentAborted = true))
    :
    Doomed command late after := by
  constructor
  · intro here
    rw [same] at here
    rcases doomed.waits here with ⟨isPending, readsChannel, isLate⟩
    rcases pending here with ⟨samePending, earlier⟩
    exact ⟨samePending.trans isPending, readsChannel, fun isExpired => isLate (earlier isExpired)⟩
  · intro here
    rw [same] at here
    rw [prepared here]
    exact doomed.preparing here
  · intro reason here
    rw [same] at here
    exact doomed.stopping reason here
  · intro here
    rw [same] at here
    exact doomed.expiring here
  · intro here
    rw [same] at here
    rcases doomed.driving here with ⟨isCancelled, isAborted⟩
    rcases driven here with ⟨sameCancelled, aborts⟩
    exact ⟨sameCancelled.trans isCancelled, aborts isAborted⟩
  · intro status here
    rw [same] at here
    exact doomed.finishing status here
  · intro outcome here
    rw [same] at here
    exact doomed.ended outcome here

theorem Doomed.step (sound : Sound command before) (step : Step command before event after)
    (covered : Covered ⟨before, event, after⟩) :
    Doomed command late after ∧ event ≠ .requested := by
  cases step with
  | recordStart here =>
    refine ⟨?_, by simp⟩
    have waits := doomed.waits (.inl here)
    constructor
    · intro _
      exact waits
    · intro preparing
      simp [Phase.isPreparing] at preparing
    · intro reason same
      cases same
    · intro same
      cases same
    · intro same
      cases same
    · intro status same
      cases same
    · intro outcome same
      cases same
  | restored here => exact ⟨doomed.prepare (.inl here), by simp⟩
  | recorded here =>
    refine ⟨?_, by simp⟩
    have waits := doomed.waits (.inr (.inl here))
    constructor
    · intro _
      exact waits
    · intro preparing
      simp [Phase.isPreparing] at preparing
    · intro reason same
      cases same
    · intro same
      cases same
    · intro same
      cases same
    · intro status same
      cases same
    · intro outcome same
      cases same
  | reread here => exact ⟨doomed.prepare (.inr (.inr here)), by simp⟩
  | unprepared here | unfinished here => exact ⟨Doomed.closed before trivial, by simp⟩
  | prepared here => exact ⟨doomed.goOn (.inl here) _, by simp⟩
  | receipts here | receipted here =>
    rcases here with here | here
    · exact ⟨doomed.goOn (.inr (.inl here)) _, by simp⟩
    · exact ⟨doomed.goOn (.inr (.inr (.inl here))) _, by simp⟩
  | ready here => exact ⟨doomed.goOn (.inr (.inr (.inr here))) _, by simp⟩
  | preparationFailed here =>
    refine ⟨doomed.fail ?_, by simp⟩
    rcases here with here | here | here | here | here
    · exact .inl (.inl here)
    · exact .inl (.inr (.inl here))
    · exact .inl (.inr (.inr (.inl here)))
    · exact .inl (.inr (.inr (.inr here)))
    · exact .inr here
  | stopped here =>
    exact ⟨Doomed.closed before (kept_of_stop _ (doomed.stopping _ here)), by simp⟩
  | expiredEarly here => exact ⟨Doomed.closed before (doomed.expiring here), by simp⟩
  | requested here goesOn =>
    have isAborted := (doomed.driving here).2
    rw [goesOn] at isAborted
    cases isAborted
  | sinkFailed here | wallTimer isExpired here =>
    refine ⟨doomed.told rfl ?_ ?_ ?_, by simp⟩
    · intro _
      exact ⟨rfl, id⟩
    · intro _
      rfl
    · intro _
      exact ⟨rfl, fun _ => rfl⟩
  | budgetSpent here =>
    refine ⟨doomed.told rfl ?_ ?_ ?_, by simp⟩
    · intro _
      exact ⟨rfl, id⟩
    · intro _
      rfl
    · intro _
      exact ⟨rfl, id⟩
  | agentEnded agent here => exact ⟨doomed.finish here agent, by simp⟩
  | finished here => exact ⟨Doomed.closed before (doomed.finishing _ here), by simp⟩
  | expired limited goesOn =>
    refine ⟨doomed.told rfl ?_ ?_ ?_, by simp⟩
    · intro here
      exact absurd ⟨(doomed.waits here).1, (sound.preliminary here).1⟩ (covered.2 rfl)
    · intro _
      rfl
    · intro _
      exact ⟨rfl, id⟩
  | preparationTimer isExpired here =>
    refine ⟨doomed.told rfl ?_ ?_ ?_, by simp⟩
    · intro _
      exact ⟨rfl, id⟩
    · intro preparing
      rcases doomed.preparing preparing with ⟨reason, stopped, _⟩
      rw [here] at stopped
      cases stopped
    · intro _
      exact ⟨rfl, id⟩
  | aborted =>
    refine ⟨doomed.told (abort_phase before) ?_ ?_ ?_, by simp⟩
    · intro here
      have isPending := (doomed.waits here).1
      have unprepared := (sound.preliminary here).1
      have aborted := abort_of_pending unprepared (by rw [isPending]; rfl)
      rw [abort_expired]
      exact ⟨aborted.trans isPending.symm, id⟩
    · intro here
      rcases doomed.preparing here with ⟨reason, stopped, _⟩
      exact (abort_of_prepared stopped).trans stopped.symm
    · intro here
      rcases sound.driving here with ⟨unprepared, notPending, isRegistered⟩
      have aborted := abort_of_registered unprepared notPending isRegistered
      exact ⟨aborted.1.trans (doomed.driving here).1.symm, fun _ => aborted.2⟩

end

/-! ### How far a doomed run still is from its end -/

theorem Doomed.goOn_distance (doomed : Doomed command late before)
    (here : before.phase.isPreparing) (next : Kernel) : (before.goOn next).phase.distance = 1 := by
  rcases doomed.preparing here with ⟨reason, stopped, _⟩
  unfold Kernel.goOn
  simp only [stopped]
  rfl

theorem Doomed.prepare_distance (doomed : Doomed command late before)
    (here : before.phase.isPreliminary) : (before.prepare command).phase.distance ≤ 2 := by
  have readsChannel := (doomed.waits here).2.1
  unfold Kernel.prepare
  split
  · rename_i unread
    rw [readsChannel] at unread
    cases unread
  · split
    · exact Nat.zero_le 2
    · split
      · exact Nat.le_refl 2
      · exact Nat.le_refl 2

theorem fail_distance (kernel : Kernel) : kernel.fail.phase.distance ≤ 1 := by
  unfold Kernel.fail
  split
  · exact Nat.le_refl 1
  · exact Nat.zero_le 1

theorem finish_distance (kernel : Kernel) (agent : AgentEnd) :
    (kernel.finish agent).phase.distance ≤ 1 := by
  unfold Kernel.finish
  split
  · exact Nat.zero_le 1
  · split
    · exact Nat.le_refl 1
    · split
      · exact Nat.le_refl 1
      · exact Nat.le_refl 1

theorem Doomed.nearer (doomed : Doomed command late before)
    (step : Step command before event after) :
    after.phase.distance + (if event.resumes = true then 1 else 0) ≤ before.phase.distance := by
  cases step with
  | recordStart here | recorded here => simp [here, Phase.distance, Event.resumes]
  | restored here =>
    have near := doomed.prepare_distance (.inl here)
    rw [here]
    change (before.prepare command).phase.distance + 1 ≤ 5
    omega
  | reread here =>
    have near := doomed.prepare_distance (.inr (.inr here))
    rw [here]
    change (before.prepare command).phase.distance + 1 ≤ 3
    omega
  | unprepared here =>
    rcases here with here | here | here
    all_goals simp [here, Kernel.close, Phase.distance, Event.resumes]
  | prepared here =>
    rw [doomed.goOn_distance (.inl here), here]
    exact Nat.le_refl 2
  | receipts here | receipted here =>
    rcases here with here | here
    · rw [doomed.goOn_distance (.inr (.inl here)), here]
      exact Nat.le_refl 2
    · rw [doomed.goOn_distance (.inr (.inr (.inl here))), here]
      exact Nat.le_refl 2
  | ready here =>
    rw [doomed.goOn_distance (.inr (.inr (.inr here))), here]
    exact Nat.le_refl 2
  | preparationFailed here =>
    have near := fail_distance before
    have far : before.phase.distance = 2 := by
      rcases here with here | here | here | here | here
      all_goals rw [here]
      all_goals rfl
    change before.fail.phase.distance + 1 ≤ before.phase.distance
    omega
  | stopped here | expiredEarly here | finished here =>
    simp [here, Kernel.close, Phase.distance, Event.resumes]
  | requested here goesOn | sinkFailed here | budgetSpent here | expired limited goesOn
  | preparationTimer isExpired here | wallTimer isExpired here => simp [Event.resumes]
  | agentEnded agent here =>
    have near := finish_distance before agent
    rw [here]
    change (before.finish agent).phase.distance + 1 ≤ 2
    omega
  | unfinished here =>
    rcases here with ⟨status, here⟩ | ⟨reason, here⟩
    all_goals simp [here, Kernel.close, Phase.distance, Event.resumes]
  | aborted => simp [abort_phase, Event.resumes]

theorem waits_or_ended (command : StartRun) (kernel : Kernel) :
    (∃ outcome, kernel.phase = .ended outcome) ∨
      ∃ event after, event.resumes = true ∧ Step command kernel event after := by
  cases here : kernel.phase with
  | reading => exact .inr ⟨_, _, rfl, .recordStart here⟩
  | recording => exact .inr ⟨_, _, rfl, .recorded here⟩
  | rereading => exact .inr ⟨_, _, rfl, .reread here⟩
  | preparing => exact .inr ⟨_, _, rfl, .prepared here⟩
  | readingPrepared => exact .inr ⟨_, _, rfl, .receipted (.inl here)⟩
  | receipting => exact .inr ⟨_, _, rfl, .receipted (.inr here)⟩
  | readingReady => exact .inr ⟨_, _, rfl, .ready here⟩
  | stopping reason => exact .inr ⟨_, _, rfl, .stopped here⟩
  | expiring => exact .inr ⟨_, _, rfl, .expiredEarly here⟩
  | driving => exact .inr ⟨_, _, rfl, .agentEnded ⟨false, false, some .aborted⟩ here⟩
  | finishing status => exact .inr ⟨_, _, rfl, .finished here⟩
  | ended outcome => exact .inl ⟨outcome, rfl⟩

theorem after_abort (step : Step command before .aborted after) : after = before.abort := by
  cases step with
  | aborted => rfl

variable {trace : List (Move Kernel Event)}

theorem sound_of_run {last : Kernel} (run : Run (Step command) (started command) trace last) :
    Sound command last := by
  apply run.invariant (Sound command)
  · intro before label after step sound
    exact sound.step step
  · exact started_sound command

theorem Doomed.run {first last : Kernel} (doomed : Doomed command late first)
    (sound : Sound command first) (run : Run (Step command) first trace last)
    (covered : ∀ move ∈ trace, Covered move) :
    Doomed command late last ∧ (∀ move ∈ trace, move.label ≠ .requested) ∧
      trace.countP (fun move => move.label.resumes) + last.phase.distance ≤
        first.phase.distance := by
  induction run with
  | nil state =>
    refine ⟨doomed, ?_, ?_⟩
    · intro move member
      cases member
    · simp
  | @cons first middle last label rest step later ih =>
    have coveredHere := covered ⟨first, label, middle⟩ List.mem_cons_self
    rcases doomed.step sound step coveredHere with ⟨doomedNext, notRequested⟩
    have coveredLater : ∀ move ∈ rest, Covered move := by
      intro move member
      exact covered move (List.mem_cons_of_mem _ member)
    rcases ih doomedNext (sound.step step) coveredLater with ⟨doomedLast, quiet, near⟩
    refine ⟨doomedLast, ?_, ?_⟩
    · intro move member
      rcases List.mem_cons.mp member with same | earlier
      · rw [same]
        exact notRequested
      · exact quiet move earlier
    · have nearer := doomed.nearer step
      rw [List.countP_cons]
      simp only at nearer ⊢
      omega

/-- In a run whose aborts all find it in a map, and in which no wall time runs
out between an abort and the preparation it waits for, no abort is lost. -/
theorem aborts_are_kept {trace early late : List (Move Kernel Event)} {last : Kernel}
    {move : Move Kernel Event} (run : Run (Step command) (started command) trace last)
    (covered : ∀ other ∈ trace, Covered other) (parts : trace = early ++ move :: late)
    (isAbort : move.label = .aborted) (isOpen : move.before.phase.isOpen = true) :
    (∀ other ∈ late, other.label ≠ .requested) ∧
      (∀ outcome, last.phase = .ended outcome → Kept move.before.expired outcome) ∧
      late.countP (fun other => other.label.resumes) ≤ 5 ∧
      ((∃ outcome, last.phase = .ended outcome) ∨
        ∃ event after, event.resumes = true ∧ Step command last event after) := by
  subst parts
  rcases run.around with ⟨start, step, finish⟩
  have sound := sound_of_run start
  have isKnown := (covered move (List.mem_append_right _ List.mem_cons_self)).1 isAbort isOpen
  have soundNext := sound.step step
  have doomed : Doomed command move.before.expired move.after := by
    rw [isAbort] at step
    rw [after_abort step]
    exact sound.doomed isOpen isKnown
  have coveredLater : ∀ other ∈ late, Covered other := by
    intro other member
    exact covered other (List.mem_append_right _ (List.mem_cons_of_mem _ member))
  rcases doomed.run soundNext finish coveredLater with ⟨doomedLast, quiet, near⟩
  have bound : move.after.phase.distance ≤ 5 := by
    cases move.after.phase
    all_goals simp [Phase.distance]
  refine ⟨quiet, doomedLast.ended, ?_, waits_or_ended command last⟩
  omega

def channelRun : StartRun :=
  { readsChannel := true
    hasLoader := true
    hasWallTime := false }

def earlyAbort : List (Move Kernel Event) :=
  let aborted := (started channelRun).abort
  let recording := { aborted with phase := .recording }
  let rereading := { recording with phase := .rereading }
  let preparing := rereading.prepare channelRun
  let stopping := preparing.goOn { preparing with phase := .readingPrepared }
  [⟨aborted, .advanced, recording⟩, ⟨recording, .advanced, rereading⟩,
    ⟨rereading, .advanced, preparing⟩, ⟨preparing, .advanced, stopping⟩,
    ⟨stopping, .advanced, stopping.close (.returned .cancelled)⟩]

theorem earlyAbort_runs :
    ∃ last, Run (Step channelRun) (started channelRun)
      ([] ++ ⟨started channelRun, .aborted, (started channelRun).abort⟩ :: earlyAbort) last ∧
        last.phase = .ended (.returned .cancelled) := by
  refine ⟨_, .cons .aborted (.cons (.recordStart rfl) (.cons (.recorded rfl)
    (.cons (.reread rfl) (.cons (.prepared rfl)
      (.cons (@Step.stopped _ _ .cancelled rfl) (.nil _)))))), rfl⟩

theorem aborts_are_kept_early :
    earlyAbort.countP (fun other => other.label.resumes) ≤ 5 ∧
      Kept false (.returned .cancelled) := by
  rcases earlyAbort_runs with ⟨last, run, isEnded⟩
  have covered : ∀ other ∈ [] ++ (⟨started channelRun, .aborted, (started channelRun).abort⟩ ::
      earlyAbort : List (Move Kernel Event)), Covered other := by
    intro other member
    rcases List.mem_cons.mp member with same | later
    · subst same
      exact ⟨fun _ _ => .inr (.inl rfl), fun same => by cases same⟩
    · simp only [earlyAbort, List.mem_cons, List.not_mem_nil, or_false] at later
      rcases later with same | same | same | same | same
      all_goals subst same
      all_goals exact ⟨fun label => (by cases label), fun label => (by cases label)⟩
  have kept := aborts_are_kept run covered rfl rfl rfl
  exact ⟨kept.2.2.1, kept.2.1 _ isEnded⟩

def plainRun : StartRun :=
  { readsChannel := false
    hasLoader := false
    hasWallTime := false }

theorem plainRun_goes_on :
    ∃ late last, Run (Step plainRun) (started plainRun)
      ([] ++ ⟨started plainRun, .aborted, (started plainRun).abort⟩ :: late) last ∧
        (∃ other ∈ late, other.label = .requested) ∧
          last.phase = .ended (.returned .completed) := by
  refine ⟨_, _, .cons .aborted (.cons (.recordStart rfl) (.cons (.recorded rfl)
    (.cons (.reread rfl) (.cons (.requested rfl rfl) (.cons
      (.agentEnded ⟨false, false, some .other⟩ rfl) (.cons (.finished rfl) (.nil _))))))), ?_, rfl⟩
  simp

theorem plain_abort_is_lost :
    ¬ ∀ (command : StartRun) (early late : List (Move Kernel Event)) (last : Kernel)
        (move : Move Kernel Event),
      Run (Step command) (started command) (early ++ move :: late) last →
        move.label = .aborted → move.before.phase.isOpen = true →
          (∀ other ∈ late, other.label ≠ .requested) ∧
            ∀ outcome, last.phase = .ended outcome → Kept move.before.expired outcome := by
  intro claimed
  rcases plainRun_goes_on with ⟨late, last, run, ⟨other, member, requested⟩, _⟩
  exact (claimed plainRun [] late last _ run rfl rfl).1 other member requested

end AnnaAgent.Pi
