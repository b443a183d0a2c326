/-
Which runs `settleInterrupted` settles.

A settlement looks at the last event of a run only, and at the active and begun
runs only when it takes up the run.  It fails just the queued and running ones as
long as no suspension is left open under later events and no start or resume of
the run arrives while the settlement is at it.
-/

import AnnaAgent.EventStore.DriveOutcome
import AnnaAgent.EventStore.OneDrive

namespace AnnaAgent.EventStore

open Foundation

variable {dates : Dates}

/-- An event that gives an outcome is not followed by one that sets the run
running. -/
def LeftOpen (events : List Event) : Prop :=
  ∃ early event later, events = early ++ event :: later ∧
    terminalOutcome event.type ≠ none ∧ ∀ other ∈ later, startsRunning other.type = false

theorem leftOpen_concat (early : List Event) (last : Event) :
    LeftOpen (early ++ [last]) ↔ terminalOutcome last.type ≠ none ∨
      (LeftOpen early ∧ startsRunning last.type = false) := by
  constructor
  · rintro ⟨before, event, later, isSplit, isOutcome, quiet⟩
    rcases List.eq_nil_or_concat later with isEmpty | ⟨between, final, isConcat⟩
    · rw [isEmpty] at isSplit
      obtain ⟨_, sameLast⟩ := List.append_inj' isSplit rfl
      cases sameLast
      exact Or.inl isOutcome
    · rw [isConcat, List.concat_eq_append] at isSplit quiet
      rw [← List.cons_append, ← List.append_assoc] at isSplit
      obtain ⟨isEarly, sameLast⟩ := List.append_inj' isSplit rfl
      cases sameLast
      refine Or.inr ⟨⟨before, event, between, isEarly, isOutcome, ?_⟩, ?_⟩
      · intro other member
        exact quiet other (List.mem_append_left _ member)
      · exact quiet last (List.mem_append_right _ (List.mem_singleton.2 rfl))
  · rintro (isOutcome | ⟨⟨before, event, later, isEarly, isOutcome, quiet⟩, notRunning⟩)
    · exact ⟨early, last, [], rfl, isOutcome, nofun⟩
    · refine ⟨before, event, later ++ [last], ?_, isOutcome, ?_⟩
      · rw [isEarly, List.append_assoc, List.cons_append]
      · intro other member
        rcases List.mem_append.1 member with inside | isLast
        · exact quiet other inside
        · rw [List.mem_singleton.1 isLast]
          exact notRunning

theorem standing_eq_none_iff (events : List Event) :
    standing none events = none ↔ ¬ LeftOpen events := by
  induction events using List.reverseRecOn with
  | nil =>
    refine ⟨?_, fun _ => rfl⟩
    rintro _ ⟨early, event, later, impossible, _⟩
    cases early with
    | nil | cons first rest => cases impossible
  | append_singleton early last ih =>
    rw [standing_concat, leftOpen_concat]
    unfold nextOutcome
    cases isOutcome : terminalOutcome last.type with
    | some outcome =>
      constructor
      · intro impossible
        cases impossible
      · intro notOpen
        exact absurd (Or.inl (Option.some_ne_none outcome)) notOpen
    | none =>
      cases running : startsRunning last.type with
      | true =>
        refine ⟨?_, fun _ => rfl⟩
        rintro _ (impossible | ⟨_, impossible⟩)
        · exact impossible rfl
        · cases impossible
      | false =>
        refine ih.trans (not_congr ?_)
        constructor
        · intro isOpen
          exact Or.inr ⟨isOpen, rfl⟩
        · rintro (impossible | ⟨isOpen, _⟩)
          · exact absurd rfl impossible
          · exact isOpen

instance (events : List Event) : Decidable (LeftOpen events) :=
  decidable_of_iff (¬ standing none events = none)
    ((not_congr (standing_eq_none_iff events)).trans not_not)

/-! ### Settlements -/

def Settlement.current (settlement : Settlement) : Option StartRun :=
  match settlement.point with
  | .reading command _ | .settling command _ _ => some command
  | _ => none

structure Settlement.Fits (store : InMemoryEventStore) (settlement : Settlement) : Prop where
  claimed : ∀ {command : StartRun}, settlement.current = some command →
    store.getRunCommand settlement.scope command.runId = some command
  read : ∀ {command : StartRun} {events : List Event} {rest : List RunId},
    settlement.point = .settling command events rest →
      events <+: store.streamEvents settlement.scope command.runId

/-- While a settlement is at a run, no begin or drive of the runtime has its
key. -/
structure RunRuntime.SettlesFree (runtime : RunRuntime) : Prop where
  orderly : runtime.store.Orderly
  exclusive : runtime.Exclusive
  fits : ∀ {index : Nat} {settlement : Settlement},
    runtime.settlements[index]? = some settlement → settlement.Fits runtime.store
  untaken : ∀ {index : Nat} {settlement : Settlement} {command : StartRun},
    runtime.settlements[index]? = some settlement → settlement.current = some command →
      runtime.active.get? (runtimeKey settlement.scope command.runId) = none ∧
        runtime.inFlight.get? (runtimeKey settlement.scope command.runId) = none

variable {settlement : Settlement}

section Keep

variable {store store' : InMemoryEventStore}

theorem Settlement.Fits.grows (fits : settlement.Fits store) (grows : store.Grows store') :
    settlement.Fits store' :=
  ⟨fun isCurrent => grows.claimed (fits.claimed isCurrent), fun at' => grows.longer (fits.read at')⟩

variable {settlement' : Settlement} {taken : String → Bool}

theorem Settlement.Advances.fits {stamp : Stamp} (orderly : store.Orderly)
    (advances : settlement.Advances dates store taken stamp store' settlement')
    (fits : settlement.Fits store) : settlement'.Fits store' := by
  cases advances with
  | @takes runId rest command at' isFree claimed =>
    refine ⟨?_, nofun⟩
    intro current isCurrent
    cases isCurrent
    rw [(orderly.recorded claimed).2]
    exact claimed
  | @reads command rest at' =>
    refine ⟨?_, ?_⟩
    · intro current isCurrent
      cases isCurrent
      refine fits.claimed ?_
      unfold Settlement.current
      rw [at']
    · intro current events rest' isPoint
      cases isPoint
      exact List.prefix_rfl
  | _ => exact ⟨nofun, nofun⟩

theorem Settlement.Advances.current {stamp : Stamp} {command : StartRun} (orderly : store.Orderly)
    (advances : settlement.Advances dates store taken stamp store' settlement')
    (isCurrent : settlement'.current = some command) :
    settlement'.scope = settlement.scope ∧ (settlement.current = some command ∨
      taken (runtimeKey settlement.scope command.runId) = false) := by
  cases advances with
  | @takes runId rest command at' isFree claimed =>
    cases isCurrent
    rw [(orderly.recorded claimed).2]
    exact ⟨rfl, Or.inr isFree⟩
  | @reads command rest at' =>
    cases isCurrent
    refine ⟨rfl, Or.inl ?_⟩
    unfold Settlement.current
    rw [at']
  | _ => cases isCurrent

end Keep

/-- A stream that does not end in a terminal or suspension event has no
suspension left open. -/
def Settlement.Sees (settlement : Settlement) : Prop :=
  match settlement.point with
  | .settling _ events _ => settledBy events = none → ¬ LeftOpen events
  | _ => True

/-- No start or resume of a run arrives while a settlement is at it, and what
a settlement has read shows whether the run is suspended. -/
def RunRuntime.Considerate (before : RunRuntime) : RuntimeMove → Prop
  | .call command _ => before.closing = false → ∀ settlement ∈ before.settlements,
      ∀ current ∈ settlement.current, runtimeKey settlement.scope current.runId ≠ keyFor command
  | .settleStep index _ => ∀ settlement ∈ before.settlements[index]?, settlement.Sees
  | _ => True

instance : (settlement : Settlement) → Decidable settlement.Sees
  | ⟨_, .settling _ events _, _⟩ =>
    inferInstanceAs (Decidable (settledBy events = none → ¬ LeftOpen events))
  | ⟨_, .listing, _⟩ | ⟨_, .walking _, _⟩ | ⟨_, .reading _ _, _⟩ | ⟨_, .finished, _⟩
  | ⟨_, .thrown _, _⟩ => .isTrue trivial

instance (before : RunRuntime) : (move : RuntimeMove) → Decidable (before.Considerate move)
  | .call command _ =>
    inferInstanceAs (Decidable (_ → ∀ settlement ∈ before.settlements,
      ∀ current ∈ settlement.current, runtimeKey settlement.scope current.runId ≠ keyFor command))
  | .settleStep index _ =>
    inferInstanceAs (Decidable (∀ settlement ∈ before.settlements[index]?, settlement.Sees))
  | .beginStep _ _ | .clearInFlight _ | .kernelCall _ _ _ | .kernelReturns _ _ | .kernelRejects _
  | .driveStep _ _ | .clearActive _ | .settleInterrupted _ | .stop _ _ | .close | .write _ _ =>
    .isTrue trivial

/-- A stream that a settlement adds to is that of a queued or running run that
is neither active nor in flight. -/
def SparesRuns (move : Move RunRuntime RuntimeMove) : Prop :=
  ∀ index stamp scope runId, move.label = .settleStep index stamp →
    move.after.store.streamEvents scope runId ≠ move.before.store.streamEvents scope runId →
      (∃ run, move.before.store.getRun scope runId = some run ∧
        (run.status = .queued ∨ run.status = .running)) ∧
      move.before.isTaken (runtimeKey scope runId) = false

section Step

variable {before after : RunRuntime} {move : RuntimeMove}

theorem isTaken_false_iff {runtime : RunRuntime} {key : String} :
    runtime.isTaken key = false ↔
      runtime.active.get? key = none ∧ runtime.inFlight.get? key = none := by
  unfold RunRuntime.isTaken OrderedMap.has
  rw [Bool.or_eq_false_iff, Option.isSome_eq_false_iff, Option.isSome_eq_false_iff,
    Option.isNone_iff_eq_none, Option.isNone_iff_eq_none]

theorem RunRuntime.Step.settlement_fits (step : RunRuntime.Step dates before move after)
    (held : before.SettlesFree) {index : Nat}
    (isSettlement : after.settlements[index]? = some settlement) : settlement.Fits after.store := by
  have grows := step.grows
  cases step.effect with
  | lists =>
    rcases at_concat isSettlement with ⟨_, isNew⟩ | was
    · rw [isNew]
      exact ⟨nofun, nofun⟩
    · exact held.fits was
  | settles was advances =>
    rcases at_set isSettlement with ⟨_, isNew⟩ | ⟨_, was'⟩
    · rw [isNew]
      exact advances.fits held.orderly (held.fits was)
    · exact (held.fits was').grows grows
  | _ => exact (held.fits isSettlement).grows grows

theorem RunRuntime.Step.untaken (step : RunRuntime.Step dates before move after)
    (held : before.SettlesFree) (considerate : before.Considerate move) {index : Nat}
    {command : StartRun} (isSettlement : after.settlements[index]? = some settlement)
    (isCurrent : settlement.current = some command) :
    after.active.get? (runtimeKey settlement.scope command.runId) = none ∧
      after.inFlight.get? (runtimeKey settlement.scope command.runId) = none := by
  cases step.effect with
  | begins isOpen isFree =>
    obtain ⟨notActive, notFlying⟩ := held.untaken isSettlement isCurrent
    refine ⟨notActive, (OrderedMap.get?_set _ _ _ _).trans ?_⟩
    rw [if_neg]
    · exact notFlying
    · exact considerate isOpen settlement (List.mem_of_getElem? isSettlement) command isCurrent
  | drives was at' =>
    obtain ⟨notActive, notFlying⟩ := held.untaken isSettlement isCurrent
    refine ⟨(OrderedMap.get?_set _ _ _ _).trans ?_, notFlying⟩
    rw [if_neg]
    · exact notActive
    · intro sameKey
      have flies := held.exclusive.inFlight was (by rw [at']; rfl)
      rw [← sameKey, notFlying] at flies
      cases flies
  | lands was at' =>
    obtain ⟨notActive, notFlying⟩ := held.untaken isSettlement isCurrent
    exact ⟨notActive, clearKey_none _ notFlying⟩
  | retires was isSettled =>
    obtain ⟨notActive, notFlying⟩ := held.untaken isSettlement isCurrent
    exact ⟨clearKey_none _ notActive, notFlying⟩
  | lists =>
    rcases at_concat isSettlement with ⟨_, isNew⟩ | was
    · rw [isNew] at isCurrent
      cases isCurrent
    · exact held.untaken was isCurrent
  | settles was advances =>
    rcases at_set isSettlement with ⟨_, isNew⟩ | ⟨_, was'⟩
    · rw [isNew] at isCurrent ⊢
      obtain ⟨sameScope, wasCurrent | isFree⟩ := advances.current held.orderly isCurrent
      · rw [sameScope]
        exact held.untaken was wasCurrent
      · rw [sameScope]
        exact isTaken_false_iff.1 isFree
    · exact held.untaken was' isCurrent
  | _ => exact held.untaken isSettlement isCurrent

theorem RunRuntime.Step.settlesFree (step : RunRuntime.Step dates before move after)
    (held : before.SettlesFree) (considerate : before.Considerate move) : after.SettlesFree :=
  ⟨step.orderly held.orderly, step.exclusive held.exclusive, step.settlement_fits held,
    step.untaken held considerate⟩

theorem activity_cases (events : List Event) (status : RunState)
    (isActive : status = .queued ∨ status = .running) :
    activity status events = .queued ∨ activity status events = .running := by
  induction events generalizing status with
  | nil => exact isActive
  | cons event rest ih =>
    refine ih (nextActivity status event) ?_
    unfold nextActivity
    cases terminalOutcome event.type with
    | some outcome => exact isActive
    | none =>
      dsimp only
      by_cases runs : startsRunning event.type = true
      · rw [if_pos runs]
        exact Or.inr rfl
      · rw [if_neg runs]
        exact isActive

theorem sparesRuns_of_considerate (step : RunRuntime.Step dates before move after)
    (held : before.SettlesFree) (considerate : before.Considerate move) :
    SparesRuns ⟨before, move, after⟩ := by
  intro index stamp scope runId isMove changed
  dsimp only at isMove changed ⊢
  subst isMove
  cases step.effect with
  | @settles _ _ settlement settlement' store was advances =>
    have sees := considerate settlement was
    have fits := held.fits was
    have untaken : ∀ command, settlement.current = some command →
        before.isTaken (runtimeKey settlement.scope command.runId) = false := by
      intro command isCurrent
      exact isTaken_false_iff.2 (held.untaken was isCurrent)
    cases advances with
    | @settles command events rest _ at' isOpen appended =>
      rcases InMemoryEventStore.append_ok appended with ⟨same, _⟩ | pushed
      · rw [same] at changed
        exact absurd rfl changed
      · have isStream : scope = settlement.scope ∧ runId = command.runId := by
          by_cases here : scope = settlement.scope ∧ runId = command.runId
          · exact here
          · refine absurd ?_ changed
            rw [pushed.streamEvents]
            exact (congrArg _ (if_neg here)).trans (List.append_nil _)
        have isCurrent : settlement.current = some command := by
          unfold Settlement.current
          rw [at']
        have sameStream := (fits.read at').eq_of_length pushed.atEnd
        unfold Settlement.Sees at sees
        rw [at'] at sees
        rw [isStream.1, isStream.2]
        refine ⟨?_, untaken command isCurrent⟩
        rw [InMemoryEventStore.getRun_of_claimed held.orderly (fits.claimed isCurrent),
          ← sameStream, (standing_eq_none_iff events).2 (sees isOpen)]
        exact ⟨_, rfl, activity_cases events .queued (Or.inl rfl)⟩
    | _ => exact absurd rfl changed

end Step

theorem settlements_spare_runs {last : RunRuntime} {trace : List (Move RunRuntime RuntimeMove)}
    (run : Run (RunRuntime.Step dates) .initial trace last)
    (considerate : ∀ move ∈ trace, move.before.Considerate move.label) :
    ∀ move ∈ trace, SparesRuns move := by
  intro move member
  obtain ⟨early, late, isTrace⟩ := List.append_of_mem member
  rw [isTrace] at run considerate
  obtain ⟨reached, step, _⟩ := run.around
  have start : RunRuntime.initial.SettlesFree :=
    ⟨InMemoryEventStore.orderly_empty, initial_exclusive, nofun, nofun⟩
  have held : move.before.SettlesFree :=
    reached.keeps RunRuntime.SettlesFree
      (fun earlier isEarlier taken holds =>
        taken.settlesFree holds (considerate earlier (List.mem_append_left _ isEarlier)))
      start
  exact sparesRuns_of_considerate step held
    (considerate move (List.mem_append_right _ List.mem_cons_self))

/-- An earlier process has claimed and queued the run. -/
def abandonDraft : List RuntimeMove :=
  [.write office (.claimStart draftRun),
    .write office (.append (draftEvent "queued" 0 "run.queued"))]

def answerApproval : List RuntimeMove :=
  [.write office (.append (draftEvent "asked" 1 "run.awaiting_approval")),
    .write office (.append (draftEvent "answered" 2 "tool.approval.answered"))]

/-- A settlement up to the read of the run. -/
def settleDraft : List RuntimeMove :=
  .settleInterrupted office :: List.replicate 3 (.settleStep 0 (stamped ""))

theorem settlements_spare_runs_abandoned :
    (RunRuntime.initial.trace fixedDates
      (abandonDraft ++ settleDraft ++ [.settleStep 0 (stamped "failed")])).Forall SparesRuns :=
  List.forall_iff_forall_mem.2 (settlements_spare_runs
    (RunRuntime.initial.run_trace fixedDates _) (by decide +kernel))

/-- A run whose approval has been answered awaits approval until it is resumed,
and a settlement fails it. -/
theorem settlement_fails_run_awaiting_approval :
    ¬ ∀ (dates : Dates) (last : RunRuntime) (trace : List (Move RunRuntime RuntimeMove)),
      Run (RunRuntime.Step dates) .initial trace last → ∀ move ∈ trace, SparesRuns move := by
  intro claimed
  have early := RunRuntime.initial.run_trace fixedDates (abandonDraft ++ answerApproval ++ settleDraft)
  have fails : ((RunRuntime.initial.finish fixedDates
      (abandonDraft ++ answerApproval ++ settleDraft)).step fixedDates
        (.settleStep 0 (stamped "failed"))).map
          (fun after => (after.store.streamEvents office "draft").length) = some 4 := by
    decide +kernel
  have awaits : ((RunRuntime.initial.finish fixedDates
      (abandonDraft ++ answerApproval ++ settleDraft)).store.streamEvents office "draft").length = 3 ∧
      ((RunRuntime.initial.finish fixedDates
        (abandonDraft ++ answerApproval ++ settleDraft)).store.getRun office "draft").map
          RunView.status = some (.ended .awaitingApproval) := by
    decide +kernel
  obtain ⟨after, isAfter, isLonger⟩ := Option.map_eq_some_iff.1 fails
  have spares := claimed fixedDates after _ (early.append (.single isAfter)) _
    (List.mem_append_right _ (List.mem_singleton.2 rfl)) 0 (stamped "failed") office "draft" rfl
  obtain ⟨⟨run, isRun, isActive⟩, _⟩ := spares (by
    intro same
    have sameLength := congrArg List.length same
    rw [isLonger, awaits.1] at sameLength
    exact absurd sameLength (by decide))
  have isStatus := awaits.2
  rw [isRun] at isStatus
  have status : run.status = .ended .awaitingApproval := Option.some.inj isStatus
  rw [status] at isActive
  rcases isActive with impossible | impossible
  · cases impossible
  · cases impossible

end AnnaAgent.EventStore
