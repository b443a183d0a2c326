/-
One drive at a time, and what becomes of a resume.

A begin stays in flight until it is answered, and a drive stays active until it
is settled, so a begin that finds no active drive can start one.  A resume of a
suspended run is followed by a drive of its own unless it is answered by a drive
that has not been cleared yet or by a begin that does not resume.
-/

import AnnaAgent.EventStore.RuntimeSteps

namespace AnnaAgent.EventStore

open Foundation

variable {dates : Dates}

section Clear

variable (map : OrderedMap String Nat) {key other : String} {index : Nat}

theorem clearKey_other (apart : other ≠ key) : (clearKey map key index).get? other = map.get? other := by
  unfold clearKey
  by_cases same : map.get? key = some index
  · rw [if_pos same]
    exact OrderedMap.get?_restrict map (decide_eq_true apart)
  · rw [if_neg same]

theorem clearKey_kept (differs : map.get? key ≠ some index) : clearKey map key index = map :=
  if_neg differs

theorem clearKey_none (absent : map.get? other = none) :
    (clearKey map key index).get? other = none := by
  by_cases same : other = key
  · unfold clearKey
    by_cases held : map.get? key = some index
    · rw [same, held] at absent
      cases absent
    · rw [if_neg held]
      exact absent
  · rw [clearKey_other map same]
    exact absent

theorem clearKey_some {kept : Nat} (found : map.get? other = some kept)
    (apart : other = key → kept ≠ index) : (clearKey map key index).get? other = some kept := by
  by_cases same : other = key
  · rw [clearKey_kept map]
    · exact found
    · intro held
      rw [same, held] at found
      exact apart same (Option.some.inj found).symm
  · rw [clearKey_other map same]
    exact found

end Clear

def BeginPoint.isAnswered : BeginPoint → Bool
  | .answered _ => true
  | _ => false

/-- The begin has found no active drive. -/
def BeginPoint.isQueueing : BeginPoint → Bool
  | .queueing | .queueRead _ | .gettingQueued | .gotQueued _ => true
  | _ => false

/-- Open begins are in flight, unsettled drives are active, and while a begin
queues its run no drive is. -/
structure RunRuntime.Exclusive (runtime : RunRuntime) : Prop where
  inFlight : ∀ {index : Nat} {begun : Begin}, runtime.begins[index]? = some begun →
    begun.point.isAnswered = false → runtime.inFlight.get? (keyFor begun.command) = some index
  active : ∀ {index : Nat} {drive : Drive}, runtime.drives[index]? = some drive →
    drive.point.isSettled = false → runtime.active.get? (keyFor drive.command) = some index
  free : ∀ {index : Nat} {begun : Begin}, runtime.begins[index]? = some begun →
    begun.point.isQueueing = true → runtime.active.get? (keyFor begun.command) = none

theorem BeginPoint.open_of_queueing {point : BeginPoint} (queueing : point.isQueueing = true) :
    point.isAnswered = false := by
  cases point with
  | answered answer => cases queueing
  | _ => rfl

variable {begun : Begin}

theorem Begin.check_queueing {active : OrderedMap String Nat} {current : RunView}
    (queueing : (begun.check active current).isQueueing = true) :
    active.get? (keyFor begun.command) = none := by
  unfold Begin.check at queueing
  cases isActive : active.get? (keyFor begun.command) with
  | none => rfl
  | some index =>
    rw [isActive] at queueing
    cases isOutcome : current.outcome with
    | none =>
      rw [isOutcome] at queueing
      cases queueing
    | some outcome =>
      rw [isOutcome] at queueing
      dsimp only at queueing
      by_cases settles : (!isSuspendedOutcome outcome || !begun.allowRunning) = true
      · rw [if_pos settles] at queueing
        cases queueing
      · rw [if_neg settles] at queueing
        cases queueing

variable {store store' : InMemoryEventStore} {stamp : Stamp}

theorem Begin.Advances.queueing {active : OrderedMap String Nat} {point : BeginPoint}
    (advances : begun.Advances dates store active stamp (.goes store' point))
    (queueing : point.isQueueing = true) :
    begun.point.isQueueing = true ∨ active.get? (keyFor begun.command) = none := by
  cases advances with
  | checks at' => exact Or.inr (Begin.check_queueing queueing)
  | reads at' | hasEvents at' present | queues at' usable appended | getsQueued at' =>
    rw [at']
    exact Or.inl rfl
  | _ => cases queueing

theorem Begin.Advances.wasOpen {active : OrderedMap String Nat} {move : BeginMove}
    (advances : begun.Advances dates store active stamp move) : begun.point.isAnswered = false := by
  cases advances with
  | lacksParent at' | hasParent at' | claims at' | conflicts at' | gets at' | missing at'
  | checks at' | reads at' | hasEvents at' | queues at' | refused at' | getsQueued at' | ended at'
  | drives at' =>
    rw [at']
    rfl

theorem Drive.Advances.wasUnsettled {drive : Drive} {point : DrivePoint}
    (advances : drive.Advances dates store stamp store' point) : drive.point.isSettled = false := by
  cases advances with
  | reads at' | finds at' | records at' | refused at' | returns at' | readsAgain at'
  | findsAgain at' | fails at' | rejects at' =>
    rw [at']
    rfl

variable {index : Nat}

section Step

variable {before after : RunRuntime} {move : RuntimeMove}

section

variable (step : RunRuntime.Step dates before move after)

include step

theorem RunRuntime.Step.inFlight (exclusive : before.Exclusive)
    (isBegin : after.begins[index]? = some begun) (isOpen : begun.point.isAnswered = false) :
    after.inFlight.get? (keyFor begun.command) = some index := by
  cases step.effect with
  | @begins command allowRunning _ isFree =>
    rcases at_concat isBegin with ⟨isEnd, isNew⟩ | was
    · rw [isEnd, isNew]
      exact (OrderedMap.get?_set _ _ _ _).trans (if_pos rfl)
    · refine (OrderedMap.get?_set _ _ _ _).trans ?_
      rw [if_neg]
      · exact exclusive.inFlight was isOpen
      · intro sameKey
        have taken := exclusive.inFlight was isOpen
        rw [sameKey, isFree] at taken
        cases taken
  | goes was advances =>
    rcases at_set isBegin with ⟨isIndex, isNew⟩ | ⟨_, was'⟩
    · have flies := exclusive.inFlight was advances.wasOpen
      rw [isIndex, isNew]
      exact flies
    · exact exclusive.inFlight was' isOpen
  | drives was at' =>
    rcases at_set isBegin with ⟨_, isNew⟩ | ⟨_, was'⟩
    · rw [isNew] at isOpen
      cases isOpen
    · exact exclusive.inFlight was' isOpen
  | lands was at' =>
    refine clearKey_some _ (exclusive.inFlight isBegin isOpen) ?_
    intro _ isIndex
    rw [isIndex, was] at isBegin
    cases isBegin
    rw [at'] at isOpen
    cases isOpen
  | _ => exact exclusive.inFlight isBegin isOpen

theorem RunRuntime.Step.active (exclusive : before.Exclusive) {drive : Drive}
    (isDrive : after.drives[index]? = some drive) (unsettled : drive.point.isSettled = false) :
    after.active.get? (keyFor drive.command) = some index := by
  cases step.effect with
  | drives was at' =>
    rcases at_concat isDrive with ⟨isEnd, isNew⟩ | was'
    · rw [isEnd, isNew]
      exact (OrderedMap.get?_set _ _ _ _).trans (if_pos rfl)
    · refine (OrderedMap.get?_set _ _ _ _).trans ?_
      rw [if_neg]
      · exact exclusive.active was' unsettled
      · intro sameKey
        have queued := exclusive.free was (by rw [at']; rfl)
        rw [← sameKey, exclusive.active was' unsettled] at queued
        cases queued
  | calls was inKernel | returns was inKernel | rejects was inKernel =>
    rcases at_set isDrive with ⟨isIndex, isNew⟩ | ⟨_, was'⟩
    · have isActive := exclusive.active was (by rw [inKernel]; rfl)
      rw [isIndex, isNew]
      exact isActive
    · exact exclusive.active was' unsettled
  | advances was advances =>
    rcases at_set isDrive with ⟨isIndex, isNew⟩ | ⟨_, was'⟩
    · have isActive := exclusive.active was advances.wasUnsettled
      rw [isIndex, isNew]
      exact isActive
    · exact exclusive.active was' unsettled
  | retires was isSettled =>
    refine clearKey_some _ (exclusive.active isDrive unsettled) ?_
    intro _ isIndex
    rw [isIndex, was] at isDrive
    cases isDrive
    rw [unsettled] at isSettled
    cases isSettled
  | _ => exact exclusive.active isDrive unsettled

theorem RunRuntime.Step.free (exclusive : before.Exclusive)
    (isBegin : after.begins[index]? = some begun) (queueing : begun.point.isQueueing = true) :
    after.active.get? (keyFor begun.command) = none := by
  cases step.effect with
  | @begins command allowRunning _ _ =>
    rcases at_concat isBegin with ⟨_, isNew⟩ | was
    · rw [isNew] at queueing
      unfold Begin.first at queueing
      cases isParent : command.parentRunId with
      | none | some parentRunId =>
        rw [isParent] at queueing
        cases queueing
    · exact exclusive.free was queueing
  | goes was advances =>
    rcases at_set isBegin with ⟨_, isNew⟩ | ⟨_, was'⟩
    · rw [isNew] at queueing ⊢
      rcases advances.queueing queueing with wasQueueing | absent
      · have queued := exclusive.free was wasQueueing
        exact queued
      · exact absent
    · exact exclusive.free was' queueing
  | @drives driven _ other _ was at' =>
    rcases at_set isBegin with ⟨_, isNew⟩ | ⟨apart, was'⟩
    · rw [isNew] at queueing
      cases queueing
    · refine (OrderedMap.get?_set _ _ _ _).trans ?_
      rw [if_neg]
      · exact exclusive.free was' queueing
      · intro sameKey
        have wasFlying := exclusive.inFlight was' (BeginPoint.open_of_queueing queueing)
        have otherFlies := exclusive.inFlight was (by rw [at']; rfl)
        rw [sameKey, otherFlies] at wasFlying
        exact apart (Option.some.inj wasFlying).symm
  | retires was isSettled => exact clearKey_none _ (exclusive.free isBegin queueing)
  | _ => exact exclusive.free isBegin queueing

theorem RunRuntime.Step.exclusive (exclusive : before.Exclusive) : after.Exclusive :=
  ⟨step.inFlight exclusive, step.active exclusive, step.free exclusive⟩

end

end Step

theorem initial_exclusive : RunRuntime.initial.Exclusive :=
  ⟨nofun, nofun, nofun⟩

/-! ### Resumes of suspended runs -/

def StartRun.SameRun (command other : StartRun) : Prop :=
  command.toChannelScope = other.toChannelScope ∧ command.runId = other.runId

instance (command other : StartRun) : Decidable (command.SameRun other) :=
  inferInstanceAs (Decidable (_ ∧ _))

/-- At most one call of the kernel is in progress for a run. -/
def RunRuntime.OneAtATime (runtime : RunRuntime) : Prop :=
  ∀ {first second : Nat} {drive other : Drive}, runtime.drives[first]? = some drive →
    runtime.drives[second]? = some other → drive.point = .kernel → other.point = .kernel →
      drive.command.SameRun other.command → first = second

/-- The answer is a drive of the run that was started after the call, or the run
had ended or was refused for another reason than that it runs. -/
def RunRuntime.Follows (runtime : RunRuntime) (call : RunCall) : BeginAnswer → Prop
  | .drive index => call.drivesBefore ≤ index ∧
      ∃ drive, runtime.drives[index]? = some drive ∧ drive.command.SameRun call.command
  | .settled _ outcome => isSuspendedOutcome outcome = false
  | .refused refusal => refusal ≠ .resumeRequired

def RunCall.Resumes (call : RunCall) : Prop :=
  call.allowRunning = true ∧ call.suspended = true

/-- No resume of a suspended run has been answered by an earlier drive. -/
def RunRuntime.NoLostResume (runtime : RunRuntime) : Prop :=
  ∀ call ∈ runtime.calls, call.Resumes → ∀ begun answer,
    runtime.begins[call.begun]? = some begun → begun.point = .answered answer →
      runtime.Follows call answer

/-- A begin that has got the run finds that it has ended, or it finds no active
drive and does not refuse to resume. -/
def Begin.Unhindered (active : OrderedMap String Nat) (begun : Begin) : Prop :=
  match begun.point with
  | .got (some current) =>
    current.outcome.any (fun outcome => !isSuspendedOutcome outcome) = true ∨
      (active.get? (keyFor begun.command) = none ∧
        (begun.allowRunning = true ∨ (current.outcome = none ∧ current.status ≠ .running)))
  | _ => True

/-- A resume of a suspended run joins only a begin of the same run that has not
been answered, and a begin that such a resume waits for is unhindered. -/
def RunRuntime.Unhindered (before : RunRuntime) : RuntimeMove → Prop
  | .call command allowRunning =>
    allowRunning = true → before.closing = false → before.isSuspendedRun command = true →
      ∀ index ∈ before.inFlight.get? (keyFor command), ∃ begun ∈ before.begins[index]?,
        begun.point.isAnswered = false ∧ begun.command.SameRun command
  | .beginStep index _ =>
    (∃ call ∈ before.calls, call.begun = index ∧ call.Resumes) →
      ∀ begun ∈ before.begins[index]?, begun.Unhindered before.active
  | _ => True

instance (call : RunCall) : Decidable call.Resumes :=
  inferInstanceAs (Decidable (_ ∧ _))

instance (active : OrderedMap String Nat) : (begun : Begin) → Decidable (begun.Unhindered active)
  | ⟨_, _, .got (some _)⟩ => inferInstanceAs (Decidable (_ ∨ (_ ∧ (_ ∨ (_ ∧ _)))))
  | ⟨_, _, .checkingParent _⟩ | ⟨_, _, .claiming⟩ | ⟨_, _, .getting⟩ | ⟨_, _, .got none⟩
  | ⟨_, _, .queueing⟩ | ⟨_, _, .queueRead _⟩ | ⟨_, _, .gettingQueued⟩ | ⟨_, _, .gotQueued _⟩
  | ⟨_, _, .answered _⟩ => .isTrue trivial

instance (before : RunRuntime) : (move : RuntimeMove) → Decidable (before.Unhindered move)
  | .call command _ =>
    inferInstanceAs (Decidable (_ → _ → _ → ∀ index ∈ before.inFlight.get? (keyFor command),
      ∃ begun ∈ before.begins[index]?, _ ∧ _))
  | .beginStep index _ =>
    inferInstanceAs (Decidable ((∃ call ∈ before.calls, _ ∧ _) →
      ∀ begun ∈ before.begins[index]?, begun.Unhindered before.active))
  | .clearInFlight _ | .kernelCall _ _ _ | .kernelReturns _ _ | .kernelRejects _ | .driveStep _ _
  | .clearActive _ | .settleInterrupted _ | .settleStep _ _ | .stop _ _ | .close | .write _ _ =>
    .isTrue trivial

/-- Every resume of a suspended run waits for a begin of its run or has been
followed. -/
def RunRuntime.Waits (runtime : RunRuntime) : Prop :=
  ∀ call ∈ runtime.calls, call.Resumes → call.drivesBefore ≤ runtime.drives.length ∧
    ∃ begun, runtime.begins[call.begun]? = some begun ∧ begun.command.SameRun call.command ∧
      ∀ answer, begun.point = .answered answer → runtime.Follows call answer

theorem oneAtATime_of_exclusive {runtime : RunRuntime} (exclusive : runtime.Exclusive) :
    runtime.OneAtATime := by
  intro first second drive other isFirst isSecond inKernel otherInKernel sameRun
  have firstActive := exclusive.active isFirst (by rw [inKernel]; rfl)
  have secondActive := exclusive.active isSecond (by rw [otherInKernel]; rfl)
  have sameKey : keyFor drive.command = keyFor other.command := by
    unfold keyFor
    rw [sameRun.1, sameRun.2]
  rw [sameKey, secondActive] at firstActive
  exact (Option.some.inj firstActive).symm

section

variable {α : Type} {items : List α} {item : α} (new : α)

theorem at_concat_of (found : items[index]? = some item) : (items ++ [new])[index]? = some item :=
  (List.getElem?_append_left (List.getElem?_eq_some_iff.1 found).1).trans found

theorem at_set_same (found : items[index]? = some item) :
    (items.set index new)[index]? = some new :=
  List.getElem?_set_self (List.getElem?_eq_some_iff.1 found).1

theorem at_set_apart {other : Nat} (apart : other ≠ index) (found : items[other]? = some item) :
    (items.set index new)[other]? = some item :=
  (List.getElem?_set_ne apart.symm).trans found

end

section Step

variable {before after : RunRuntime} {move : RuntimeMove}

theorem RunRuntime.Step.drive_kept (step : RunRuntime.Step dates before move after) {drive : Drive}
    (isDrive : before.drives[index]? = some drive) :
    ∃ drive', after.drives[index]? = some drive' ∧ drive'.command = drive.command := by
  have replaced : ∀ {other : Nat} {old new : Drive}, before.drives[other]? = some old →
      new.command = old.command →
        ∃ drive', (before.drives.set other new)[index]? = some drive' ∧
          drive'.command = drive.command := by
    intro other old new isOld sameCommand
    by_cases same : index = other
    · rw [← same, isDrive] at isOld
      cases isOld
      rw [← same]
      exact ⟨new, at_set_same new isDrive, sameCommand⟩
    · exact ⟨drive, at_set_apart new same isDrive, rfl⟩
  cases step.effect with
  | drives was at' => exact ⟨drive, at_concat_of _ isDrive, rfl⟩
  | calls was inKernel | returns was inKernel | rejects was inKernel
  | advances was advances => exact replaced was rfl
  | _ => exact ⟨drive, isDrive, rfl⟩

theorem RunRuntime.Step.drives_length (step : RunRuntime.Step dates before move after) :
    before.drives.length ≤ after.drives.length := by
  cases step.effect with
  | drives was at' =>
    rw [List.length_append]
    exact Nat.le_add_right _ _
  | calls was inKernel | returns was inKernel | rejects was inKernel
  | advances was advances => exact Nat.le_of_eq List.length_set.symm
  | _ => exact Nat.le_refl _

theorem RunRuntime.Step.follows (step : RunRuntime.Step dates before move after) {call : RunCall}
    {answer : BeginAnswer} (follows : before.Follows call answer) : after.Follows call answer := by
  cases answer with
  | drive index =>
    obtain ⟨later, drive, isDrive, sameRun⟩ := follows
    obtain ⟨drive', isDrive', sameCommand⟩ := step.drive_kept isDrive
    exact ⟨later, drive', isDrive', by rw [sameCommand]; exact sameRun⟩
  | settled run outcome => exact follows
  | refused refusal => exact follows

theorem Begin.check_follows {runtime : RunRuntime} {current : RunView} {call : RunCall}
    {answer : BeginAnswer} (at' : begun.point = .got (some current))
    (unhindered : begun.Unhindered runtime.active)
    (isAnswer : begun.check runtime.active current = .answered answer) :
    runtime.Follows call answer := by
  unfold Begin.Unhindered at unhindered
  rw [at'] at unhindered
  dsimp only at unhindered
  unfold Begin.check at isAnswer
  cases isOutcome : current.outcome with
  | none =>
    rw [isOutcome] at isAnswer unhindered
    rcases unhindered with impossible | ⟨isFree, resumes⟩
    · cases impossible
    · rw [isFree] at isAnswer
      dsimp only at isAnswer
      have goesOn : ¬ (decide (current.status = .running) && !begun.allowRunning) = true := by
        rcases resumes with allowed | ⟨_, notRunning⟩
        · rw [allowed, Bool.not_true, Bool.and_false]
          exact Bool.false_ne_true
        · rw [decide_eq_false notRunning, Bool.false_and]
          exact Bool.false_ne_true
      rw [if_neg goesOn] at isAnswer
      cases isAnswer
  | some outcome =>
    rw [isOutcome] at isAnswer unhindered
    dsimp only at isAnswer
    by_cases settles : (!isSuspendedOutcome outcome || !begun.allowRunning) = true
    · rw [if_pos settles] at isAnswer
      cases isAnswer
      rcases unhindered with isFinal | ⟨_, allowed | ⟨impossible, _⟩⟩
      · exact (Bool.not_eq_true' _).mp isFinal
      · rw [allowed, Bool.not_true, Bool.or_false] at settles
        exact (Bool.not_eq_true' _).mp settles
      · cases impossible
    · rw [if_neg settles] at isAnswer
      rcases unhindered with isFinal | ⟨isFree, _⟩
      · have isFinal' : (!isSuspendedOutcome outcome) = true := isFinal
        rw [isFinal', Bool.true_or] at settles
        exact absurd rfl settles
      · rw [isFree] at isAnswer
        cases isAnswer

theorem RunRuntime.Step.waits (step : RunRuntime.Step dates before move after)
    (waits : before.Waits) (unhindered : before.Unhindered move) : after.Waits := by
  intro call isCall resumes
  have keeps : call ∈ before.calls → (∀ begun, before.begins[call.begun]? = some begun →
      ∃ begun', after.begins[call.begun]? = some begun' ∧ begun'.command = begun.command ∧
        ∀ answer, begun'.point = .answered answer →
          begun.point = .answered answer ∨ after.Follows call answer) →
      call.drivesBefore ≤ after.drives.length ∧
        ∃ begun, after.begins[call.begun]? = some begun ∧ begun.command.SameRun call.command ∧
          ∀ answer, begun.point = .answered answer → after.Follows call answer := by
    intro wasCall stays
    obtain ⟨early, begun, was, sameRun, follows⟩ := waits call wasCall resumes
    obtain ⟨begun', is, sameCommand, answered⟩ := stays begun was
    refine ⟨early.trans step.drives_length, begun', is, ?_, ?_⟩
    · rw [sameCommand]
      exact sameRun
    · intro answer isAnswer
      rcases answered answer isAnswer with wasAnswer | now
      · exact step.follows (follows answer wasAnswer)
      · exact now
  cases step.effect with
  | @joined command allowRunning index isOpen inFlight =>
    rcases List.mem_append.1 isCall with wasCall | isNew
    · exact keeps wasCall (fun begun was => ⟨begun, was, rfl, fun _ answered => Or.inl answered⟩)
    · rw [List.mem_singleton.1 isNew] at resumes ⊢
      obtain ⟨begun, was, unanswered, sameRun⟩ :=
        unhindered resumes.1 isOpen resumes.2 index inFlight
      refine ⟨Nat.le_refl _, begun, was, sameRun, ?_⟩
      intro answer isAnswer
      rw [isAnswer] at unanswered
      cases unanswered
  | @begins command allowRunning isOpen isFree =>
    rcases List.mem_append.1 isCall with wasCall | isNew
    · exact keeps wasCall (fun begun was =>
        ⟨begun, at_concat_of _ was, rfl, fun _ answered => Or.inl answered⟩)
    · rw [List.mem_singleton.1 isNew]
      refine ⟨Nat.le_refl _, .first command allowRunning, List.getElem?_concat_length,
        ⟨rfl, rfl⟩, ?_⟩
      intro answer isAnswer
      unfold Begin.first at isAnswer
      cases isParent : command.parentRunId with
      | none | some parentRunId =>
        rw [isParent] at isAnswer
        cases isAnswer
  | @goes index stamp begun store point was advances =>
    refine keeps isCall ?_
    intro old isOld
    by_cases same : call.begun = index
    · rw [same, was] at isOld
      cases isOld
      rw [same]
      refine ⟨_, at_set_same _ was, rfl, ?_⟩
      intro answer isAnswer
      dsimp only at isAnswer
      rw [isAnswer] at advances
      right
      have checked := unhindered ⟨call, isCall, same, resumes⟩ begun was
      generalize isNext : BeginMove.goes store (.answered answer) = next at advances
      cases advances with
      | lacksParent at' | conflicts at' | missing at' | refused at' | ended at' =>
        cases isNext
        exact nofun
      | checks at' =>
        injection isNext with _ isCheck
        exact step.follows (Begin.check_follows at' checked isCheck.symm)
      | _ => cases isNext
    · exact ⟨old, at_set_apart _ same isOld, rfl, fun _ answered => Or.inl answered⟩
  | @drives index stamp begun queued was at' =>
    refine keeps isCall ?_
    intro old isOld
    by_cases same : call.begun = index
    · obtain ⟨early, waiting, isWaiting, sameRun, _⟩ := waits call isCall resumes
      rw [same, was] at isOld isWaiting
      cases isOld
      cases isWaiting
      rw [same]
      refine ⟨_, at_set_same _ was, rfl, ?_⟩
      intro answer isAnswer
      cases isAnswer
      exact Or.inr ⟨early, .start begun.command, List.getElem?_concat_length, sameRun⟩
    · exact ⟨old, at_set_apart _ same isOld, rfl, fun _ answered => Or.inl answered⟩
  | _ =>
    exact keeps isCall (fun begun was => ⟨begun, was, rfl, fun _ answered => Or.inl answered⟩)

end Step

def resumeCleared : List RuntimeMove :=
  startDraft ++ askForInput ++ .call draftRun true ::
    List.replicate 7 (.beginStep 1 (stamped ""))

def resumeEarly : List RuntimeMove :=
  startDraft ++ [.kernelCall 0 office (.append (draftEvent "asked" 1 "run.awaiting_input")),
    .call draftRun true] ++ List.replicate 3 (.beginStep 1 (stamped ""))

end AnnaAgent.EventStore
