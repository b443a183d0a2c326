/-
The rate gate of the model calls (`concurrency.py`).

Seconds and tokens are exact rationals.  A caller of `acquire` goes through its phases in
events of their own, so that callers interleave at every point outside the lock; a reading
of the clock is the value an event carries.
-/

import Mathlib.Data.Rat.Defs
import Mathlib.Algebra.Order.Ring.Rat
import Mathlib.Algebra.Field.Rat
import Mathlib.Logic.Function.Basic
import AnnaAgent.Foundation.Run
import AnnaAgent.Foundation.TokenBucket

namespace AnnaAgent.Runtime

open Foundation

structure ModelCallBucket where
  callsPerMinute : Int
  tokens : ℚ
  updatedAt : ℚ
  deriving DecidableEq

namespace ModelCallBucket

def capacity (bucket : ModelCallBucket) : ℚ :=
  (max 1 bucket.callsPerMinute : Int)

def ratePerSecond (bucket : ModelCallBucket) : ℚ :=
  bucket.capacity / 60

/-- A bucket starts full. -/
def init (callsPerMinute : Int) (now : ℚ) : ModelCallBucket :=
  { callsPerMinute := callsPerMinute, tokens := (max 1 callsPerMinute : Int), updatedAt := now }

def refillLocked (bucket : ModelCallBucket) (now : ℚ) : ModelCallBucket :=
  let elapsed := max 0 (now - bucket.updatedAt)
  { bucket with
    tokens := min bucket.capacity (bucket.tokens + elapsed * bucket.ratePerSecond)
    updatedAt := now }

/-- What `try_acquire` and each round of `acquire` do under the lock. -/
def takeLocked (bucket : ModelCallBucket) (now : ℚ) : Bool × ModelCallBucket :=
  let filled := bucket.refillLocked now
  if 1 ≤ filled.tokens then (true, { filled with tokens := filled.tokens - 1 })
  else (false, filled)

def waitSeconds (bucket : ModelCallBucket) : ℚ :=
  (1 - bucket.tokens) / bucket.ratePerSecond

theorem one_le_capacity (bucket : ModelCallBucket) : 1 ≤ bucket.capacity := by
  have whole : (1 : Int) ≤ max 1 bucket.callsPerMinute := le_max_left _ _
  unfold capacity
  exact_mod_cast whole

def filling (bucket : ModelCallBucket) : Filling ℚ :=
  { capacity := bucket.capacity
    rate := bucket.ratePerSecond
    fits := bucket.one_le_capacity
    fills := by
      have whole := bucket.one_le_capacity
      unfold ratePerSecond
      linarith }

def level (bucket : ModelCallBucket) : Level ℚ :=
  { tokens := bucket.tokens, updatedAt := bucket.updatedAt }

theorem filling_eq {bucket other : ModelCallBucket}
    (same : bucket.callsPerMinute = other.callsPerMinute) : bucket.filling = other.filling := by
  rcases bucket with ⟨callsPerMinute, _, _⟩
  rcases other with ⟨_, _, _⟩
  cases same
  rfl

theorem takeLocked_check (bucket : ModelCallBucket) (now : ℚ) :
    (bucket.takeLocked now).1 = (bucket.filling.check bucket.level now).1 ∧
      (bucket.takeLocked now).2.level = (bucket.filling.check bucket.level now).2 ∧
      (bucket.takeLocked now).2.callsPerMinute = bucket.callsPerMinute := by
  unfold takeLocked Filling.check
  dsimp only
  by_cases whole : 1 ≤ (bucket.refillLocked now).tokens
  · have filled : 1 ≤ (bucket.filling.refill bucket.level now).tokens := whole
    rw [if_pos whole, if_pos filled]
    exact ⟨rfl, rfl, rfl⟩
  · have less : ¬1 ≤ (bucket.filling.refill bucket.level now).tokens := whole
    rw [if_neg whole, if_neg less]
    exact ⟨rfl, rfl, rfl⟩

end ModelCallBucket

/-- Where a caller stands in `acquire`. -/
inductive AcquirePhase where
  | outside
  | ready (deadline : Option ℚ)
  | refused (deadline : Option ℚ) (waitSeconds : ℚ)
  | sleeping (deadline : Option ℚ) (waitSeconds : ℚ)
  deriving DecidableEq

def afterRefusal (deadline : Option ℚ) (waitSeconds reading : ℚ) : AcquirePhase :=
  match deadline with
  | none => .sleeping none waitSeconds
  | some deadline =>
    let remaining := deadline - reading
    if remaining ≤ 0 then .outside else .sleeping (some deadline) (min waitSeconds remaining)

structure Callers (Caller : Type) where
  bucket : ModelCallBucket
  phase : Caller → AcquirePhase

inductive CallerEvent (Caller : Type) where
  | tried (caller : Caller) (now : ℚ) (admitted : Bool)
  | entered (caller : Caller) (timeout : Option ℚ) (reading : ℚ)
  | checked (caller : Caller) (now : ℚ) (admitted : Bool)
  | parked (caller : Caller) (reading : ℚ)
  | woke (caller : Caller)

/-- The reading under the lock and the answer, of an event that takes the lock. -/
def CallerEvent.locked? {Caller : Type} : CallerEvent Caller → Option (ℚ × Bool)
  | .tried _ now admitted => some (now, admitted)
  | .checked _ now admitted => some (now, admitted)
  | .entered .. | .parked .. | .woke .. => none

namespace Callers

variable {Caller : Type} [DecidableEq Caller]

def init (callsPerMinute : Int) (now : ℚ) : Callers Caller :=
  { bucket := .init callsPerMinute now, phase := fun _ => .outside }

def moved (callers : Callers Caller) (caller : Caller) (phase : AcquirePhase) : Callers Caller :=
  { callers with phase := Function.update callers.phase caller phase }

/-- One event; `none` when the caller is not at that point, or the answer is another. -/
def advance (callers : Callers Caller) : CallerEvent Caller → Option (Callers Caller)
  | .tried caller now admitted =>
    if callers.phase caller = .outside ∧ (callers.bucket.takeLocked now).1 = admitted then
      some { callers with bucket := (callers.bucket.takeLocked now).2 }
    else none
  | .entered caller timeout reading =>
    if callers.phase caller = .outside then
      some (callers.moved caller (.ready (timeout.map (fun seconds => reading + seconds))))
    else none
  | .checked caller now admitted =>
    match callers.phase caller with
    | .ready deadline =>
      if (callers.bucket.takeLocked now).1 = admitted then
        let taken := { callers with bucket := (callers.bucket.takeLocked now).2 }
        some (taken.moved caller
          (if admitted then .outside else .refused deadline taken.bucket.waitSeconds))
      else none
    | _ => none
  | .parked caller reading =>
    match callers.phase caller with
    | .refused deadline waitSeconds =>
      some (callers.moved caller (afterRefusal deadline waitSeconds reading))
    | _ => none
  | .woke caller =>
    match callers.phase caller with
    | .sleeping deadline _ => some (callers.moved caller (.ready deadline))
    | _ => none

def Step (before : Callers Caller) (event : CallerEvent Caller) (after : Callers Caller) : Prop :=
  before.advance event = some after

/-- The readings under the lock and their answers, along a run. -/
def lockedChecks (trace : List (Move (Callers Caller) (CallerEvent Caller))) : List (ℚ × Bool) :=
  trace.filterMap (fun move => move.label.locked?)

/-- The readings of the clock under the lock never decrease. -/
def Ordered (trace : List (Move (Callers Caller) (CallerEvent Caller))) : Prop :=
  ((lockedChecks trace).map Prod.fst).Pairwise (· ≤ ·)

variable {before after first last : Callers Caller} {caller : Caller} {event : CallerEvent Caller}

theorem step_bucket (step : Step before event after) :
    (event.locked? = none ∧ after.bucket = before.bucket) ∨
      ∃ now, event.locked? = some (now, (before.bucket.takeLocked now).1) ∧
        after.bucket = (before.bucket.takeLocked now).2 := by
  unfold Step at step
  cases event with
  | tried caller now admitted =>
    right
    simp only [advance] at step
    split at step
    · rename_i taken
      cases step
      refine ⟨now, ?_, rfl⟩
      rw [taken.2]
      rfl
    · cases step
  | entered caller timeout reading | parked caller reading | woke caller =>
    left
    simp only [advance] at step
    split at step
    · cases step
      exact ⟨rfl, rfl⟩
    · cases step
  | checked caller now admitted =>
    right
    simp only [advance] at step
    split at step
    · split at step
      · rename_i taken
        cases step
        refine ⟨now, ?_, rfl⟩
        rw [taken]
        rfl
      · cases step
    · cases step

variable {trace : List (Move (Callers Caller) (CallerEvent Caller))}

theorem run_callsPerMinute (run : Run Step first trace last) :
    last.bucket.callsPerMinute = first.bucket.callsPerMinute := by
  apply run.invariant (fun callers => callers.bucket.callsPerMinute = first.bucket.callsPerMinute)
  · intro before event after step same
    rcases step_bucket step with ⟨_, unchanged⟩ | ⟨now, _, taken⟩
    · rw [unchanged]
      exact same
    · rw [taken, (before.bucket.takeLocked_check now).2.2]
      exact same
  · rfl

theorem run_checks (run : Run Step first trace last) :
    lockedChecks trace =
        first.bucket.filling.checks first.bucket.level ((lockedChecks trace).map Prod.fst) ∧
      last.bucket.level =
        first.bucket.filling.levelAfter first.bucket.level ((lockedChecks trace).map Prod.fst) := by
  induction run with
  | nil callers => exact ⟨rfl, rfl⟩
  | @cons first middle last event rest step later ih =>
    rcases step_bucket step with ⟨unlocked, unchanged⟩ | ⟨now, locked, taken⟩
    · have skipped : lockedChecks (⟨first, event, middle⟩ :: rest) = lockedChecks rest :=
        List.filterMap_cons_none unlocked
      rw [skipped, ← unchanged]
      exact ih
    · have counted : lockedChecks (⟨first, event, middle⟩ :: rest) =
          (now, (first.bucket.takeLocked now).1) :: lockedChecks rest :=
        List.filterMap_cons_some locked
      rcases first.bucket.takeLocked_check now with ⟨answer, level, same⟩
      rw [taken, ModelCallBucket.filling_eq same, level] at ih
      rw [counted, answer, List.map_cons]
      exact ⟨congrArg (List.cons _) ih.1, ih.2⟩

/-! ### The phases of a caller -/

/-- The phases from a refusal to the next check, of a caller without a deadline. -/
def Waiting (waitSeconds : ℚ) (phase : AcquirePhase) : Prop :=
  phase = .refused none waitSeconds ∨ phase = .sleeping none waitSeconds ∨ phase = .ready none

theorem moved_self (callers : Callers Caller) (caller : Caller) (phase : AcquirePhase) :
    (callers.moved caller phase).phase caller = phase :=
  Function.update_self _ _ _

theorem moved_other (callers : Callers Caller) {other : Caller} (phase : AcquirePhase)
    (apart : other ≠ caller) : (callers.moved caller phase).phase other = callers.phase other :=
  Function.update_of_ne apart _ _

theorem waiting_step {waitSeconds : ℚ} (step : Step before event after)
    (unchecked : ∀ now admitted, event ≠ .checked caller now admitted)
    (waiting : Waiting waitSeconds (before.phase caller)) :
    Waiting waitSeconds (after.phase caller) := by
  have inside : before.phase caller ≠ .outside := by
    intro outside
    rw [outside] at waiting
    rcases waiting with impossible | impossible | impossible
    · cases impossible
    · cases impossible
    · cases impossible
  unfold Step at step
  cases event with
  | tried other now admitted =>
    simp only [advance] at step
    split at step
    · cases step
      exact waiting
    · cases step
  | entered other timeout reading =>
    simp only [advance] at step
    split at step
    · rename_i outside
      cases step
      have apart : caller ≠ other := by
        intro same
        rw [← same] at outside
        exact inside outside
      rw [moved_other _ _ apart]
      exact waiting
    · cases step
  | checked other now admitted =>
    have apart : caller ≠ other := by
      intro same
      rw [same] at unchecked
      exact unchecked now admitted rfl
    simp only [advance] at step
    split at step
    · split at step
      · cases step
        rw [moved_other _ _ apart]
        exact waiting
      · cases step
    · cases step
  | parked other reading =>
    simp only [advance] at step
    split at step
    · rename_i deadline seconds refused
      cases step
      by_cases same : caller = other
      · rw [same, moved_self]
        rw [same, refused] at waiting
        rcases waiting with isRefused | impossible | impossible
        · cases isRefused
          exact Or.inr (Or.inl rfl)
        · cases impossible
        · cases impossible
      · rw [moved_other _ _ same]
        exact waiting
    · cases step
  | woke other =>
    simp only [advance] at step
    split at step
    · rename_i deadline seconds sleeping
      cases step
      by_cases same : caller = other
      · rw [same, moved_self]
        rw [same, sleeping] at waiting
        rcases waiting with impossible | isSleeping | impossible
        · cases impossible
        · cases isSleeping
          exact Or.inr (Or.inr rfl)
        · cases impossible
      · rw [moved_other _ _ same]
        exact waiting
    · cases step

/-- A caller that is refused, sleeps and checks again, while nobody else is admitted. -/
structure Retried (trace : List (Move (Callers Caller) (CallerEvent Caller)))
    (caller : Caller) where
  early : List (Move (Callers Caller) (CallerEvent Caller))
  refusal : Move (Callers Caller) (CallerEvent Caller)
  middle : List (Move (Callers Caller) (CallerEvent Caller))
  retry : Move (Callers Caller) (CallerEvent Caller)
  late : List (Move (Callers Caller) (CallerEvent Caller))
  now : ℚ
  deadline : Option ℚ
  waitSeconds : ℚ
  park : Move (Callers Caller) (CallerEvent Caller)
  slept : ℚ
  later : ℚ
  admitted : Bool
  split : trace = early ++ refusal :: (middle ++ retry :: late)
  isRefusal : refusal.label = .checked caller now false
  isRefused : refusal.after.phase caller = .refused deadline waitSeconds
  next : ∀ move ∈ middle, ∀ now admitted, move.label ≠ .checked caller now admitted
  alone : ∀ answered ∈ lockedChecks middle, answered.2 = false
  isPark : park ∈ middle
  sleeps : park.after.phase caller = .sleeping deadline slept
  isRetry : retry.label = .checked caller later admitted
  awake : now + slept ≤ later

theorem refused_step {now : ℚ} (step : Step before (.checked caller now false) after) :
    (before.bucket.takeLocked now).1 = false ∧
      after.bucket = (before.bucket.takeLocked now).2 ∧
      ∃ deadline, after.phase caller = .refused deadline after.bucket.waitSeconds := by
  simp only [Step, advance] at step
  split at step
  · rename_i deadline ready
    split at step
    · rename_i refused
      cases step
      exact ⟨refused, rfl, deadline, moved_self _ _ _⟩
    · cases step
  · cases step

theorem takeLocked_updatedAt (bucket : ModelCallBucket) (now : ℚ) :
    (bucket.takeLocked now).2.updatedAt = now := by
  have read := congrArg Level.updatedAt (bucket.takeLocked_check now).2.1
  rw [Filling.check_updatedAt] at read
  exact read

omit [DecidableEq Caller] in
theorem lockedChecks_append (early late : List (Move (Callers Caller) (CallerEvent Caller))) :
    lockedChecks (early ++ late) = lockedChecks early ++ lockedChecks late :=
  List.filterMap_append

omit [DecidableEq Caller] in
theorem lockedChecks_cons {move : Move (Callers Caller) (CallerEvent Caller)}
    {locked : ℚ × Bool} (isLocked : move.label.locked? = some locked)
    (later : List (Move (Callers Caller) (CallerEvent Caller))) :
    lockedChecks (move :: later) = locked :: lockedChecks later :=
  List.filterMap_cons_some isLocked

theorem Retried.slept_eq (retried : Retried trace caller) (run : Run Step first trace last)
    (undated : retried.deadline = none) : retried.slept = retried.waitSeconds := by
  rw [retried.split] at run
  rcases run.around.2.2.split with ⟨_, middle, _⟩
  obtain ⟨before, behind, isMiddle⟩ := List.append_of_mem retried.isPark
  rw [isMiddle] at middle
  have waiting : Waiting retried.waitSeconds (retried.refusal.after.phase caller) := by
    rw [retried.isRefused, undated]
    exact Or.inl rfl
  have atPark := middle.around.1.keeps
    (fun callers => Waiting retried.waitSeconds (callers.phase caller))
    (by
      intro move member step held
      apply waiting_step step _ held
      apply retried.next
      rw [isMiddle]
      exact List.mem_append_left _ member) waiting
  have parked := waiting_step middle.around.2.1 (retried.next _ retried.isPark) atPark
  rw [retried.sleeps, undated] at parked
  rcases parked with impossible | isSleeping | impossible
  · cases impossible
  · exact (AcquirePhase.sleeping.inj isSleeping).2
  · cases impossible

theorem Retried.admitted_of_waited (retried : Retried trace caller)
    (run : Run Step first trace last) (ordered : Ordered trace)
    (waited : retried.now + retried.waitSeconds ≤ retried.later) : retried.admitted = true := by
  rw [retried.split] at run ordered
  have refusal := run.around.2.1
  rw [retried.isRefusal] at refusal
  rcases refused_step refusal with ⟨refused, bucket, deadline, isRefused⟩
  have isWait : retried.waitSeconds = retried.refusal.after.bucket.waitSeconds := by
    rw [retried.isRefused] at isRefused
    exact (AcquirePhase.refused.inj isRefused).2
  have readAt : retried.refusal.after.bucket.level.updatedAt = retried.now := by
    change retried.refusal.after.bucket.updatedAt = _
    rw [bucket]
    exact takeLocked_updatedAt _ _
  have middle := run.around.2.2.around.1
  have retry := run.around.2.2.around.2.1
  rw [retried.isRetry] at retry
  have readings : lockedChecks (retried.early ++ retried.refusal ::
      (retried.middle ++ retried.retry :: retried.late)) =
      lockedChecks retried.early ++ (retried.now, false) ::
        (lockedChecks retried.middle ++ (retried.later, retried.admitted) ::
          lockedChecks retried.late) := by
    rw [lockedChecks_append, lockedChecks_cons (by rw [retried.isRefusal]; rfl),
      lockedChecks_append, lockedChecks_cons (by rw [retried.isRetry]; rfl)]
  have onwards : (retried.refusal.after.bucket.level.updatedAt ::
      ((lockedChecks retried.middle).map Prod.fst ++ [retried.later])).Pairwise (· ≤ ·) := by
    unfold Ordered at ordered
    rw [readings, List.map_append, List.map_cons, List.map_append, List.map_cons] at ordered
    have fromRefusal := (List.pairwise_append.mp ordered).2.1
    have shorter : (retried.now :: ((lockedChecks retried.middle).map Prod.fst ++
        [retried.later])).Sublist (retried.now :: ((lockedChecks retried.middle).map Prod.fst ++
          retried.later :: (lockedChecks retried.late).map Prod.fst)) := by
      apply List.Sublist.cons_cons
      apply List.Sublist.append_left
      exact List.Sublist.cons_cons _ (List.nil_sublist _)
    rw [readAt]
    exact List.Pairwise.sublist shorter fromRefusal
  rcases run_checks middle with ⟨answers, level⟩
  have taken := Filling.check_of_waited retried.refusal.after.bucket.filling onwards
    (by
      rw [← answers]
      exact retried.alone)
    (by
      rw [readAt]
      rw [isWait] at waited
      exact waited)
  rw [← level, ModelCallBucket.filling_eq (run_callsPerMinute middle).symm,
    ← (retried.retry.before.bucket.takeLocked_check retried.later).1] at taken
  rcases step_bucket retry with ⟨unlocked, _⟩ | ⟨now, locked, _⟩
  · cases unlocked
  · have same := Prod.mk.inj (Option.some.inj locked)
    rw [same.2, ← same.1]
    exact taken

/-- In every run of the callers of one bucket the tokens stay between nothing and the
capacity, every window admits at most the capacity and what its seconds bring, and a
caller that sleeps its wait while nobody else is admitted is admitted next, unless its
timeout cut the wait short. -/
theorem model_call_rate (callsPerMinute : Int) (startedAt : ℚ) {last : Callers Caller}
    {trace : List (Move (Callers Caller) (CallerEvent Caller))}
    (run : Run Step (init callsPerMinute startedAt) trace last) (ordered : Ordered trace) :
    (0 ≤ last.bucket.tokens ∧ last.bucket.tokens ≤ (max 1 callsPerMinute : Int)) ∧
    (∀ start finish, start ≤ finish →
      (Filling.admissions (lockedChecks trace) start finish : ℚ) ≤
        (max 1 callsPerMinute : Int) + (finish - start) * ((max 1 callsPerMinute : Int) / 60)) ∧
    (∀ (caller : Caller) (retried : Retried trace caller),
      (retried.deadline = none ∨ retried.waitSeconds ≤ retried.slept) →
        retried.admitted = true) := by
  have within : (ModelCallBucket.init callsPerMinute startedAt).level.Within
      (ModelCallBucket.init callsPerMinute startedAt).filling := by
    constructor
    · have whole := (ModelCallBucket.init callsPerMinute startedAt).one_le_capacity
      change (0 : ℚ) ≤ (ModelCallBucket.init callsPerMinute startedAt).capacity
      linarith
    · exact le_refl _
  rcases run_checks run with ⟨answers, level⟩
  refine ⟨?_, ?_, ?_⟩
  · have ends := Filling.levelAfter_within within ((lockedChecks trace).map Prod.fst)
    change Level.Within _ (Filling.levelAfter (init callsPerMinute startedAt : Callers Caller).bucket.filling
      (init callsPerMinute startedAt : Callers Caller).bucket.level _) at ends
    rw [← level] at ends
    exact ⟨ends.nonneg, ends.capped⟩
  · intro start finish window
    have bound := Filling.admissions_le within ordered window
    change (Filling.admissions (Filling.checks (init callsPerMinute startedAt : Callers Caller).bucket.filling
      (init callsPerMinute startedAt : Callers Caller).bucket.level _) start finish : ℚ) ≤ _ at bound
    rw [← answers] at bound
    exact bound
  · intro caller retried uncut
    apply retried.admitted_of_waited run ordered
    have awake := retried.awake
    rcases uncut with undated | whole
    · rw [← retried.slept_eq run undated]
      exact awake
    · linarith

def emptyAt (now : ℚ) : ModelCallBucket :=
  { callsPerMinute := 1, tokens := 0, updatedAt := now }

def sampleCallers (bucket : ModelCallBucket) (phase : AcquirePhase) : Callers Unit :=
  { bucket := bucket, phase := fun _ => phase }

theorem sampleCallers_moved (bucket : ModelCallBucket) (phase next : AcquirePhase) :
    (sampleCallers bucket phase).moved () next = sampleCallers bucket next := by
  have same : Function.update (fun _ : Unit => phase) () next = fun _ => next := by
    funext caller
    cases caller
    exact dif_pos rfl
  exact congrArg (Callers.mk bucket) same

def sampleRetry (deadline : Option ℚ) (slept later : ℚ) (admitted : Bool)
    (left : ModelCallBucket) : List (Move (Callers Unit) (CallerEvent Unit)) :=
  let empty := sampleCallers (emptyAt 0)
  [⟨sampleCallers (.init 1 0) .outside, .tried () 0 true, empty .outside⟩,
   ⟨empty .outside, .entered () deadline 0, empty (.ready deadline)⟩,
   ⟨empty (.ready deadline), .checked () 0 false, empty (.refused deadline 60)⟩,
   ⟨empty (.refused deadline 60), .parked () 0, empty (.sleeping deadline slept)⟩,
   ⟨empty (.sleeping deadline slept), .woke (), empty (.ready deadline)⟩,
   ⟨empty (.ready deadline), .checked () later admitted,
    sampleCallers left (if admitted then .outside else .refused deadline left.waitSeconds)⟩]

theorem sampleRetry_run {deadline : Option ℚ} {slept later : ℚ} {admitted : Bool}
    {left : ModelCallBucket} (sleeps : afterRefusal deadline 60 0 = .sleeping deadline slept)
    (taken : (emptyAt 0).takeLocked later = (admitted, left)) :
    Run Step (init 1 0) (sampleRetry deadline slept later admitted left)
      (sampleCallers left
        (if admitted then .outside else .refused deadline left.waitSeconds)) := by
  have first : (ModelCallBucket.init 1 0).takeLocked 0 = (true, emptyAt 0) := by
    decide +kernel
  have second : (emptyAt 0).takeLocked 0 = (false, emptyAt 0) := by
    decide +kernel
  have wait : (emptyAt 0).waitSeconds = 60 := by
    decide +kernel
  have phaseOf : ∀ (bucket : ModelCallBucket) (phase : AcquirePhase),
      (sampleCallers bucket phase).phase () = phase := fun _ _ => rfl
  have bucketOf : ∀ (bucket : ModelCallBucket) (phase : AcquirePhase),
      (sampleCallers bucket phase).bucket = bucket := fun _ _ => rfl
  have withBucket : ∀ (bucket next : ModelCallBucket) (phase : AcquirePhase),
      { sampleCallers bucket phase with bucket := next } = sampleCallers next phase :=
    fun _ _ _ => rfl
  have start : (init 1 0 : Callers Unit) = sampleCallers (.init 1 0) .outside := rfl
  rw [start]
  refine .cons ?_ (.cons ?_ (.cons ?_ (.cons ?_ (.cons ?_ (.cons ?_ (.nil _))))))
  · simp only [Step, advance, phaseOf, bucketOf, first, withBucket, and_self, if_true]
  · simp [Step, advance, phaseOf, sampleCallers_moved]
  · simp [Step, advance, phaseOf, bucketOf, second, withBucket, sampleCallers_moved, wait]
  · simp only [Step, advance, phaseOf, sampleCallers_moved, sleeps]
  · simp only [Step, advance, phaseOf, sampleCallers_moved]
  · simp only [Step, advance, phaseOf, bucketOf, taken, if_true, withBucket, sampleCallers_moved]

theorem sampleRetry_ordered {deadline : Option ℚ} {slept later : ℚ} {admitted : Bool}
    {left : ModelCallBucket} (onward : 0 ≤ later) :
    Ordered (sampleRetry deadline slept later admitted left) := by
  change ([0, 0, later] : List ℚ).Pairwise (· ≤ ·)
  simp [onward]

def sampleRetried (deadline : Option ℚ) (slept later : ℚ) (admitted : Bool)
    (left : ModelCallBucket) (awake : slept ≤ later) :
    Retried (sampleRetry deadline slept later admitted left) () where
  early :=
    let empty := sampleCallers (emptyAt 0)
    [⟨sampleCallers (.init 1 0) .outside, .tried () 0 true, empty .outside⟩,
     ⟨empty .outside, .entered () deadline 0, empty (.ready deadline)⟩]
  refusal :=
    let empty := sampleCallers (emptyAt 0)
    ⟨empty (.ready deadline), .checked () 0 false, empty (.refused deadline 60)⟩
  middle :=
    let empty := sampleCallers (emptyAt 0)
    [⟨empty (.refused deadline 60), .parked () 0, empty (.sleeping deadline slept)⟩,
     ⟨empty (.sleeping deadline slept), .woke (), empty (.ready deadline)⟩]
  retry :=
    let empty := sampleCallers (emptyAt 0)
    ⟨empty (.ready deadline), .checked () later admitted,
      sampleCallers left (if admitted then .outside else .refused deadline left.waitSeconds)⟩
  late := []
  now := 0
  deadline := deadline
  waitSeconds := 60
  park :=
    let empty := sampleCallers (emptyAt 0)
    ⟨empty (.refused deadline 60), .parked () 0, empty (.sleeping deadline slept)⟩
  slept := slept
  later := later
  admitted := admitted
  split := rfl
  isRefusal := rfl
  isRefused := rfl
  next := by
    intro move member now admitted isCheck
    rcases List.mem_cons.mp member with isParked | inRest
    · rw [isParked] at isCheck
      cases isCheck
    · rw [List.mem_singleton.mp inRest] at isCheck
      cases isCheck
  alone := by
    intro answered member
    cases member
  isPark := List.mem_cons_self
  sleeps := rfl
  isRetry := rfl
  awake := by
    rw [zero_add]
    exact awake

/-- A caller that sleeps a minute for the one call of a minute is admitted. -/
theorem retry_after_minute :
    ((sampleRetried none 60 60 true (emptyAt 60) (le_refl 60)).admitted = true) ∧
      (Filling.admissions (lockedChecks (sampleRetry none 60 60 true (emptyAt 60))) 0 60 ≤
        2) := by
  have run : Run Step (init 1 0) (sampleRetry none 60 60 true (emptyAt 60)) _ :=
    sampleRetry_run rfl (by decide +kernel)
  rcases model_call_rate 1 0 run (sampleRetry_ordered (by norm_num)) with ⟨_, window, admitted⟩
  constructor
  · exact admitted () (sampleRetried none 60 60 true (emptyAt 60) (le_refl 60)) (Or.inl rfl)
  · have bound := window 0 60 (by norm_num)
    norm_num at bound
    exact bound

/-- A timeout cuts the sleep short, and the next check is refused. -/
theorem retry_cut_short :
    ¬ ∀ (callsPerMinute : Int) (startedAt : ℚ) (last : Callers Unit)
      (trace : List (Move (Callers Unit) (CallerEvent Unit))),
      Run Step (init callsPerMinute startedAt) trace last → Ordered trace →
        ∀ retried : Retried trace (), retried.admitted = true := by
  intro admitted
  have taken : (emptyAt 0).takeLocked 1 =
      (false, { callsPerMinute := 1, tokens := 1 / 60, updatedAt := 1 }) := by
    decide +kernel
  have sleeps : afterRefusal (some 1) 60 0 = .sleeping (some 1) 1 := by
    decide +kernel
  have isAdmitted := admitted 1 0 _ _ (sampleRetry_run sleeps taken)
    (sampleRetry_ordered (by norm_num)) (sampleRetried (some 1) 1 1 false _ (le_refl 1))
  cases isAdmitted

end Callers

end AnnaAgent.Runtime
