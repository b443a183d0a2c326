/-
What `recover` does with an orphan.

An orphan is an occurrence of an active schedule that an instance has claimed
without coming to its execution claim.  `recover` looks only at the latest due
instant of each schedule and takes an occurrence over only under the policy
`run_latest`, so whether it reaches an orphan depends on the policy and on the
time of the recovery; every other iteration leaves the orphan as it is.
-/

import AnnaAgent.Foundation.Solo
import AnnaAgent.Scheduler.AtMostOnce

namespace AnnaAgent.Scheduler

open Foundation EventStore SqliteScopedChannelStore SchedulerService

def Notified (store : Store) (scheduleId : ScheduleId) (id : OccurrenceId) : Prop :=
  ∃ row ∈ store.scheduleNotifications.rows, row.scheduleId = scheduleId ∧ row.occurrenceId = id

/-- An occurrence that is recorded as `row`, with its lease and whether it has
a notification. -/
structure Standing (schedule : ScheduleRecord) (row : ScheduleOccurrence)
    (lease : Option RecoveryLease) (notified : Prop) (store : Store) : Prop where
  due : store.findDue schedule.id row.dueAt = some row
  stored : store.schedules.find? schedule.id = some schedule
  leased : store.scheduleOccurrenceRecoveryLeases.find? row.id = lease
  notifies : Notified store schedule.id row.id ↔ notified

/-- The requests that touch neither the schedules nor the occurrence. -/
def Beside (row : ScheduleOccurrence) : Request → Prop
  | .createSchedule _ => False
  | .cancelSchedule _ _ => False
  | .claimScheduleOccurrenceRecovery occurrence _ => occurrence.id ≠ row.id
  | .claimScheduleOccurrenceExecution occurrence _ => occurrence.id ≠ row.id
  | .recordScheduleNotification notification => notification.occurrenceId ≠ row.id
  | _ => True

variable {claim : ScheduleOccurrenceClaim}

section Stored

variable {schedule : ScheduleRecord} {row : ScheduleOccurrence} {lease : Option RecoveryLease}
  {notified : Prop} {store store' : Store} {dates : Dates} {scope : ChannelScope}
  {candidate : ScheduleOccurrence}

theorem insertOccurrence_eq (inserted : store.insertOccurrence candidate = .ok store') :
    ∃ occurrences, store' = { store with scheduleOccurrences := occurrences } := by
  unfold insertOccurrence at inserted
  split at inserted
  · cases inserted
  · split at inserted
    · cases inserted
      exact ⟨_, rfl⟩
    · cases inserted

theorem standing_insertOccurrence (standing : Standing schedule row lease notified store)
    (inserted : store.insertOccurrence candidate = .ok store') :
    Standing schedule row lease notified store' := by
  have found := findDue_insertOccurrence inserted schedule.id row.dueAt
  rw [standing.due, Option.some_or] at found
  rcases insertOccurrence_eq inserted with ⟨occurrences, isAfter⟩
  subst isAfter
  exact ⟨found, standing.stored, standing.leased, standing.notifies⟩

variable {occurrence : ScheduleOccurrence}

theorem standing_claim (standing : Standing schedule row lease notified store)
    (claimed : store.claimScheduleOccurrence dates scope occurrence = .ok (claim, store')) :
    Standing schedule row lease notified store' := by
  obtain ⟨candidate, _, claimed⟩ := bind_ok claimed
  obtain ⟨_, _, claimed⟩ := bind_ok claimed
  split at claimed
  · cases claimed
    exact standing
  · split at claimed
    · cases claimed
      exact standing
    · obtain ⟨inserted, isInserted, claimed⟩ := bind_ok claimed
      cases claimed
      exact standing_insertOccurrence standing isInserted

theorem standing_skip {skipped : Bool} (standing : Standing schedule row lease notified store)
    (skips : store.skipScheduleOccurrence dates scope occurrence = .ok (skipped, store')) :
    Standing schedule row lease notified store' := by
  obtain ⟨candidate, _, skips⟩ := bind_ok skips
  obtain ⟨_, _, skips⟩ := bind_ok skips
  split at skips
  · cases skips
    exact standing
  · split at skips
    · cases skips
      exact standing
    · obtain ⟨inserted, isInserted, skips⟩ := bind_ok skips
      cases skips
      exact standing_insertOccurrence standing isInserted

variable {ownerId : String}

theorem recoveryClaim_cases {now : Int} {leased : Bool}
    (claimed : store.claimScheduleOccurrenceRecovery dates scope now occurrence ownerId = .ok (leased, store')) :
    (leased = false ∧ store' = store ∧ ∃ lease,
        store.scheduleOccurrenceRecoveryLeases.find? occurrence.id = some lease ∧
          now - lease.claimedAt < 60000) ∨
      (leased = true ∧ ∃ leases,
        store' = { store with scheduleOccurrenceRecoveryLeases := leases } ∧
          leases.find? occurrence.id =
            some { occurrenceId := occurrence.id, claimedAt := now, ownerId } ∧
          ∀ id, id ≠ occurrence.id →
            leases.find? id = store.scheduleOccurrenceRecoveryLeases.find? id) := by
  obtain ⟨candidate, isCandidate, claimed⟩ := bind_ok claimed
  obtain ⟨_, _, claimed⟩ := bind_ok claimed
  rw [parseScheduleOccurrence_eq isCandidate] at claimed
  split at claimed
  · rename_i old found
    split at claimed
    · rename_i fresh
      cases claimed
      exact Or.inl ⟨rfl, rfl, old, found, fresh⟩
    · cases claimed
      refine Or.inr ⟨rfl, _, rfl, ?_, ?_⟩
      · rw [Table.find?_update, found, Option.map_some, if_pos (Table.find?_key found)]
        have sameId : old.occurrenceId = occurrence.id := Table.find?_key found
        rw [sameId]
      · intro id other
        rw [Table.find?_update]
        cases held : store.scheduleOccurrenceRecoveryLeases.find? id with
        | none => rfl
        | some lease =>
          have sameId : lease.occurrenceId = id := Table.find?_key held
          rw [Option.map_some, if_neg (sameId ▸ other)]
  · rename_i absent
    split at claimed
    · rename_i leases inserted
      cases claimed
      refine Or.inr ⟨rfl, leases, rfl, ?_, ?_⟩
      · rw [Table.find?_insert? inserted, if_pos rfl]
      · intro id other
        rw [Table.find?_insert? inserted, if_neg (Ne.symm other)]
    · cases claimed

section

variable (standing : Standing schedule row lease notified store)

include standing

theorem standing_recoveryClaim {now : Int} {leased : Bool} (other : occurrence.id ≠ row.id)
    (claimed : store.claimScheduleOccurrenceRecovery dates scope now occurrence ownerId = .ok (leased, store')) :
    Standing schedule row lease notified store' := by
  rcases recoveryClaim_cases claimed with ⟨_, isAfter, _⟩ | ⟨_, leases, isAfter, _, others⟩
  · rw [isAfter]
    exact standing
  · subst isAfter
    exact ⟨standing.due, standing.stored, (others row.id (Ne.symm other)).trans standing.leased,
      standing.notifies⟩

theorem standing_executionClaim {now : Int} {executing : Bool} (other : occurrence.id ≠ row.id)
    (claimed : store.claimScheduleOccurrenceExecution dates scope now occurrence ownerId = .ok (executing, store')) :
    Standing schedule row lease notified store' := by
  cases executing with
  | false =>
    rw [claimScheduleOccurrenceExecution_false claimed]
    exact standing
  | true =>
    rcases claimScheduleOccurrenceExecution_true claimed with
      ⟨existing, _, _, isAfter⟩
    subst isAfter
    refine ⟨?_, standing.stored, standing.leased, standing.notifies⟩
    rw [findDue_setStatus, standing.due, Option.map_some, if_neg (Ne.symm other)]

theorem standing_notification {notification result : ScheduleNotification}
    (other : notification.occurrenceId ≠ row.id)
    (records : store.recordScheduleNotification dates scope notification = .ok (result, store')) :
    Standing schedule row lease notified store' := by
  obtain ⟨candidate, isCandidate, records⟩ := bind_ok records
  obtain ⟨_, _, records⟩ := bind_ok records
  have isNotification : candidate.occurrenceId = notification.occurrenceId := by
    obtain ⟨id, _, isCandidate⟩ := bind_ok isCandidate
    obtain ⟨scheduleId, _, isCandidate⟩ := bind_ok isCandidate
    obtain ⟨occurrenceId, isOccurrenceId, isCandidate⟩ := bind_ok isCandidate
    obtain ⟨runId, _, isCandidate⟩ := bind_ok isCandidate
    obtain ⟨trigger, _, isCandidate⟩ := bind_ok isCandidate
    obtain ⟨audience, _, isCandidate⟩ := bind_ok isCandidate
    obtain ⟨createdAt, _, isCandidate⟩ := bind_ok isCandidate
    obtain ⟨workspaceId, _, isCandidate⟩ := bind_ok isCandidate
    obtain ⟨channelId, _, isCandidate⟩ := bind_ok isCandidate
    cases isCandidate
    exact expectNonEmptyString_eq isOccurrenceId
  repeat' split at records
  all_goals cases records
  · exact standing
  · rename_i inserted _
    refine ⟨standing.due, standing.stored, standing.leased, ?_⟩
    rw [← standing.notifies]
    unfold Notified
    rw [Table.insert?_rows inserted]
    constructor
    · rintro ⟨entry, member, sameSchedule, sameId⟩
      rcases List.mem_append.1 member with old | isNew
      · exact ⟨entry, old, sameSchedule, sameId⟩
      · rw [List.mem_singleton.1 isNew] at sameId
        exact absurd (isNotification ▸ sameId) other
    · rintro ⟨entry, member, same⟩
      exact ⟨entry, List.mem_append_left _ member, same⟩

theorem standing_append {event : CanonicalEvent LifecyclePayload} {appended : Bool}
    (appends : store.appendIdempotent dates scope event = .ok (appended, store')) :
    Standing schedule row lease notified store' := by
  obtain ⟨candidate, _, appends⟩ := bind_ok appends
  obtain ⟨_, _, appends⟩ := bind_ok appends
  repeat' split at appends
  all_goals cases appends
  · exact standing
  · exact ⟨standing.due, standing.stored, standing.leased, standing.notifies⟩

end

end Stored

variable {deployment : Deployment} {id : InstanceId}

def answers (deployment : Deployment) (id : InstanceId) (env : Env) (world : World)
    (request : Request) : Except Thrown request.Response × World :=
  perform deployment env id world request

abbrev Finished {α : Type} (deployment : Deployment) (id : InstanceId) (program : Async α)
    (before : World) (asked : List (Asked Env Request)) (outcome : Except Thrown α)
    (after : World) : Prop :=
  Finishes (answers deployment id) program before asked outcome after

variable {request : Request}

section Beside

variable {schedule : ScheduleRecord} {row : ScheduleOccurrence} {lease : Option RecoveryLease}
  {notified : Prop} {world : World}

theorem transact_standing {α : Type} {body : Store → Except Thrown (α × Store)}
    (standing : Standing schedule row lease notified world.store)
    (keeps : ∀ value store', body world.store = .ok (value, store') →
      Standing schedule row lease notified store') :
    Standing schedule row lease notified (world.transact body).2.store := by
  change Standing schedule row lease notified (atomically body world.store).2
  unfold atomically
  cases result : body world.store with
  | error error => exact standing
  | ok committed => exact keeps committed.1 committed.2 result

theorem perform_standing (env : Env) (beside : Beside row request)
    (standing : Standing schedule row lease notified world.store) :
    Standing schedule row lease notified (perform deployment env id world request).2.store := by
  cases request with
  | createSchedule schedule | cancelSchedule scheduleId cancelledAt => exact beside.elim
  | appendIdempotent event =>
    exact transact_standing standing (fun _ _ => standing_append standing)
  | skipScheduleOccurrence occurrence =>
    exact transact_standing standing (fun _ _ => standing_skip standing)
  | claimScheduleOccurrence occurrence =>
    exact transact_standing standing (fun _ _ => standing_claim standing)
  | claimScheduleOccurrenceRecovery occurrence ownerId =>
    exact transact_standing standing (fun _ _ => standing_recoveryClaim standing beside)
  | claimScheduleOccurrenceExecution occurrence ownerId =>
    exact transact_standing standing (fun _ _ => standing_executionClaim standing beside)
  | recordScheduleNotification notification =>
    exact transact_standing standing (fun _ _ => standing_notification standing beside)
  | listSchedules | hasScheduleTriggerRegistration | listScheduleOccurrences |
    listScheduleNotifications | createRun | now | processingHas | processingAdd |
    processingDelete | setInterval | leaseLost | clearInterval => exact standing

def World.processing (world : World) (id : InstanceId) : List String :=
  (world.instances id).processingOccurrences

/-- The requests that leave the occurrences in process alone. -/
def Quiet : Request → Prop
  | .processingAdd _ => False
  | .processingDelete _ => False
  | _ => True

theorem perform_quiet (env : Env) (quiet : Quiet request) :
    (perform deployment env id world request).2.processing id = world.processing id := by
  cases request with
  | processingAdd processingKey | processingDelete processingKey => exact quiet.elim
  | setInterval occurrence | clearInterval timer =>
    change (Function.update world.instances id _ id).processingOccurrences = _
    rw [Function.update_self]
    rfl
  | _ => rfl

theorem quiet_processing {α : Type} {program : Async α} {before after : World}
    {asked : List (Asked Env Request)} {outcome : Except Thrown α}
    (finished : Finished deployment id program before asked outcome after)
    (quiet : program.Asks Quiet) : after.processing id = before.processing id :=
  (finished.keeps quiet (fun world => world.processing id = before.processing id)
    (fun env _ _ isQuiet same => (perform_quiet env isQuiet).trans same) rfl).1

end Beside

variable {occurrence claimedOccurrence : ScheduleOccurrence} {timer : TimerId}

section Asks

open Program

variable {dates : Dates} {service : SchedulerService} {row : ScheduleOccurrence}
  {occurrenceId : OccurrenceId}

def Following (occurrenceId : OccurrenceId) : Request → Prop
  | .now => True
  | .appendIdempotent _ => True
  | .createRun _ _ _ => True
  | .leaseLost _ => True
  | .clearInterval _ => True
  | .recordScheduleNotification notification => notification.occurrenceId = occurrenceId
  | _ => False

def Claimless : Request → Prop
  | .claimScheduleOccurrenceRecovery _ _ => False
  | .claimScheduleOccurrenceExecution _ _ => False
  | _ => True

theorem quiet_of_following (following : Following occurrenceId request) :
    Quiet request := by
  cases request with
  | processingAdd processingKey | processingDelete processingKey => exact following.elim
  | _ => exact trivial

theorem claimless_of_following (following : Following occurrenceId request) :
    Claimless request := by
  cases request with
  | claimScheduleOccurrenceRecovery occurrence ownerId
  | claimScheduleOccurrenceExecution occurrence ownerId => exact following.elim
  | _ => exact trivial

theorem beside_of_following (other : occurrenceId ≠ row.id)
    (following : Following occurrenceId request) : Beside row request := by
  cases request with
  | recordScheduleNotification notification =>
    change notification.occurrenceId = occurrenceId at following
    change notification.occurrenceId ≠ row.id
    rw [following]
    exact other
  | now | appendIdempotent | createRun | leaseLost | clearInterval => exact trivial
  | _ => exact following.elim

variable {allowed : Request → Prop}

theorem appendLifecycleOnce_asks (asksNow : allowed .now)
    (asksAppend : ∀ event, allowed (.appendIdempotent event)) (eventId : EventId) (type : String)
    (payload : LifecyclePayload) (scope : ScheduleRecord) :
    (appendLifecycleOnce dates eventId type payload scope).Asks allowed := by
  refine asks_call_bind asksNow ?_
  intro timestamp
  refine asks_lift_bind ?_
  intro event _
  exact asks_call_bind (asksAppend event) (fun _ => trivial)

variable {schedule : ScheduleRecord}

theorem runOccurrence_asks {now : Timestamp} {dueAt : Timestamp} :
    (runOccurrence dates now schedule dueAt claimedOccurrence timer).Asks
      (Following claimedOccurrence.id) := by
  refine asks_lift_bind ?_
  intro run _
  refine asks_call_bind trivial ?_
  intro _
  refine asks_call_bind trivial ?_
  intro leaseLost
  cases leaseLost with
  | true => exact trivial
  | false =>
    refine asks_bind (appendLifecycleOnce_asks trivial (fun _ => trivial) _ _ _ _) ?_
    intro _
    refine asks_call_bind rfl ?_
    intro _
    exact appendLifecycleOnce_asks trivial (fun _ => trivial) _ _ _ _

theorem skipDue_asks {dueAt : Timestamp} :
    (skipDue dates schedule dueAt occurrence).Asks
      (fun request => Beside row request ∧ Quiet request) := by
  have asksNow : Beside row .now ∧ Quiet .now := ⟨trivial, trivial⟩
  have asksAppend : ∀ event, Beside row (.appendIdempotent event) ∧
      Quiet (.appendIdempotent event) := fun _ => ⟨trivial, trivial⟩
  refine asks_call_bind ⟨trivial, trivial⟩ ?_
  intro skipped
  cases skipped with
  | true => exact appendLifecycleOnce_asks asksNow asksAppend _ _ _ _
  | false =>
    refine asks_call_bind ⟨trivial, trivial⟩ ?_
    intro occurrences
    dsimp only
    split
    · exact trivial
    · exact appendLifecycleOnce_asks asksNow asksAppend _ _ _ _

theorem takeUp_asks {now : Timestamp} {dueAt : Timestamp}
    (recovers : allowed (.claimScheduleOccurrenceRecovery claimedOccurrence service.recoveryOwnerId))
    (executes : allowed (.claimScheduleOccurrenceExecution claimedOccurrence service.recoveryOwnerId))
    (looks : ∀ processingKey, allowed (.processingHas processingKey))
    (adds : ∀ processingKey, allowed (.processingAdd processingKey))
    (deletes : ∀ processingKey, allowed (.processingDelete processingKey))
    (times : allowed (.setInterval claimedOccurrence))
    (follows : ∀ request, Following claimedOccurrence.id request → allowed request) :
    (service.takeUp dates now schedule dueAt claimedOccurrence).Asks allowed := by
  refine asks_call_bind (looks _) ?_
  intro busy
  cases busy with
  | true => exact trivial
  | false =>
    refine asks_call_bind recovers ?_
    intro leased
    cases leased with
    | false => exact trivial
    | true =>
      refine asks_call_bind executes ?_
      intro executing
      cases executing with
      | false => exact trivial
      | true =>
        refine asks_call_bind (adds _) ?_
        intro _
        refine asks_call_bind times ?_
        intro timer
        refine asks_tryFinally (asks_mono runOccurrence_asks follows) ?_
        refine asks_call_bind (follows (.clearInterval timer) trivial) ?_
        intro _
        exact asks_call_bind (deletes _) (fun _ => trivial)

end Asks

/-! ### One occurrence taken up -/

section TakeUp

variable {service : SchedulerService} {schedule : ScheduleRecord} {row : ScheduleOccurrence}
  {lease : Option RecoveryLease} {notified : Prop} {before after : World}
  {asked : List (Asked Env Request)} {now dueAt : Timestamp}

theorem running_processing {processingKey : String}
    (finished : Finished deployment id ((runOccurrence deployment.dates now schedule dueAt claimedOccurrence timer).tryFinally (do let _ ← ask (.clearInterval timer) let _ ← ask (.processingDelete processingKey) return ())) before asked (.ok ()) after) :
    after.processing id = (before.processing id).filter (fun key => key ≠ processingKey) := by
  rcases finished.tryFinally_ok with ⟨early, middle, late, _, ran, cleaned⟩
  have ranQuiet := quiet_processing ran
    (Program.asks_mono runOccurrence_asks (fun _ => quiet_of_following))
  rcases cleaned.call_bind_ok with ⟨env₁, _, cleared, rest, _, clears, cleaned⟩
  rcases cleaned.call_bind_ok with ⟨env₂, _, deleted, rest', _, deletes, done⟩
  rcases done.pure_ok with ⟨_, _, isAfter⟩
  have clearedQuiet : (perform deployment env₁ id middle (.clearInterval timer)).2.processing id =
      middle.processing id := perform_quiet env₁ trivial
  rw [isAfter]
  have isDeleted := congrArg Prod.snd deletes
  change cleared.setInstance id _ = deleted at isDeleted
  rw [← isDeleted]
  change (Function.update cleared.instances id _ id).processingOccurrences = _
  rw [Function.update_self]
  change (cleared.processing id).filter _ = _
  have isCleared : (perform deployment env₁ id middle (.clearInterval timer)).2 = cleared :=
    congrArg Prod.snd clears
  rw [← isCleared, clearedQuiet, ranQuiet]

/-- The four ways in which taking an occurrence up ends without an error. -/
inductive TakenUp (deployment : Deployment) (id : InstanceId) (service : SchedulerService)
    (now : Timestamp) (schedule : ScheduleRecord) (dueAt : Timestamp)
    (claimed : ScheduleOccurrence) (before : World) : List (Asked Env Request) → World → Prop
  | busy {env : Env}
      (inProcess : schedule.id ++ ":" ++ claimed.dueAt ∈ before.processing id) :
      TakenUp deployment id service now schedule dueAt claimed before
        [⟨env, .processingHas (schedule.id ++ ":" ++ claimed.dueAt)⟩] before
  | unleased {env env₁ : Env} {after : World}
      (idle : schedule.id ++ ":" ++ claimed.dueAt ∉ before.processing id)
      (refused : perform deployment env₁ id before
        (.claimScheduleOccurrenceRecovery claimed service.recoveryOwnerId) = (.ok false, after)) :
      TakenUp deployment id service now schedule dueAt claimed before
        [⟨env, .processingHas (schedule.id ++ ":" ++ claimed.dueAt)⟩,
          ⟨env₁, .claimScheduleOccurrenceRecovery claimed service.recoveryOwnerId⟩] after
  | unclaimed {env env₁ env₂ : Env} {leased after : World}
      (idle : schedule.id ++ ":" ++ claimed.dueAt ∉ before.processing id)
      (leases : perform deployment env₁ id before
        (.claimScheduleOccurrenceRecovery claimed service.recoveryOwnerId) = (.ok true, leased))
      (refused : perform deployment env₂ id leased
        (.claimScheduleOccurrenceExecution claimed service.recoveryOwnerId) = (.ok false, after)) :
      TakenUp deployment id service now schedule dueAt claimed before
        [⟨env, .processingHas (schedule.id ++ ":" ++ claimed.dueAt)⟩,
          ⟨env₁, .claimScheduleOccurrenceRecovery claimed service.recoveryOwnerId⟩,
          ⟨env₂, .claimScheduleOccurrenceExecution claimed service.recoveryOwnerId⟩] after
  | ran {env env₁ env₂ env₃ env₄ : Env} {leased executing added timed after : World}
      {timer : TimerId} {asked : List (Asked Env Request)}
      (idle : schedule.id ++ ":" ++ claimed.dueAt ∉ before.processing id)
      (leases : perform deployment env₁ id before
        (.claimScheduleOccurrenceRecovery claimed service.recoveryOwnerId) = (.ok true, leased))
      (executes : perform deployment env₂ id leased
        (.claimScheduleOccurrenceExecution claimed service.recoveryOwnerId) = (.ok true, executing))
      (adds : perform deployment env₃ id executing
        (.processingAdd (schedule.id ++ ":" ++ claimed.dueAt)) = (.ok (), added))
      (times : perform deployment env₄ id added (.setInterval claimed) = (.ok timer, timed))
      (runs : Finished deployment id
        ((runOccurrence deployment.dates now schedule dueAt claimed
          timer).tryFinally (do
            let _ ← ask (.clearInterval timer)
            let _ ← ask (.processingDelete (schedule.id ++ ":" ++ claimed.dueAt))
            return ())) timed asked (.ok ()) after) :
      TakenUp deployment id service now schedule dueAt claimed before
        (⟨env, .processingHas (schedule.id ++ ":" ++ claimed.dueAt)⟩ ::
          ⟨env₁, .claimScheduleOccurrenceRecovery claimed service.recoveryOwnerId⟩ ::
          ⟨env₂, .claimScheduleOccurrenceExecution claimed service.recoveryOwnerId⟩ ::
          ⟨env₃, .processingAdd (schedule.id ++ ":" ++ claimed.dueAt)⟩ ::
          ⟨env₄, .setInterval claimed⟩ :: asked) after

variable {claimed : ScheduleOccurrence}

theorem takeUp_cases
    (finished : Finished deployment id (service.takeUp deployment.dates now schedule dueAt claimed) before asked (.ok ()) after) :
    TakenUp deployment id service now schedule dueAt claimed before asked after := by
  rcases finished.call_bind_ok with ⟨env, busy, world, rest, isAsked, looks, finished⟩
  subst isAsked
  cases looks
  by_cases inProcess : schedule.id ++ ":" ++ claimed.dueAt ∈ before.processing id
  · change Finished deployment id (if decide (_ ∈ before.processing id) = true then _ else _) _ _ _ _
      at finished
    rw [if_pos (decide_eq_true inProcess)] at finished
    rcases finished.pure_ok with ⟨isRest, _, isAfter⟩
    subst isRest isAfter
    exact .busy inProcess
  · change Finished deployment id (if decide (_ ∈ before.processing id) = true then _ else _) _ _ _ _
      at finished
    rw [if_neg (by rw [decide_eq_true_eq]; exact inProcess)] at finished
    rcases finished.call_bind_ok with ⟨env₁, leased, world₁, rest₁, isRest, leases, finished⟩
    subst isRest
    cases leased with
    | false =>
      rcases finished.pure_ok with ⟨isRest, _, isAfter⟩
      subst isRest isAfter
      exact .unleased inProcess leases
    | true =>
      rcases finished.call_bind_ok with ⟨env₂, executing, world₂, rest₂, isRest, executes, finished⟩
      subst isRest
      cases executing with
      | false =>
        rcases finished.pure_ok with ⟨isRest, _, isAfter⟩
        subst isRest isAfter
        exact .unclaimed inProcess leases executes
      | true =>
        rcases finished.call_bind_ok with ⟨env₃, _, world₃, rest₃, isRest, adds, timing⟩
        subst isRest
        rcases timing.call_bind_ok with ⟨env₄, timer, world₄, rest₄, isRest, times, running⟩
        subst isRest
        exact .ran inProcess leases executes adds times running

theorem takenUp_processing
    (taken : TakenUp deployment id service now schedule dueAt claimed before asked after) :
    after.processing id = before.processing id := by
  have quiet : ∀ {env : Env} {world later : World} (request : Request)
      {answer : Except Thrown request.Response}, Quiet request →
      perform deployment env id world request = (answer, later) →
      later.processing id = world.processing id := by
    intro env world later request answer isQuiet performs
    have isLater : (perform deployment env id world request).2 = later := congrArg Prod.snd performs
    rw [← isLater]
    exact perform_quiet env isQuiet
  cases taken with
  | busy inProcess => rfl
  | unleased idle refused => exact quiet (.claimScheduleOccurrenceRecovery _ _) trivial refused
  | unclaimed idle leases refused =>
    rw [quiet (.claimScheduleOccurrenceExecution _ _) trivial refused,
      quiet (.claimScheduleOccurrenceRecovery _ _) trivial leases]
  | @ran _ _ _ _ _ _ executing added _ _ _ _ idle leases executes adds times runs =>
    have sameIdle : executing.processing id = before.processing id := by
      rw [quiet (.claimScheduleOccurrenceExecution _ _) trivial executes,
        quiet (.claimScheduleOccurrenceRecovery _ _) trivial leases]
    have isAdded := congrArg Prod.snd adds
    change executing.setInstance id _ = added at isAdded
    have addedKeys : added.processing id =
        (executing.processing id).insert (schedule.id ++ ":" ++ claimed.dueAt) := by
      rw [← isAdded]
      change (Function.update executing.instances id _ id).processingOccurrences = _
      rw [Function.update_self]
      rfl
    rw [running_processing runs, quiet (.setInterval _) trivial times, addedKeys,
      sameIdle, List.insert_of_not_mem idle, List.filter_cons_of_neg (by simp)]
    apply List.filter_eq_self.2
    intro key member
    rw [decide_eq_true_eq]
    intro same
    exact idle (same ▸ member)

end TakeUp

variable {early late : List (Asked Env Request)} {scope : ChannelScope} {store store' : Store}
  {dates : Dates}

section Iterations

variable {service : SchedulerService} {schedule item : ScheduleRecord} {row : ScheduleOccurrence}
  {lease : Option RecoveryLease} {notified : Prop} {before after : World}
  {asked : List (Asked Env Request)} {now dueAt : Timestamp} {nowMs : Int}

/-- A finished part of the loop that leaves the orphan as it is. -/
structure Passes (id : InstanceId) (schedule : ScheduleRecord) (row : ScheduleOccurrence)
    (lease : Option RecoveryLease) (notified : Prop) (before : World)
    (asked : List (Asked Env Request)) (after : World) : Prop where
  standing : Standing schedule row lease notified after.store
  processing : after.processing id = before.processing id
  beside : ∀ entry ∈ asked, Beside row entry.request

theorem passes_refl (standing : Standing schedule row lease notified before.store) :
    Passes id schedule row lease notified before [] before :=
  ⟨standing, rfl, fun _ member => absurd member List.not_mem_nil⟩

theorem passes_append {middle : World}
    (first : Passes id schedule row lease notified before early middle)
    (second : Passes id schedule row lease notified middle late after) :
    Passes id schedule row lease notified before (early ++ late) after := by
  refine ⟨second.standing, second.processing.trans first.processing, ?_⟩
  intro entry member
  rcases List.mem_append.1 member with isEarly | isLate
  · exact first.beside entry isEarly
  · exact second.beside entry isLate

theorem passes_of_asks {program : Async Unit}
    (standing : Standing schedule row lease notified before.store)
    (asks : program.Asks (fun request => Beside row request ∧ Quiet request))
    (finished : Finished deployment id program before asked (.ok ()) after) :
    Passes id schedule row lease notified before asked after := by
  have kept := finished.keeps asks
    (fun world => Standing schedule row lease notified world.store)
    (fun env _ _ isBeside held => perform_standing env isBeside.1 held) standing
  exact ⟨kept.1, quiet_processing finished (Program.asks_mono asks (fun _ => And.right)),
    fun entry member => (kept.2 entry member).1⟩

variable {claimed : ScheduleOccurrence}

theorem passes_takeUp (standing : Standing schedule row lease notified before.store)
    (other : claimed.id ≠ row.id)
    (finished : Finished deployment id (service.takeUp deployment.dates now item dueAt claimed)
      before asked (.ok ()) after) : Passes id schedule row lease notified before asked after := by
  have kept := finished.keeps (takeUp_asks other other (fun _ => trivial) (fun _ => trivial)
    (fun _ => trivial) trivial (fun _ => beside_of_following other))
    (fun world => Standing schedule row lease notified world.store)
    (fun env _ _ isBeside held => perform_standing env isBeside held) standing
  exact ⟨kept.1, takenUp_processing (takeUp_cases finished), kept.2⟩

theorem claim_due
    (claims : store.claimScheduleOccurrence dates scope occurrence = .ok (claim, store'))
    (isClaimed : claim = .claimed claimed ∨ claim = .alreadyClaimed claimed) :
    claimed.dueAt = occurrence.dueAt := by
  obtain ⟨candidate, isCandidate, claims⟩ := bind_ok claims
  obtain ⟨_, _, claims⟩ := bind_ok claims
  rw [parseScheduleOccurrence_eq isCandidate] at claims
  split at claims
  · cases claims
    rcases isClaimed with impossible | impossible
    · cases impossible
    · cases impossible
  · split at claims
    · rename_i stored found
      cases claims
      rcases isClaimed with impossible | isStored
      · cases impossible
      · cases isStored
        exact (findDue_due found).2
    · obtain ⟨inserted, _, claims⟩ := bind_ok claims
      cases claims
      rcases isClaimed with isOwn | impossible
      · cases isOwn
        rfl
      · cases impossible

theorem claim_other {env : Env} (standing : Standing schedule row lease notified after.store)
    (elsewhere : ¬ (occurrence.scheduleId = schedule.id ∧ occurrence.dueAt = row.dueAt))
    (claims : perform deployment env id before (.claimScheduleOccurrence occurrence) = (.ok claim, after))
    (isClaimed : claim = .claimed claimed ∨ claim = .alreadyClaimed claimed) :
    claimed.id ≠ row.id := by
  intro sameId
  rcases claim_recorded claims isClaimed with ⟨sameSchedule, stored, found, isStored⟩
  have sameDue := claim_due (transact_ok claims) isClaimed
  have isRow : stored = row := by
    have looked := Table.find?_of_mem (findDue_mem found)
    have lookedRow := Table.find?_of_mem (findDue_mem standing.due)
    rw [isStored, sameId, lookedRow] at looked
    exact (Option.some.inj looked).symm
  have dueStored := findDue_due found
  have dueRow := findDue_due standing.due
  apply elsewhere
  rw [isRow] at dueStored
  exact ⟨by rw [← sameSchedule, ← dueStored.1, dueRow.1], by rw [← sameDue, ← dueStored.2]⟩

theorem passes_claimDue (standing : Standing schedule row lease notified before.store)
    (elsewhere : ¬ (item.id = schedule.id ∧ dueAt = row.dueAt))
    (finished : Finished deployment id
      (service.claimDue deployment.dates true now item dueAt (occurrenceFor item dueAt now))
      before asked (.ok ()) after) : Passes id schedule row lease notified before asked after := by
  rcases finished.call_bind_ok with ⟨env, claim, world, rest, isAsked, claims, finished⟩
  subst isAsked
  have held : Standing schedule row lease notified world.store := by
    have isWorld : (perform deployment env id before
        (.claimScheduleOccurrence (occurrenceFor item dueAt now))).2 = world :=
      congrArg Prod.snd claims
    rw [← isWorld]
    exact perform_standing env trivial standing
  have sameProcessing : world.processing id = before.processing id := by
    have isWorld : (perform deployment env id before
        (.claimScheduleOccurrence (occurrenceFor item dueAt now))).2 = world :=
      congrArg Prod.snd claims
    rw [← isWorld]
    exact perform_quiet env trivial
  have claimed : Passes id schedule row lease notified before
      [⟨env, .claimScheduleOccurrence (occurrenceFor item dueAt now)⟩] world := by
    refine ⟨held, sameProcessing, ?_⟩
    intro entry member
    rw [List.mem_singleton.1 member]
    exact trivial
  refine passes_append claimed ?_
  cases claim with
  | claimed occurrence =>
    exact passes_takeUp held (claim_other held elsewhere claims (Or.inl rfl)) finished
  | scheduleInactive =>
    rcases finished.pure_ok with ⟨isRest, _, isAfter⟩
    rw [isRest, isAfter]
    exact passes_refl held
  | alreadyClaimed occurrence =>
    dsimp only at finished
    split at finished
    · rcases finished.pure_ok with ⟨isRest, _, isAfter⟩
      rw [isRest, isAfter]
      exact passes_refl held
    · rcases finished.call_bind_ok with ⟨env₁, listed, world₁, rest₁, isRest, lists, finished⟩
      subst isRest
      cases lists
      have listedPasses : Passes id schedule row lease notified world
          [⟨env₁, .listScheduleNotifications item.id⟩] world := by
        refine ⟨held, rfl, ?_⟩
        intro entry member
        rw [List.mem_singleton.1 member]
        exact trivial
      refine passes_append listedPasses ?_
      split at finished
      · rcases finished.pure_ok with ⟨isRest, _, isAfter⟩
        rw [isRest, isAfter]
        exact passes_refl held
      · exact passes_takeUp held (claim_other held elsewhere claims (Or.inr rfl)) finished

theorem passes_processSchedule (standing : Standing schedule row lease notified before.store)
    (elsewhere : ¬ (item.id = schedule.id ∧ item.catchUpPolicy = .runLatest ∧
      latestDueAt deployment.dates item nowMs = .ok (some row.dueAt)))
    (finished : Finished deployment id
      (service.processSchedule deployment.dates true now nowMs item) before asked (.ok ()) after) :
    Passes id schedule row lease notified before asked after := by
  unfold processSchedule at finished
  split at finished
  · rcases finished.pure_ok with ⟨isAsked, _, isAfter⟩
    rw [isAsked, isAfter]
    exact passes_refl standing
  · rcases finished.lift_bind_ok with ⟨latest, isLatest, finished⟩
    cases latest with
    | none =>
      rcases finished.pure_ok with ⟨isAsked, _, isAfter⟩
      rw [isAsked, isAfter]
      exact passes_refl standing
    | some dueAt =>
      dsimp only at finished
      split at finished
      · exact passes_of_asks standing skipDue_asks finished
      · rename_i unskipped
        refine passes_claimDue standing ?_ finished
        rintro ⟨sameId, sameDue⟩
        apply elsewhere
        refine ⟨sameId, ?_, by rw [isLatest, sameDue]⟩
        cases policy : item.catchUpPolicy with
        | skip => exact absurd ⟨rfl, policy⟩ unskipped
        | runLatest => rfl

end Iterations

/-! ### The orphan's own iteration -/

section Orphan

variable {service : SchedulerService} {schedule : ScheduleRecord} {row : ScheduleOccurrence}
  {lease : Option RecoveryLease} {notified : Prop} {before after : World}
  {asked : List (Asked Env Request)} {now : Timestamp} {nowMs : Int}

/-- An execution claim under the own lease succeeds on an unfinished occurrence
as long as the lease is fresh. -/
theorem executionClaim_iff {storeNow : Int} {existing : ScheduleOccurrence} {held : RecoveryLease}
    {executing : Bool}
    (leased : store.scheduleOccurrenceRecoveryLeases.find? occurrence.id = some held)
    (found : store.scheduleOccurrences.table.find? occurrence.id = some existing)
    (unfinished : ¬ OccurrenceStatus.Final existing.status)
    (claimed : store.claimScheduleOccurrenceExecution dates scope storeNow occurrence held.ownerId = .ok (executing, store')) :
    executing = true ↔ storeNow - held.claimedAt < 60000 := by
  obtain ⟨candidate, isCandidate, claimed⟩ := bind_ok claimed
  obtain ⟨_, _, claimed⟩ := bind_ok claimed
  rw [parseScheduleOccurrence_eq isCandidate] at claimed
  simp only [leased, found, ne_eq, not_true_eq_false, false_or] at claimed
  split at claimed
  · cases claimed
    constructor
    · intro impossible
      cases impossible
    · intro fresh
      omega
  · split at claimed
    · rename_i final
      exfalso
      apply unfinished
      rcases final with isStarted | isSkipped
      · rw [isStarted]
        exact trivial
      · rw [isSkipped]
        exact trivial
    · cases claimed
      constructor
      · intro _
        omega
      · intro _
        rfl

/-- The execution claim of the orphan was answered while the lease of its
recovery claim was fresh. -/
def Prompt (service : SchedulerService) (row : ScheduleOccurrence)
    (asked : List (Asked Env Request)) : Prop :=
  ∀ early late,
    ⟨early, .claimScheduleOccurrenceRecovery row service.recoveryOwnerId⟩ ∈ asked →
    ⟨late, .claimScheduleOccurrenceExecution row service.recoveryOwnerId⟩ ∈ asked →
    late.storeNow - early.storeNow < 60000

/-- Not a claim of the orphan's own lease or execution. -/
def Apart (row : ScheduleOccurrence) : Request → Prop
  | .claimScheduleOccurrenceRecovery occurrence _ => occurrence ≠ row
  | .claimScheduleOccurrenceExecution occurrence _ => occurrence ≠ row
  | _ => True

theorem apart_of_beside (beside : Beside row request) : Apart row request := by
  cases request with
  | claimScheduleOccurrenceRecovery occurrence ownerId
  | claimScheduleOccurrenceExecution occurrence ownerId =>
    intro same
    exact beside (congrArg ScheduleOccurrence.id same)
  | _ => exact trivial

theorem apart_of_claimless (claimless : Claimless request) :
    Apart row request := by
  cases request with
  | claimScheduleOccurrenceRecovery occurrence ownerId
  | claimScheduleOccurrenceExecution occurrence ownerId => exact claimless.elim
  | _ => exact trivial

theorem prompt_middle {middle : List (Asked Env Request)}
    (earlyApart : ∀ entry ∈ early, Apart row entry.request)
    (lateApart : ∀ entry ∈ late, Apart row entry.request) :
    Prompt service row (early ++ (middle ++ late)) ↔ Prompt service row middle := by
  have inside : ∀ entry : Asked Env Request, ¬ Apart row entry.request →
      entry ∈ early ++ (middle ++ late) → entry ∈ middle := by
    intro entry near member
    rcases List.mem_append.1 member with isEarly | others
    · exact absurd (earlyApart entry isEarly) near
    · rcases List.mem_append.1 others with isMiddle | isLate
      · exact isMiddle
      · exact absurd (lateApart entry isLate) near
  constructor
  · intro prompt first second firstAsked secondAsked
    exact prompt first second (List.mem_append_right _ (List.mem_append_left _ firstAsked))
      (List.mem_append_right _ (List.mem_append_left _ secondAsked))
  · intro prompt first second firstAsked secondAsked
    exact prompt first second (inside _ (fun apart => apart rfl) firstAsked)
      (inside _ (fun apart => apart rfl) secondAsked)

theorem claimDue_apart {item : ScheduleRecord} {dueAt : Timestamp}
    (other : item.id ≠ row.scheduleId)
    (finished : Finished deployment id
      (service.claimDue deployment.dates true now item dueAt (occurrenceFor item dueAt now))
      before asked (.ok ()) after) : ∀ entry ∈ asked, Apart row entry.request := by
  have taken : ∀ {world last : World} {claimed : ScheduleOccurrence}
      {some : List (Asked Env Request)}, claimed.scheduleId = item.id →
      Finished deployment id (service.takeUp deployment.dates now item dueAt claimed) world some
        (.ok ()) last → ∀ entry ∈ some, Apart row entry.request := by
    intro world last claimed some sameSchedule takes
    have apart : claimed ≠ row := by
      intro same
      exact other (same ▸ sameSchedule.symm)
    exact (takes.keeps (takeUp_asks apart apart (fun _ => trivial) (fun _ => trivial)
      (fun _ => trivial) trivial
      (fun _ following => apart_of_claimless (claimless_of_following following)))
      (fun _ => True) (fun _ _ _ _ _ => trivial) trivial).2
  rcases finished.call_bind_ok with ⟨env, claim, world, rest, isAsked, claims, resumed⟩
  subst isAsked
  intro entry member
  rcases List.mem_cons.1 member with isClaim | isLater
  · rw [isClaim]
    exact trivial
  · cases claim with
    | claimed occurrence =>
      exact taken (claim_recorded claims (Or.inl rfl)).1 resumed entry isLater
    | scheduleInactive =>
      rcases resumed.pure_ok with ⟨isRest, _, _⟩
      rw [isRest] at isLater
      exact absurd isLater List.not_mem_nil
    | alreadyClaimed occurrence =>
      dsimp only at resumed
      split at resumed
      · rcases resumed.pure_ok with ⟨isRest, _, _⟩
        rw [isRest] at isLater
        exact absurd isLater List.not_mem_nil
      · rcases resumed.call_bind_ok with ⟨env₁, listed, world₁, rest₁, isRest, _, looked⟩
        rw [isRest] at isLater
        rcases List.mem_cons.1 isLater with isListing | isLater
        · rw [isListing]
          exact trivial
        · split at looked
          · rcases looked.pure_ok with ⟨isRest₁, _, _⟩
            rw [isRest₁] at isLater
            exact absurd isLater List.not_mem_nil
          · exact taken (claim_recorded claims (Or.inr rfl)).1 looked entry isLater

theorem processSchedule_apart {item : ScheduleRecord} (other : item.id ≠ row.scheduleId)
    (finished : Finished deployment id
      (service.processSchedule deployment.dates true now nowMs item) before asked (.ok ()) after) :
    ∀ entry ∈ asked, Apart row entry.request := by
  unfold processSchedule at finished
  split at finished
  · rcases finished.pure_ok with ⟨isAsked, _, _⟩
    rw [isAsked]
    exact fun _ member => absurd member List.not_mem_nil
  · rcases finished.lift_bind_ok with ⟨latest, _, resumed⟩
    cases latest with
    | none =>
      rcases resumed.pure_ok with ⟨isAsked, _, _⟩
      rw [isAsked]
      exact fun _ member => absurd member List.not_mem_nil
    | some dueAt =>
      dsimp only at resumed
      split at resumed
      · exact (resumed.keeps (Program.asks_mono skipDue_asks
          (fun _ allowed => apart_of_beside allowed.1)) (fun _ => True)
          (fun _ _ _ _ _ => trivial) trivial).2
      · exact claimDue_apart other resumed

theorem prompt_pair {first second : Env} (fresh : second.storeNow - first.storeNow < 60000) :
    Prompt service row
      [⟨first, .claimScheduleOccurrenceRecovery row service.recoveryOwnerId⟩,
        ⟨second, .claimScheduleOccurrenceExecution row service.recoveryOwnerId⟩] := by
  intro early late earlyAsked lateAsked
  have isEarly : early = first := by simpa using earlyAsked
  have isLate : late = second := by simpa using lateAsked
  rw [isEarly, isLate]
  exact fresh

def World.Settled (world : World) (scheduleId : ScheduleId) (dueAt : Timestamp)
    (asked : List (Asked Env Request)) : Prop :=
  world.Started (scheduleId, dueAt) ∧ ∃ env run, ⟨env, .createRun scheduleId dueAt run⟩ ∈ asked

theorem runOccurrence_createRun {dueAt : Timestamp}
    (finished : Finished deployment id (runOccurrence deployment.dates now schedule dueAt row timer) before asked (.ok ()) after) :
    ∃ env run, ⟨env, .createRun schedule.id row.dueAt run⟩ ∈ asked := by
  rcases finished.lift_bind_ok with ⟨run, _, finished⟩
  rcases finished.call_bind_ok with ⟨env, _, world, rest, isAsked, _, _⟩
  rw [isAsked]
  exact ⟨env, _, List.mem_cons_self⟩

theorem finished_later {α : Type} {program : Async α} {outcome : Except Thrown α}
    (finished : Finished deployment id program before asked outcome after) :
    SqliteScopedChannelStore.Later before.store after.store :=
  finished.relates (fun first second => SqliteScopedChannelStore.Later first.store second.store)
    (fun world => .refl world.store) .trans (fun _ _ _ => perform_later rfl)

/-- Taking the orphan up starts it when the instance is idle and prompt, and
else leaves it as it is, with a lease at most. -/
theorem takeUp_orphan {dueAt : Timestamp}
    (standing : Standing schedule row lease notified before.store)
    (unfinished : ¬ OccurrenceStatus.Final row.status)
    (expired : ∀ held, lease = some held → ∀ entry ∈ asked,
      60000 ≤ entry.reading.storeNow - held.claimedAt)
    (taken : TakenUp deployment id service now schedule dueAt row before asked after) :
    (schedule.id ++ ":" ++ row.dueAt ∉ before.processing id ∧ Prompt service row asked ∧
        after.Settled schedule.id row.dueAt asked) ∨
      (¬ (schedule.id ++ ":" ++ row.dueAt ∉ before.processing id ∧ Prompt service row asked) ∧
        ∃ lease', Standing schedule row lease' notified after.store) := by
  have afterLease : ∀ {env : Env} {leased : World}, 
      perform deployment env id before
        (.claimScheduleOccurrenceRecovery row service.recoveryOwnerId) = (.ok true, leased) →
      Standing schedule row
        (some { occurrenceId := row.id, claimedAt := env.storeNow,
                ownerId := service.recoveryOwnerId }) notified leased.store := by
    intro env leased leases
    rcases recoveryClaim_cases (transact_ok leases) with ⟨impossible, _, _⟩ | ⟨_, table, isAfter, own, _⟩
    · cases impossible
    · rw [isAfter]
      exact ⟨standing.due, standing.stored, own, standing.notifies⟩
  have found : ∀ {world : World} {lease' : Option RecoveryLease},
      Standing schedule row lease' notified world.store →
      world.store.scheduleOccurrences.table.find? row.id = some row := by
    intro world lease' held
    exact Table.find?_of_mem (findDue_mem held.due)
  cases taken with
  | busy inProcess =>
    exact Or.inr ⟨fun both => both.1 inProcess, lease, standing⟩
  | @unleased env env₁ _ idle refused =>
    exfalso
    rcases recoveryClaim_cases (transact_ok refused) with
      ⟨_, _, held, isHeld, fresh⟩ | ⟨impossible, _⟩
    · rw [standing.leased] at isHeld
      have old := expired held isHeld
        ⟨env₁, .claimScheduleOccurrenceRecovery row service.recoveryOwnerId⟩
        (List.mem_cons_of_mem _ List.mem_cons_self)
      dsimp only at old
      omega
    · cases impossible
  | @unclaimed env env₁ env₂ leased _ idle leases refused =>
    have held := afterLease leases
    have late := executionClaim_iff held.leased (found held) unfinished (transact_ok refused)
    have isAfter := claimScheduleOccurrenceExecution_false (transact_ok refused)
    refine Or.inr ⟨?_, ⟨_, isAfter ▸ held⟩⟩
    rintro ⟨_, prompt⟩
    have fresh := prompt env₁ env₂ (List.mem_cons_of_mem _ List.mem_cons_self)
      (List.mem_cons_of_mem _ (List.mem_cons_of_mem _ List.mem_cons_self))
    exact absurd (late.2 fresh) (by decide)
  | @ran env env₁ env₂ env₃ env₄ leased executing added timed _ timer rest idle leases executes
      adds times runs =>
      have held := afterLease leases
      have fresh := (executionClaim_iff held.leased (found held) unfinished
        (transact_ok executes)).1 rfl
      rcases runs.tryFinally_ok with ⟨early, middle, late, isRest, ran, cleaned⟩
      have started : executing.Started (schedule.id, row.dueAt) := by
        have dueRow := findDue_due held.due
        have granted := execution_grants ⟨row, by rw [dueRow.1]; exact held.due, rfl⟩ executes
        rw [← dueRow.1]
        exact granted.2
      refine Or.inl ⟨idle, ?_, ?_, ?_⟩
      · have runAsks : ∀ entry ∈ rest, Claimless entry.request :=
          (runs.keeps (Program.asks_tryFinally
            (Program.asks_mono runOccurrence_asks (fun _ => claimless_of_following))
            (Program.asks_call_bind trivial (fun _ => Program.asks_call_bind trivial
              (fun _ => trivial)))) (fun _ => True) (fun _ _ _ _ _ => trivial) trivial).2
        change Prompt service row ([_] ++ ([_, _] ++ (_ :: _ :: rest)))
        refine (prompt_middle ?_ ?_).2 (prompt_pair fresh)
        · intro entry member
          rw [List.mem_singleton.1 member]
          exact trivial
        · intro entry member
          rcases List.mem_cons.1 member with isAdd | member
          · rw [isAdd]
            exact trivial
          · rcases List.mem_cons.1 member with isTimer | member
            · rw [isTimer]
              exact trivial
            · exact apart_of_claimless (runAsks entry member)
      · exact started_later (finished_later runs)
          (started_later (perform_later times) (started_later (perform_later adds) started))
      · rcases runOccurrence_createRun ran with ⟨env', run, member⟩
        refine ⟨env', run, ?_⟩
        rw [isRest]
        simp only [List.mem_cons, List.mem_append, member, true_or, or_true]

theorem claim_orphan (standing : Standing schedule row lease notified store)
    (active : schedule.status = .active)
    (claims : store.claimScheduleOccurrence dates scope (occurrenceFor schedule row.dueAt now) = .ok (claim, store')) :
    claim = .alreadyClaimed row ∧ store' = store := by
  have isActive : store.scheduleActive schedule.id = true := by
    unfold scheduleActive
    rw [standing.stored]
    exact decide_eq_true active
  obtain ⟨candidate, isCandidate, claims⟩ := bind_ok claims
  obtain ⟨_, _, claims⟩ := bind_ok claims
  rw [parseScheduleOccurrence_eq isCandidate] at claims
  have isNotInactive : ¬ store.scheduleActive schedule.id = false := by
    rw [isActive]
    decide
  simp only [occurrenceFor, if_neg isNotInactive, standing.due] at claims
  cases claims
  exact ⟨rfl, rfl⟩

theorem notifications_any (store : Store) :
    (store.listScheduleNotifications schedule.id).any (fun notification =>
      notification.occurrenceId = row.id) = true ↔ Notified store schedule.id row.id := by
  unfold listScheduleNotifications
  rw [List.any_eq_true]
  constructor
  · rintro ⟨entry, member, sameId⟩
    have selected := (Table.mem_select _).1 ((List.mem_insertionSort _).1 member)
    exact ⟨entry, selected.1, selected.2, of_decide_eq_true sameId⟩
  · rintro ⟨entry, member, sameSchedule, sameId⟩
    refine ⟨entry, ?_, decide_eq_true sameId⟩
    rw [List.mem_insertionSort]
    exact (Table.mem_select _).2 ⟨member, sameSchedule⟩

/-- What an iteration over the orphan's schedule does when it comes to the
orphan's due instant under `run_latest`. -/
theorem claimDue_orphan
    (standing : Standing schedule row lease notified before.store)
    (active : schedule.status = .active) (unfinished : ¬ OccurrenceStatus.Final row.status)
    (expired : ∀ held, lease = some held → ∀ entry ∈ asked,
      60000 ≤ entry.reading.storeNow - held.claimedAt)
    (finished : Finished deployment id
      (service.claimDue deployment.dates true now schedule row.dueAt
        (occurrenceFor schedule row.dueAt now)) before asked (.ok ()) after) :
    ((¬ notified ∧ schedule.id ++ ":" ++ row.dueAt ∉ before.processing id ∧
        Prompt service row asked) ∧ after.Settled schedule.id row.dueAt asked) ∨
      (¬ (¬ notified ∧ schedule.id ++ ":" ++ row.dueAt ∉ before.processing id ∧
          Prompt service row asked) ∧
        ∃ lease', Standing schedule row lease' notified after.store) := by
  rcases finished.call_bind_ok with ⟨env, claim, world, rest, isAsked, claims, resumed⟩
  have isClaim := claim_orphan standing active (transact_ok claims)
  have sameStore : world.store = before.store := isClaim.2
  have sameProcessing : world.processing id = before.processing id := by
    have isWorld : (perform deployment env id before
        (.claimScheduleOccurrence (occurrenceFor schedule row.dueAt now))).2 = world :=
      congrArg Prod.snd claims
    rw [← isWorld]
    exact perform_quiet env trivial
  have held : Standing schedule row lease notified world.store := sameStore ▸ standing
  rw [isClaim.1] at resumed
  dsimp only at resumed
  rw [if_neg (by
    rintro (impossible | isSkipped)
    · cases impossible
    · rw [isSkipped] at unfinished
      exact unfinished trivial)] at resumed
  rcases resumed.call_bind_ok with ⟨env₁, listed, world₁, rest₁, isRest, lists, looked⟩
  cases lists
  by_cases isNotified : notified
  · rw [if_pos ((notifications_any _).2 (held.notifies.2 isNotified))] at looked
    rcases looked.pure_ok with ⟨_, _, isAfter⟩
    refine Or.inr ⟨fun all => all.1 isNotified, lease, ?_⟩
    rw [isAfter]
    exact held
  · rw [if_neg (by
      rw [notifications_any]
      exact fun has => isNotified (held.notifies.1 has))] at looked
    have laterAsked : ∀ entry ∈ rest₁, entry ∈ asked := by
      intro entry member
      rw [isAsked, isRest]
      exact List.mem_cons_of_mem _ (List.mem_cons_of_mem _ member)
    have promptIff : Prompt service row asked ↔ Prompt service row rest₁ := by
      have split : asked = [⟨env, .claimScheduleOccurrence (occurrenceFor schedule row.dueAt now)⟩,
          ⟨env₁, .listScheduleNotifications schedule.id⟩] ++ (rest₁ ++ []) := by
        rw [isAsked, isRest, List.append_nil]
        rfl
      rw [split]
      refine prompt_middle ?_ (fun entry member => absurd member List.not_mem_nil)
      intro entry member
      rcases List.mem_cons.1 member with isClaimEntry | member
      · rw [isClaimEntry]
        exact trivial
      · rw [List.mem_singleton.1 member]
        exact trivial
    rw [← sameProcessing, promptIff]
    rcases takeUp_orphan held unfinished
        (fun lease' isLease entry member => expired lease' isLease entry (laterAsked entry member))
        (takeUp_cases looked) with ⟨idle, prompt, started, env', run, ran⟩ | ⟨blocked, stands⟩
    · exact Or.inl ⟨⟨isNotified, idle, prompt⟩, started, env', run, laterAsked _ ran⟩
    · exact Or.inr ⟨fun all => blocked all.2, stands⟩

end Orphan

/-! ### Recovery -/

section Recover

variable {schedule : ScheduleRecord} {row : ScheduleOccurrence} {before after : World}
  {asked : List (Asked Env Request)}

/-- An occurrence of an active schedule that is claimed and neither started
nor skipped. -/
structure World.Orphan (world : World) (schedule : ScheduleRecord) (row : ScheduleOccurrence) :
    Prop where
  stored : world.store.schedules.find? schedule.id = some schedule
  active : schedule.status = .active
  due : world.store.findDue schedule.id row.dueAt = some row
  unfinished : ¬ OccurrenceStatus.Final row.status

def World.LeaseExpired (world : World) (row : ScheduleOccurrence)
    (asked : List (Asked Env Request)) : Prop :=
  ∀ lease, world.store.scheduleOccurrenceRecoveryLeases.find? row.id = some lease →
    ∀ entry ∈ asked, 60000 ≤ entry.reading.storeNow - lease.claimedAt

/-- The due instant that a recovery looks at, by the clock of its first
request. -/
def looksAt (deployment : Deployment) (schedule : ScheduleRecord)
    (asked : List (Asked Env Request)) : Option Timestamp :=
  match asked.head?.bind (fun first => deployment.dates.parse first.reading.clock) with
  | none => none
  | some nowMs =>
    match latestDueAt deployment.dates schedule nowMs with
    | .ok dueAt => dueAt
    | .error _ => none

/-- When a recovery comes to the orphan's own execution claim and passes it. -/
structure World.Reaches (deployment : Deployment) (id : InstanceId) (world : World)
    (schedule : ScheduleRecord) (row : ScheduleOccurrence) (asked : List (Asked Env Request)) :
    Prop where
  runsLatest : schedule.catchUpPolicy = .runLatest
  latest : looksAt deployment schedule asked = some row.dueAt
  unnotified : ¬ Notified world.store schedule.id row.id
  idle : schedule.id ++ ":" ++ row.dueAt ∉ world.processing id
  prompt : Prompt (deployment.services id) row asked

variable {lease : Option RecoveryLease}

theorem not_settled_of_standing {notified : Prop}
    (standing : Standing schedule row lease notified after.store)
    (unfinished : ¬ OccurrenceStatus.Final row.status) :
    ¬ (after.Settled schedule.id row.dueAt asked ∨ after.Skipped schedule.id row.dueAt) := by
  have final : ∀ {status}, (∃ other, after.store.findDue schedule.id row.dueAt = some other ∧
      other.status = some status) → row.status = some status := by
    rintro status ⟨other, found, isStatus⟩
    rw [standing.due] at found
    cases found
    exact isStatus
  rintro (⟨started, _⟩ | skipped)
  · apply unfinished
    rw [final started]
    exact trivial
  · apply unfinished
    rw [final skipped]
    exact trivial

theorem listSchedules_split (stored : store.schedules.find? schedule.id = some schedule) :
    ∃ early late, store.listSchedules = early ++ schedule :: late ∧
      (∀ item ∈ early, item.id ≠ schedule.id) ∧ ∀ item ∈ late, item.id ≠ schedule.id := by
  have sorted := List.perm_insertionSort (fun left right : ScheduleRecord => left.id ≤ right.id)
    store.schedules.rows
  have member : schedule ∈ store.listSchedules := by
    unfold listSchedules
    exact sorted.mem_iff.2 (Table.find?_mem stored)
  obtain ⟨early, late, isSplit⟩ := List.append_of_mem member
  have nodup : (store.listSchedules.map ScheduleRecord.id).Nodup :=
    (sorted.map ScheduleRecord.id).nodup_iff.2 store.schedules.keysNodup
  rw [isSplit, List.map_append, List.map_cons] at nodup
  have apart := List.nodup_append.1 nodup
  refine ⟨early, late, isSplit, ?_, ?_⟩
  · intro item isEarly
    exact apart.2.2 item.id (List.mem_map_of_mem isEarly) schedule.id List.mem_cons_self
  · intro item isLate same
    exact (List.nodup_cons.1 apart.2.1).1 (same ▸ List.mem_map_of_mem isLate)

variable {items : List ScheduleRecord} {service : SchedulerService}

theorem passes_others {now : Timestamp} {nowMs : Int} {notified : Prop}
    (standing : Standing schedule row lease notified before.store)
    (others : ∀ item ∈ items, item.id ≠ schedule.id)
    (finished : Finished deployment id (Program.forEach items (service.processSchedule deployment.dates true now nowMs)) before asked (.ok ()) after) :
    Passes id schedule row lease notified before asked after := by
  refine finished.forEach_respects
    (fun first some last => Standing schedule row lease notified first.store →
      Passes id schedule row lease notified first some last)
    (fun world held => passes_refl held) ?_ ?_ standing
  · intro first early second late third one two held
    have passed := one held
    exact passes_append passed (two passed.standing)
  · intro item member first some last ran held
    exact passes_processSchedule held (fun all => others item member all.1) ran

theorem others_apart {now : Timestamp} {nowMs : Int}
    (others : ∀ item ∈ items, item.id ≠ row.scheduleId)
    (finished : Finished deployment id (Program.forEach items (service.processSchedule deployment.dates true now nowMs)) before asked (.ok ()) after) :
    ∀ entry ∈ asked, Apart row entry.request := by
  refine finished.forEach_respects (fun _ some _ => ∀ entry ∈ some, Apart row entry.request)
    (fun _ _ member => absurd member List.not_mem_nil) ?_ ?_
  · intro first early second late third one two entry member
    rcases List.mem_append.1 member with isEarly | isLate
    · exact one entry isEarly
    · exact two entry isLate
  · intro item member first some last ran
    exact processSchedule_apart (others item member) ran

def orphanSchedule (catchUpPolicy : ScheduleCatchUpPolicy) : ScheduleRecord :=
  { sampleSchedule with catchUpPolicy }

def stopAfterClaim (catchUpPolicy : ScheduleCatchUpPolicy) : List Choice :=
  .call 0 (.schedule (orphanSchedule catchUpPolicy)) :: List.replicate 3 (.answer 0 sampleEnv) ++
    .call 0 .tick :: List.replicate 3 (.answer 1 sampleEnv) ++ [.crash 0]

def afterStop (catchUpPolicy : ScheduleCatchUpPolicy) : Crowd :=
  (play sampleDeployment (stopAfterClaim catchUpPolicy) ⟨World.empty, []⟩).2

def orphanRow : ScheduleOccurrence := occurrenceFor sampleSchedule "noon" "noon"

/-- The other instance recovers, with nothing in between. -/
def recovered (catchUpPolicy : ScheduleCatchUpPolicy) :
    Option (List (Asked Env Request) × Except Thrown Unit × World) :=
  solo (answers sampleDeployment 1)
    ((sampleDeployment.services 1).recover sampleDeployment.dates)
    (List.replicate 20 sampleEnv) (afterStop catchUpPolicy).shared

theorem afterStop_orphan (catchUpPolicy : ScheduleCatchUpPolicy) :
    (afterStop catchUpPolicy).shared.Orphan (orphanSchedule catchUpPolicy) orphanRow := by
  cases catchUpPolicy with
  | skip | runLatest => exact ⟨by decide +kernel, rfl, by decide +kernel, fun final => final⟩

theorem afterStop_leaseExpired (catchUpPolicy : ScheduleCatchUpPolicy)
    (asked : List (Asked Env Request)) :
    (afterStop catchUpPolicy).shared.LeaseExpired orphanRow asked := by
  have unleased : (afterStop catchUpPolicy).shared.store.scheduleOccurrenceRecoveryLeases.rows.length
      = 0 := by
    cases catchUpPolicy with
    | skip | runLatest => decide +kernel
  intro lease found
  have member := Table.find?_mem found
  rw [List.length_eq_zero_iff.1 unleased] at member
  exact absurd member List.not_mem_nil

theorem recovered_cases (catchUpPolicy : ScheduleCatchUpPolicy) (status : Option OccurrenceStatus)
    (called : Bool)
    (ran : (recovered catchUpPolicy).map (fun result =>
      (result.2.1.toOption, result.2.2.store.findDue "s1" "noon",
        result.1.any (fun entry => match entry.request with
          | .createRun scheduleId dueAt _ => decide (scheduleId = "s1" ∧ dueAt = "noon")
          | _ => false))) = some (some (), some { orphanRow with status }, called)) :
    ∃ asked after,
      Finished sampleDeployment 1
        ((sampleDeployment.services 1).recover sampleDeployment.dates)
        (afterStop catchUpPolicy).shared asked (.ok ()) after ∧
      after.store.findDue "s1" "noon" = some { orphanRow with status } ∧
      (called = true → ∃ env run, ⟨env, .createRun "s1" "noon" run⟩ ∈ asked) := by
  rcases Option.map_eq_some_iff.1 ran with ⟨⟨asked, outcome, after⟩, isRun, same⟩
  rw [Prod.mk.injEq, Prod.mk.injEq] at same
  have isOk : outcome = .ok () := by
    cases outcome with
    | error error => cases same.1
    | ok value => rfl
  rw [isOk] at isRun
  refine ⟨asked, after, solo_finishes isRun, same.2.1, ?_⟩
  intro isCalled
  rcases List.any_eq_true.1 (same.2.2.trans isCalled) with ⟨⟨env, request⟩, member, isCall⟩
  cases request with
  | createRun scheduleId dueAt run =>
    rcases of_decide_eq_true isCall with ⟨sameSchedule, sameDue⟩
    subst sameSchedule sameDue
    exact ⟨env, run, member⟩
  | _ => cases isCall

end Recover

end AnnaAgent.Scheduler
