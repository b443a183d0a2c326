/-
Scheduler instances over one scoped store.

An answer depends on the stored rows, on what the instance keeps in memory and
on what is drawn from outside: the two clocks and the outcome of `createRun`.
Besides the calls of the instances, the renewal timers of running occurrences
fire, triggers are registered, and other writers append events to the store;
an instance may stop for good at any request.
-/

import AnnaAgent.Foundation.Interleaving
import AnnaAgent.Scheduler.Service

namespace AnnaAgent.Scheduler

open Foundation EventStore

abbrev Store := SqliteScopedChannelStore LifecyclePayload

/-- A lease-renewal interval with the variable its callback sets. -/
structure Timer where
  id : TimerId
  occurrence : ScheduleOccurrence
  leaseLost : Bool

structure Instance where
  running : Bool
  processingOccurrences : List String
  timers : List Timer
  nextTimer : TimerId

def Instance.fresh : Instance :=
  { running := true
    processingOccurrences := []
    timers := []
    nextTimer := 0 }

abbrev InstanceId := Nat

structure World where
  store : Store
  instances : InstanceId → Instance

def World.empty : World :=
  { store := .empty
    instances := fun _ => .fresh }

def World.setInstance (world : World) (id : InstanceId) (value : Instance) : World :=
  { world with instances := Function.update world.instances id value }

/-- The readings of SQLite's clock and of the scheduler's, and how `createRun`
ends. -/
structure Env where
  storeNow : Int
  clock : Timestamp
  createRun : Except Thrown Unit

structure Deployment where
  dates : Dates
  scope : ChannelScope
  services : InstanceId → SchedulerService

variable (deployment : Deployment)

def World.transact {α : Type} (world : World) (body : Store → Except Thrown (α × Store)) :
    Except Thrown α × World :=
  let committed := atomically body world.store
  (committed.1, { world with store := committed.2 })

def perform (env : Env) (id : InstanceId) (world : World) :
    (request : Request) → Except Thrown request.Response × World
  | .listSchedules => (.ok world.store.listSchedules, world)
  | .createSchedule schedule =>
    world.transact (fun store => store.createSchedule deployment.dates deployment.scope schedule)
  | .cancelSchedule scheduleId _ =>
    world.transact (fun store => store.cancelSchedule scheduleId)
  | .hasScheduleTriggerRegistration trigger =>
    (.ok (world.store.hasScheduleTriggerRegistration trigger), world)
  | .appendIdempotent event =>
    world.transact (fun store => store.appendIdempotent deployment.dates deployment.scope event)
  | .skipScheduleOccurrence occurrence =>
    world.transact (fun store =>
      store.skipScheduleOccurrence deployment.dates deployment.scope occurrence)
  | .listScheduleOccurrences scheduleId =>
    (.ok (world.store.listScheduleOccurrences scheduleId), world)
  | .claimScheduleOccurrence occurrence =>
    world.transact (fun store =>
      store.claimScheduleOccurrence deployment.dates deployment.scope occurrence)
  | .listScheduleNotifications scheduleId =>
    (.ok (world.store.listScheduleNotifications scheduleId), world)
  | .claimScheduleOccurrenceRecovery occurrence ownerId =>
    world.transact (fun store => store.claimScheduleOccurrenceRecovery deployment.dates
      deployment.scope env.storeNow occurrence ownerId)
  | .claimScheduleOccurrenceExecution occurrence ownerId =>
    world.transact (fun store => store.claimScheduleOccurrenceExecution deployment.dates
      deployment.scope env.storeNow occurrence ownerId)
  | .recordScheduleNotification notification =>
    world.transact (fun store =>
      store.recordScheduleNotification deployment.dates deployment.scope notification)
  | .createRun _ _ _ => (env.createRun, world)
  | .now => (.ok env.clock, world)
  | .processingHas processingKey =>
    (.ok (decide (processingKey ∈ (world.instances id).processingOccurrences)), world)
  | .processingAdd processingKey =>
    let state := world.instances id
    (.ok (), world.setInstance id
      { state with
        processingOccurrences := state.processingOccurrences.insert processingKey })
  | .processingDelete processingKey =>
    let state := world.instances id
    (.ok (), world.setInstance id
      { state with
        processingOccurrences :=
          state.processingOccurrences.filter (fun key => key ≠ processingKey) })
  | .setInterval occurrence =>
    let state := world.instances id
    (.ok state.nextTimer, world.setInstance id
      { state with
        timers := { id := state.nextTimer, occurrence, leaseLost := false } :: state.timers
        nextTimer := state.nextTimer + 1 })
  | .leaseLost timer =>
    (.ok ((world.instances id).timers.any (fun set => decide (set.id = timer) && set.leaseLost)),
      world)
  | .clearInterval timer =>
    let state := world.instances id
    (.ok (), world.setInstance id
      { state with timers := state.timers.filter (fun set => set.id ≠ timer) })

def renew (storeNow : Int) (id : InstanceId) (timer : Timer) (world : World) : World :=
  let renewed := world.transact (fun store => store.renewScheduleOccurrenceRecovery
    deployment.dates deployment.scope storeNow timer.occurrence
    (deployment.services id).recoveryOwnerId)
  let state := world.instances id
  let lost := match renewed.1 with
    | .ok true => false
    | _ => true
  renewed.2.setInstance id
    { state with
      timers := state.timers.map (fun set =>
        if set.id = timer.id then { set with leaseLost := set.leaseLost || lost } else set) }

/-- What happens to the store and the instances besides their calls. -/
inductive Drift : World → World → Prop
  | renewed {world : World} (storeNow : Int) (id : InstanceId) {timer : Timer}
      (set : timer ∈ (world.instances id).timers) :
      Drift world (renew deployment storeNow id timer world)
  | registered (world : World) (trigger : ScheduleTrigger) :
      Drift world { world with store := world.store.registerScheduleTrigger trigger }
  | appended (world : World)
      (events : Table EventId (CanonicalEvent LifecyclePayload) CanonicalEvent.id)
      (longer : world.store.events.rows <+: events.rows) :
      Drift world { world with store := { world.store with events } }

inductive Call where
  | schedule (record : ScheduleRecord)
  | list
  | cancel (scheduleId : ScheduleId)
  | tick
  | recover

def Call.program (service : SchedulerService) : Call → Async Unit
  | .schedule record => (service.schedule deployment.dates record).discard
  | .list => SchedulerService.list.discard
  | .cancel scheduleId => (SchedulerService.cancel deployment.dates scheduleId).discard
  | .tick => service.tick deployment.dates
  | .recover => service.recover deployment.dates

def host : Host World InstanceId Request Request.Response Thrown where
  performs id request before answer after :=
    ∃ env, perform deployment env id before request = (answer, after)
  starts id program world :=
    (world.instances id).running = true ∧
      ∃ call : Call, program = call.program deployment (deployment.services id)
  stops id before after :=
    after = before.setInstance id { Instance.fresh with running := false }
  drifts before after := Drift deployment before after

abbrev Crowd := Foundation.Crowd World InstanceId Request Request.Response Thrown

abbrev Happening := Foundation.Happening InstanceId Request Request.Response Thrown

/-- Runs of any number of instances, from a store without rows. -/
abbrev SchedulerRun (trace : List (Move Crowd Happening)) (last : Crowd) : Prop :=
  Run (host deployment).Step ⟨World.empty, []⟩ trace last

/-- One step of a script: a call of an instance, the answer to the request a
process waits on, or the end of an instance. -/
inductive Choice where
  | call (id : InstanceId) (invoked : Call)
  | answer (index : Nat) (env : Env)
  | crash (id : InstanceId)

def Choice.move (crowd : Crowd) : Choice → Option (Happening × Crowd)
  | .call id invoked =>
    if (crowd.shared.instances id).running = true then
      let program := invoked.program deployment (deployment.services id)
      some (.started id program, ⟨crowd.shared, crowd.processes ++ [⟨id, program⟩]⟩)
    else none
  | .answer index env =>
    match crowd.processes[index]? with
    | some ⟨id, .ask request next⟩ =>
      let answered := perform deployment env id crowd.shared request
      some (.answered id request answered.1,
        ⟨answered.2, crowd.processes.set index ⟨id, next answered.1⟩⟩)
    | _ => none
  | .crash id =>
    some (.stopped id,
      ⟨crowd.shared.setInstance id { Instance.fresh with running := false },
        crowd.processes.filter (fun process => process.owner ≠ id)⟩)

theorem Choice.move_step {choice : Choice} {crowd crowd' : Crowd} {happening : Happening}
    (moved : choice.move deployment crowd = some (happening, crowd')) :
    (host deployment).Step crowd happening crowd' := by
  cases choice with
  | call id invoked =>
    simp only [Choice.move] at moved
    split at moved
    · rename_i running
      cases moved
      exact .started ⟨running, invoked, rfl⟩
    · cases moved
  | answer index env =>
    simp only [Choice.move] at moved
    split at moved
    · rename_i id request next waiting
      cases moved
      exact .answered waiting ⟨env, rfl⟩
    · cases moved
  | crash id =>
    cases moved
    exact .stopped rfl

/-- The moves of a script and where they lead; impossible choices are left
out. -/
def play : List Choice → Crowd → List (Move Crowd Happening) × Crowd
  | [], crowd => ([], crowd)
  | choice :: rest, crowd =>
    match choice.move deployment crowd with
    | none => play rest crowd
    | some (happening, crowd') =>
      let later := play rest crowd'
      (⟨crowd, happening, crowd'⟩ :: later.1, later.2)

theorem play_run (choices : List Choice) (crowd : Crowd) :
    Run (host deployment).Step crowd (play deployment choices crowd).1
      (play deployment choices crowd).2 := by
  induction choices generalizing crowd with
  | nil => exact .nil crowd
  | cons choice rest ih =>
    unfold play
    cases moved : choice.move deployment crowd with
    | none => exact ih crowd
    | some result =>
      rcases result with ⟨happening, crowd'⟩
      exact .cons (Choice.move_step deployment moved) (ih crowd')

def createRuns (scheduleId : ScheduleId) (dueAt : Timestamp) (trace : List (Move Crowd Happening)) :
    Nat :=
  trace.countP (fun move =>
    match move.label with
    | .answered _ (.createRun schedule due _) _ => decide (schedule = scheduleId ∧ due = dueAt)
    | _ => false)

def Happening.Cancels (happening : Happening) (scheduleId : ScheduleId) : Prop :=
  ∃ id cancelledAt schedule,
    happening = .answered id (.cancelSchedule scheduleId cancelledAt) (.ok (some schedule))

namespace World

def Skipped (world : World) (scheduleId : ScheduleId) (dueAt : Timestamp) : Prop :=
  ∃ row, world.store.findDue scheduleId dueAt = some row ∧ row.status = some .skipped

def Unclaimed (world : World) (scheduleId : ScheduleId) (dueAt : Timestamp) : Prop :=
  world.store.findDue scheduleId dueAt = none

end World

end AnnaAgent.Scheduler
