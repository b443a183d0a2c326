/-
The store as a transition system.

A call is one operation with its arguments and everything it draws from outside
the database, so any number of owners and store instances on one database file
are a sequence of calls.  Reads change nothing and are not calls.
-/

import AnnaAgent.Foundation.Run
import AnnaAgent.Execution.Dispatch
import AnnaAgent.Execution.Outbox

namespace AnnaAgent.Execution

open Foundation

inductive Operation where
  | dispatch (command : ExecutionCommand) (maxQueueDepth : Int)
  | claimNext (ownerId : String) (leaseTtlSeconds : Seconds)
  | heartbeat (executionId : ExecutionId) (ownerId : String) (leaseToken : Nat)
      (leaseTtlSeconds : Seconds)
  | commitLoopResult (executionId : ExecutionId) (ownerId : String) (leaseToken : Nat)
      (result : LoopResult) (signalIds : Option (List SignalId))
  | failExecution (executionId : ExecutionId) (ownerId : String) (leaseToken : Nat)
      (errorCode message : String)
  | scheduleRetryClaimed (executionId : ExecutionId) (ownerId : String) (leaseToken : Nat)
      (reason errorCode message : String) (notBefore : Seconds) (maxAttempts : Int)
  | deadLetterClaimed (executionId : ExecutionId) (ownerId : String) (leaseToken : Nat)
      (reason errorCode message : String) (maxAttempts : Int)
  | requeueClaimed (executionId : ExecutionId) (ownerId : String) (leaseToken : Nat)
      (reason : String)
  | reconcileStartup
  | recordToolEffect (executionId : ExecutionId) (effectKey : EffectKey)
      (toolName requestHash : String) (status : ToolEffectStatus) (result : Option JsonObject)
  | claimOutboxEvents (ownerId : String) (limit : Int) (leaseTtlSeconds : Seconds)
      (subjectRefPrefix : Option String)
  | ackOutboxEvents (events : List ExecutionOutboxEvent) (ownerId claimToken : String)

structure Call where
  env : Env
  operation : Operation

inductive Response where
  | snapshot (value : ExecutionSnapshot)
  | lease (value : Option ExecutionLease)
  | renewed (value : Bool)
  | count (value : Nat)
  | recorded
  | outboxEvents (value : List ExecutionOutboxEvent)

abbrev Outcome := Except StoreError Response

def Outcome.lease : Outcome → Option ExecutionLease
  | .ok (.lease lease) => lease
  | _ => none

theorem Outcome.eq_of_lease {outcome : Outcome} {lease : ExecutionLease}
    (claimed : outcome.lease = some lease) : outcome = .ok (.lease (some lease)) := by
  unfold Outcome.lease at claimed
  split at claimed
  · rw [claimed]
  · cases claimed

def answer {α : Type} (wrap : α → Response) (result : Except StoreError α × Db) : Outcome × Db :=
  (result.1.map wrap, result.2)

theorem answer_atomically {α : Type} {wrap : α → Response}
    {body : Db → Except StoreError (α × Db)} {db db' : Db} {outcome : Outcome}
    (done : answer wrap (atomically body db) = (outcome, db')) :
    (∃ value, body db = .ok (value, db') ∧ outcome = .ok (wrap value)) ∨
      (∃ error, body db = .error error ∧ outcome = .error error) ∧ db' = db := by
  unfold answer atomically at done
  cases result : body db with
  | ok pair =>
    rcases pair with ⟨value, last⟩
    rw [result] at done
    cases done
    exact Or.inl ⟨value, rfl, rfl⟩
  | error error =>
    rw [result] at done
    cases done
    exact Or.inr ⟨⟨error, rfl, rfl⟩, rfl⟩

/-- The clock never goes back, within a call or from one call to the next. -/
def Timely (calls : List Call) : Prop :=
  (∀ call ∈ calls, Monotone call.env.clock) ∧
    calls.Pairwise (fun early late => ∀ reading other,
      early.env.clock reading ≤ late.env.clock other)

theorem timely_of_instants {calls : List Call} (instants : List Time)
    (clocks : calls.map (fun call => call.env.clock) = instants.map (fun instant _ => instant))
    (ordered : instants.Pairwise (fun early late => early ≤ late)) : Timely calls := by
  constructor
  · intro call member
    have clock := List.mem_map_of_mem (f := fun call : Call => call.env.clock) member
    rw [clocks] at clock
    obtain ⟨instant, _, steady⟩ := List.mem_map.1 clock
    rw [← steady]
    exact monotone_const
  · have ordered' : (instants.map (fun instant (_ : Nat) => instant)).Pairwise
        (fun early late => ∀ reading other, early reading ≤ late other) :=
      List.pairwise_map.2 (ordered.imp (fun before _ _ => before))
    rw [← clocks] at ordered'
    exact List.pairwise_map.1 ordered'

def perform (digest : Digest) (call : Call) (db : Db) : Outcome × Db :=
  let env := call.env
  match call.operation with
  | .dispatch command maxQueueDepth =>
    answer .snapshot (db.dispatch digest env command maxQueueDepth)
  | .claimNext ownerId leaseTtlSeconds =>
    answer .lease (atomically (Db.claimNext env ownerId leaseTtlSeconds) db)
  | .heartbeat executionId ownerId leaseToken leaseTtlSeconds =>
    answer .renewed
      (atomically (Db.heartbeat env executionId ownerId leaseToken leaseTtlSeconds) db)
  | .commitLoopResult executionId ownerId leaseToken result signalIds =>
    answer .snapshot
      (atomically (Db.commitLoopResult env executionId ownerId leaseToken result signalIds) db)
  | .failExecution executionId ownerId leaseToken errorCode message =>
    answer .snapshot
      (atomically (Db.failExecution env executionId ownerId leaseToken errorCode message) db)
  | .scheduleRetryClaimed executionId ownerId leaseToken reason errorCode message notBefore
      maxAttempts =>
      answer .snapshot
        (atomically (Db.scheduleRetryClaimed env executionId ownerId leaseToken reason errorCode
          message notBefore maxAttempts) db)
  | .deadLetterClaimed executionId ownerId leaseToken reason errorCode message maxAttempts =>
    answer .snapshot
      (atomically (Db.deadLetterClaimed env executionId ownerId leaseToken reason errorCode
        message maxAttempts) db)
  | .requeueClaimed executionId ownerId leaseToken reason =>
    answer .snapshot (atomically (Db.requeueClaimed env executionId ownerId leaseToken reason) db)
  | .reconcileStartup => answer .count (atomically (Db.reconcileStartup env) db)
  | .recordToolEffect executionId effectKey toolName requestHash status result =>
    answer (fun _ => .recorded)
      (atomically (Db.recordToolEffect env executionId effectKey toolName requestHash status
        result) db)
  | .claimOutboxEvents ownerId limit leaseTtlSeconds subjectRefPrefix =>
    answer .outboxEvents
      (atomically (Db.claimOutboxEvents env ownerId limit leaseTtlSeconds subjectRefPrefix) db)
  | .ackOutboxEvents events ownerId claimToken =>
    answer .count (atomically (Db.ackOutboxEvents env events ownerId claimToken) db)

structure Performed where
  call : Call
  outcome : Outcome

def Step (digest : Digest) (before : Db) (performed : Performed) (after : Db) : Prop :=
  perform digest performed.call before = (performed.outcome, after)

abbrev StoreRun (digest : Digest) (trace : List (Move Db Performed)) (last : Db) : Prop :=
  Run (Step digest) Db.empty trace last

abbrev ReachableDb (digest : Digest) (db : Db) : Prop :=
  Reachable (Step digest) Db.empty db

def performAll (digest : Digest) (db : Db) (calls : List Call) : Db :=
  calls.foldl (fun db call => (perform digest call db).2) db

def record (digest : Digest) (db : Db) : List Call → List (Move Db Performed)
  | [] => []
  | call :: rest =>
    ⟨db, ⟨call, (perform digest call db).1⟩, (perform digest call db).2⟩ ::
      record digest (perform digest call db).2 rest

theorem record_run (digest : Digest) (db : Db) (calls : List Call) :
    Run (Step digest) db (record digest db calls) (performAll digest db calls) := by
  induction calls generalizing db with
  | nil => exact .nil db
  | cons call rest ih => exact .cons rfl (ih (perform digest call db).2)

theorem record_append (digest : Digest) (db : Db) (early late : List Call) :
    record digest db (early ++ late) =
      record digest db early ++ record digest (performAll digest db early) late := by
  induction early generalizing db with
  | nil => rfl
  | cons call rest ih => exact congrArg (List.cons _) (ih _)

theorem record_calls (digest : Digest) (db : Db) (calls : List Call) :
    (record digest db calls).map (fun move => move.label.call) = calls := by
  induction calls generalizing db with
  | nil => rfl
  | cons call rest ih => exact congrArg (List.cons call) (ih _)

theorem call_of_mem_record {digest : Digest} {db : Db} {calls : List Call}
    {move : Move Db Performed} (member : move ∈ record digest db calls) :
    move.label.call ∈ calls := by
  rw [← record_calls digest db calls]
  exact List.mem_map_of_mem member

theorem performAll_reachable (digest : Digest) (calls : List Call) :
    ReachableDb digest (performAll digest Db.empty calls) :=
  ⟨_, record_run digest Db.empty calls⟩

def sampleDigest : Digest := fun payload =>
  match dictGet payload "request_id" with
  | some (.str requestId) => requestId
  | _ => ""

def callAt (now : Time) (uuid : String) (operation : Operation) : Call :=
  { env := { clock := fun _ => now, uuid := uuid, fault := fun _ => false }
    operation := operation }

def sampleStart (requestId : RequestId) : Operation :=
  .dispatch
    (.start
      { requestId := requestId, workspaceId := "ws", conversationId := "conversation",
        channelId := "channel", subjectRef := "subject", triggerRef := "trigger",
        workerProfileRef := "worker", runProfileRef := "run", input := [] })
    100

def sampleSignal (requestId : RequestId) (executionId : ExecutionId) : Operation :=
  .dispatch
    (.signal
      { requestId := requestId, workspaceId := "ws", executionId := executionId,
        kind := .steer, payload := [] })
    100

end AnnaAgent.Execution
