/-
The outbox operations of `SQLiteExecutionStore`: consumers claim the earliest
undelivered event of each execution and acknowledge what they claimed.
-/

import Mathlib.Data.List.Infix
import AnnaAgent.Execution.Store

namespace AnnaAgent.Execution

open Foundation

structure ExecutionOutboxEvent where
  id : Nat
  executionId : ExecutionId
  seq : Nat
  type : String
  payload : JsonObject
  createdAt : Time
  claimOwner : String
  claimToken : String
  claimExpiresAt : Time

/-- `_row_to_outbox_event`, on a row whose claim columns are set. -/
def OutboxRow.toEvent (row : OutboxRow) : Option ExecutionOutboxEvent := do
  let claimOwner ← row.claimOwner
  let claimToken ← row.claimToken
  let claimExpiresAt ← row.claimExpiresAt
  return {
    id := row.id, executionId := row.executionId, seq := row.seq, type := row.type,
    payload := row.payload, createdAt := row.createdAt, claimOwner := claimOwner,
    claimToken := claimToken, claimExpiresAt := claimExpiresAt }

def OutboxRow.claimedBy (row : OutboxRow) (ownerId claimToken : String)
    (claimExpiresAt : Time) : OutboxRow :=
  { row with
    claimOwner := some ownerId
    claimToken := some claimToken
    claimExpiresAt := some claimExpiresAt }

def OutboxRow.delivered (row : OutboxRow) (deliveredAt : Time) : OutboxRow :=
  { row with
    deliveredAt := some deliveredAt
    claimOwner := none
    claimToken := none
    claimExpiresAt := none }

/-- `LIKE` folds the case of ASCII letters only. -/
def sameIgnoringAsciiCase (left right : Char) : Bool :=
  left.toLower = right.toLower

def likeChars : List Char → List Char → Bool
  | [], text => text.isEmpty
  | symbol :: pattern, text =>
    if symbol = '%' then text.tails.any (fun rest => likeChars pattern rest)
    else
      match text with
      | [] => false
      | character :: rest =>
        (symbol = '_' || sameIgnoringAsciiCase symbol character) && likeChars pattern rest

def like (pattern text : String) : Bool :=
  likeChars pattern.toList text.toList

def Acknowledges (ids : List Nat) (ownerId claimToken : String) (now : Time)
    (row : OutboxRow) : Prop :=
  row.id ∈ ids ∧ row.deliveredAt.isNone = true ∧ row.claimOwner = some ownerId ∧
    row.claimToken = some claimToken ∧ ∃ expires ∈ row.claimExpiresAt, now < expires

instance (ids : List Nat) (ownerId claimToken : String) (now : Time) (row : OutboxRow) :
    Decidable (Acknowledges ids ownerId claimToken now row) := by
  unfold Acknowledges
  infer_instance

namespace Db

/-- `NOT EXISTS` an earlier undelivered row of the same execution. -/
def HeadOfLine (db : Db) (row : OutboxRow) : Prop :=
  ∀ earlier ∈ db.outboxOf row.executionId, earlier.seq < row.seq → earlier.deliveredAt.isSome = true

/-- The optional `EXISTS` clause on the subject of the row's execution. -/
def InScope (db : Db) (subjectRefPrefix : Option String) (row : OutboxRow) : Prop :=
  ∀ text ∈ subjectRefPrefix,
    (db.executions.find? row.executionId).any
      (fun execution => like (text ++ "%") execution.subjectRef) = true

/-- The `WHERE` clause of the outbox query. -/
def OutboxClaimable (db : Db) (now : Time) (subjectRefPrefix : Option String)
    (row : OutboxRow) : Prop :=
  row.deliveredAt.isNone = true ∧ (∀ expires ∈ row.claimExpiresAt, expires ≤ now) ∧
    db.InScope subjectRefPrefix row ∧ db.HeadOfLine row

instance (db : Db) (now : Time) (subjectRefPrefix : Option String) (row : OutboxRow) :
    Decidable (db.OutboxClaimable now subjectRefPrefix row) := by
  unfold OutboxClaimable InScope HeadOfLine
  infer_instance

def outboxClaimIds (db : Db) (now : Time) (subjectRefPrefix : Option String) (limit : Int) :
    List Nat :=
  (((db.outbox.select (fun row => db.OutboxClaimable now subjectRefPrefix row)).insertionSort
      (fun left right => left.id ≤ right.id)).take (clampLimit limit)).map OutboxRow.id

def claimOutboxIds (db : Db) (ids : List Nat) (ownerId claimToken : String)
    (claimExpiresAt : Time) : List OutboxRow × Db :=
  let db := db.updateOutbox (fun row => row.id ∈ ids ∧ row.deliveredAt.isNone = true)
    (fun row => row.claimedBy ownerId claimToken claimExpiresAt)
  let claimed := (db.outbox.select
    (fun row => row.id ∈ ids ∧ row.claimOwner = some ownerId ∧
      row.claimToken = some claimToken)).insertionSort (fun left right => left.id ≤ right.id)
  (claimed, db)

def claimOutboxEvents (env : Env) (ownerId : String) (limit : Int) (leaseTtlSeconds : Seconds)
    (subjectRefPrefix : Option String) (db : Db) :
    Except StoreError (List ExecutionOutboxEvent × Db) := do
  let ttl ← validateLeaseTtl leaseTtlSeconds
  let ids := db.outboxClaimIds env.now subjectRefPrefix limit
  if ids.isEmpty then
    return ([], db)
  else
    let (claimed, db) := db.claimOutboxIds ids ownerId env.uuid (env.now + ttl)
    return (claimed.filterMap OutboxRow.toEvent, db)

def ackOutboxEvents (env : Env) (events : List ExecutionOutboxEvent) (ownerId claimToken : String)
    (db : Db) : Except StoreError (Nat × Db) :=
  let ids := events.map ExecutionOutboxEvent.id
  let acknowledged := db.outbox.select (Acknowledges ids ownerId claimToken env.now)
  .ok (acknowledged.length,
    db.updateOutbox (Acknowledges ids ownerId claimToken env.now)
      (fun row => row.delivered env.now))

end Db

end AnnaAgent.Execution
