/-
The loops of `claim_next` and `reconcile_startup`.

Every round of the claim loop blocks one lapsed execution.  Until its own round
an execution is as the transaction found it, which tells for which executions
the loop can get that far.
-/

import AnnaAgent.Execution.Steps

namespace AnnaAgent.Execution

open Foundation

variable {env : Env} {db db' : Db} {now : Time}

def Db.LapsedUncertain (db : Db) (now : Time) (row : ExecutionRow) : Prop :=
  row.Lapsed now ∧ db.hasRecoveryBlockingEffect row.executionId = true

/-- `claim_next` reaches the execution and blocks it: all that is claimable
before it is blocked as well. -/
def Db.BlockedByClaim (db : Db) (now : Time) (executionId : ExecutionId) : Prop :=
  ∃ row, db.executions.find? executionId = some row ∧ db.LapsedUncertain now row ∧
    ∀ other ∈ db.executions.rows, db.Claimable now other →
      other.claimOrder < row.claimOrder → db.LapsedUncertain now other

variable {row : ExecutionRow}

theorem nextClaimable_some (next : db.nextClaimable now = some row) :
    row ∈ db.executions.rows ∧ db.Claimable now row ∧
      ∀ other ∈ db.executions.rows, db.Claimable now other →
        row.claimOrder ≤ other.claimOrder := by
  unfold Db.nextClaimable at next
  have selected := (Table.mem_select _).1 (List.minOn?_mem next)
  refine ⟨selected.1, selected.2, ?_⟩
  intro other member claimable
  have selectedOther := (Table.mem_select (fun row => db.Claimable now row)).2 ⟨member, claimable⟩
  have least := @List.apply_get_minOn?_le_of_mem _ _ _ _ _ ExecutionRow.claimOrder _ _ selectedOther
  simp only [next, Option.get_some] at least
  exact least

theorem Claimable.lapsed (claimable : db.Claimable now row) (running : row.status = .running) :
    row.Lapsed now := by
  rcases claimable with ⟨queued, _⟩ | ⟨awaiting, _⟩ | lapsed
  · rw [running] at queued
    cases queued
  · rw [running] at awaiting
    cases awaiting
  · exact lapsed

/-- Since the transaction began, the execution is unchanged or was blocked. -/
def SinceBegin (begun db : Db) (now : Time) (executionId : ExecutionId) : Prop :=
  db.aggregate executionId = begun.aggregate executionId ∨
    ((∃ row, begun.executions.find? executionId = some row ∧ begun.LapsedUncertain now row) ∧
      ∃ row, db.executions.find? executionId = some row ∧ row.status = .awaitingSignal)

theorem claimable_congr (same : db'.aggregate row.executionId = db.aggregate row.executionId) :
    db'.Claimable now row ↔ db.Claimable now row := by
  have pending : db'.pendingSignals row.executionId = db.pendingSignals row.executionId :=
    congrArg Aggregate.pending same
  unfold Db.Claimable
  rw [pending]

variable {begun : Db}

theorem blockedByClaim_of_next (since : ∀ executionId, SinceBegin begun db now executionId)
    (next : db.nextClaimable now = some row) (running : row.status = .running)
    (blocked : db.hasRecoveryBlockingEffect row.executionId = true) :
    begun.BlockedByClaim now row.executionId := by
  obtain ⟨member, claimable, first⟩ := nextClaimable_some next
  have found := Table.find?_of_mem member
  rcases since row.executionId with same | ⟨_, other, foundOther, awaiting⟩
  · have foundBegun : begun.executions.find? row.executionId = some row :=
      (congrArg Aggregate.row same).symm.trans found
    have blockedBegun : begun.hasRecoveryBlockingEffect row.executionId = true :=
      (congrArg Aggregate.blocked same).symm.trans blocked
    refine ⟨row, foundBegun, ⟨Claimable.lapsed claimable running, blockedBegun⟩, ?_⟩
    intro other otherMember otherClaimable earlier
    have foundOther := Table.find?_of_mem otherMember
    rcases since other.executionId with sameOther | ⟨⟨begunRow, foundBegunRow, uncertain⟩, _⟩
    · have stillThere : db.executions.find? other.executionId = some other :=
        (congrArg Aggregate.row sameOther).trans foundOther
      have notEarlier := first other (Table.find?_mem stillThere)
        ((claimable_congr sameOther).2 otherClaimable)
      exact absurd earlier (not_lt.2 notEarlier)
    · rw [foundOther] at foundBegunRow
      rw [Option.some.inj foundBegunRow]
      exact uncertain
  · rw [found] at foundOther
    rw [← Option.some.inj foundOther, running] at awaiting
    cases awaiting

theorem sinceBegin_blocked (since : ∀ executionId, SinceBegin begun db now executionId)
    (next : db.nextClaimable now = some row) (running : row.status = .running)
    (blocked : db.hasRecoveryBlockingEffect row.executionId = true)
    (advanced : Advanced row.executionId (.released .blockedLapsed) db db') :
    ∀ executionId, SinceBegin begun db' now executionId := by
  intro executionId
  by_cases here : executionId = row.executionId
  · subst here
    right
    obtain ⟨begunRow, found, uncertain, _⟩ := blockedByClaim_of_next since next running blocked
    refine ⟨⟨begunRow, found, uncertain⟩, ?_⟩
    rcases advanced.here.released_inv with ⟨_, row', _, _, _, _, written, status, _⟩
    exact ⟨row', written, status⟩
  · unfold SinceBegin
    have same := advanced.elsewhere executionId here
    have sameRow : db'.executions.find? executionId = db.executions.find? executionId :=
      congrArg Aggregate.row same
    rw [same, sameRow]
    exact since executionId

def LoopAllows (begun : Db) (now : Time) (executionId : ExecutionId) (label : Label) : Prop :=
  label = .released .blockedLapsed ∧ begun.BlockedByClaim now executionId

theorem claimLoop_traced {fuel tick tick' : Nat} {picked : Option ExecutionRow}
    (since : ∀ executionId, SinceBegin begun db now executionId)
    (done : Db.claimLoop env now fuel tick db = .ok (picked, tick', db')) :
    Traced (LoopAllows begun now) db db' ∧ db'.nextClaimable now = picked ∧
      ∀ row ∈ picked, row.status = .running →
        db'.hasRecoveryBlockingEffect row.executionId = false := by
  induction fuel generalizing tick db with
  | zero => cases done
  | succ fuel ih =>
    unfold Db.claimLoop at done
    split at done
    · rename_i none
      cases done
      exact ⟨.refl _, none, fun _ member => absurd member (Option.not_mem_none _)⟩
    · rename_i row next
      split at done
      · rename_i uncertain
        obtain ⟨middle, blocking, done⟩ := bind_ok done
        rcases uncertain with ⟨running, blocked⟩
        obtain ⟨member, claimable, _⟩ := nextClaimable_some next
        have advanced := blockExpiredRunningForRecovery_advanced
          (Table.find?_of_mem member) (Claimable.lapsed claimable running) blocked blocking
        obtain ⟨later, picks, safe⟩ :=
          ih (sinceBegin_blocked since next running blocked advanced) done
        have allowed : LoopAllows begun now row.executionId (.released .blockedLapsed) :=
          ⟨rfl, blockedByClaim_of_next since next running blocked⟩
        exact ⟨(advanced.traced allowed).trans later, picks, safe⟩
      · rename_i certain
        cases done
        refine ⟨.refl _, next, ?_⟩
        intro other same running
        cases same
        rw [← Bool.not_eq_true]
        exact fun blocked => certain ⟨running, blocked⟩

theorem appendEvent_error {executionId : ExecutionId} {type : String} {payload : JsonObject}
    {error : StoreError} (failed : db.appendEvent executionId type payload now = .error error) :
    ∃ constraint, error = .integrity constraint := by
  rcases bind_error failed with missing | ⟨_, _, failed⟩
  · exact ⟨_, require_error missing⟩
  rcases bind_error failed with taken | ⟨_, _, failed⟩
  · exact ⟨_, orThrow_error taken⟩
  rcases bind_error failed with copied | ⟨_, _, failed⟩
  · exact ⟨_, require_error copied⟩
  rcases bind_error failed with taken | ⟨_, _, failed⟩
  · exact ⟨_, orThrow_error taken⟩
  · cases failed

def ExecutionRow.nextLease (row : ExecutionRow) (ownerId : String) (leaseExpiresAt : Time) :
    ExecutionLease :=
  { executionId := row.executionId
    ownerId := ownerId
    leaseToken := row.leaseToken + 1
    attempt := row.attempt + 1
    leaseExpiresAt := leaseExpiresAt }

theorem claimRow_advanced {ownerId : String} {leaseExpiresAt : Time} {tick : Nat}
    {lease : ExecutionLease} (member : row ∈ db.executions.rows) (claimable : db.Claimable now row)
    (safe : row.status = .running → db.hasRecoveryBlockingEffect row.executionId = false)
    (done : Db.claimRow env now ownerId leaseExpiresAt row tick db = .ok (lease, db')) :
    lease = row.nextLease ownerId leaseExpiresAt ∧
      ∃ label, label.Claims ∧ Advanced row.executionId label db db' := by
  obtain ⟨_, expired, done⟩ := bind_ok done
  obtain ⟨_, opened, done⟩ := bind_ok done
  obtain ⟨_, announced, done⟩ := bind_ok done
  cases done
  refine ⟨rfl, ?_⟩
  have present : (db.aggregate row.executionId).row = some row := Table.find?_of_mem member
  unfold Db.expireAttempt at expired
  by_cases running : row.status = .running
  · rw [if_pos running] at expired
    have lapsed := Claimable.lapsed claimable running
    have chain := ((((Moved.refl db row.executionId).setAttemptByNumber row.attempt
      .expired).appendEvent expired).updateExecutions (fun _ chosen => chosen.1) present
      ⟨rfl, Or.inr (Or.inr lapsed)⟩).insertAttempt rfl opened
    exact ⟨.reclaimed, trivial, (chain.appendEvent announced).advanced
      (.reclaimed present lapsed (safe running) rfl rfl)⟩
  · rw [if_neg running] at expired
    cases expired
    have idle : row.status = .queued ∨
        (row.status = .awaitingSignal ∧ db.pendingSignals row.executionId ≠ []) := by
      rcases claimable with ⟨queued, _⟩ | awaiting | ⟨isRunning, _⟩
      · exact Or.inl queued
      · exact Or.inr awaiting
      · exact absurd isRunning running
    have chosen : row.status = .queued ∨ row.status = .awaitingSignal ∨ row.Lapsed now :=
      idle.imp_right (fun awaiting => Or.inl awaiting.1)
    have chain := ((Moved.refl db row.executionId).updateExecutions (fun _ chosen => chosen.1)
      present ⟨rfl, chosen⟩).insertAttempt rfl opened
    exact ⟨.claimed, trivial, (chain.appendEvent announced).advanced (.claimed present idle rfl)⟩

inductive ClaimOutcome (now : Time) (db db' : Db) : Option ExecutionLease → Prop
  | nothing (blocked : Traced (LoopAllows db now) db db')
      (exhausted : db'.nextClaimable now = none) : ClaimOutcome now db db' none
  | claimed {middle : Db} {row : ExecutionRow} {ownerId : String} {leaseExpiresAt : Time}
      {label : Label} (blocked : Traced (LoopAllows db now) db middle)
      (next : middle.nextClaimable now = some row) (claims : label.Claims)
      (advanced : Advanced row.executionId label middle db') :
      ClaimOutcome now db db' (some (row.nextLease ownerId leaseExpiresAt))

theorem claimNext_outcome {ownerId : String} {leaseTtlSeconds : Seconds}
    {lease : Option ExecutionLease}
    (done : Db.claimNext env ownerId leaseTtlSeconds db = .ok (lease, db')) :
    ClaimOutcome env.now db db' lease := by
  obtain ⟨ttl, _, done⟩ := bind_ok done
  obtain ⟨⟨picked, tick, middle⟩, looped, done⟩ := bind_ok done
  obtain ⟨blocked, next, safe⟩ := claimLoop_traced (fun _ => Or.inl rfl) looped
  cases picked with
  | none =>
    cases done
    exact .nothing blocked next
  | some row =>
    obtain ⟨⟨taken, last⟩, claiming, done⟩ := bind_ok done
    cases done
    obtain ⟨member, claimable, _⟩ := nextClaimable_some next
    obtain ⟨sameLease, label, claims, advanced⟩ :=
      claimRow_advanced member claimable (safe row rfl) claiming
    rw [sameLease]
    exact .claimed blocked next claims advanced

def HealAllows (begun : Db) (now : Time) (executionId : ExecutionId) (label : Label) : Prop :=
  label = .released .requeuedLapsed ∨
    (label = .released .blockedLapsed ∧
      ∃ row, begun.executions.find? executionId = some row ∧ begun.LapsedUncertain now row)

theorem healLapsedRow_advanced {eventAt : Time}
    (found : db.executions.find? row.executionId = some row) (lapsed : row.Lapsed now)
    (done : db.healLapsedRow row now eventAt = .ok db') :
    ∃ label, HealAllows db now row.executionId label ∧ Advanced row.executionId label db db' := by
  unfold Db.healLapsedRow at done
  split at done
  · rename_i blocked
    exact ⟨_, Or.inr ⟨rfl, row, found, lapsed, blocked⟩,
      blockExpiredRunningForRecovery_advanced found lapsed blocked done⟩
  · rename_i safe
    rw [Bool.not_eq_true] at safe
    exact ⟨_, Or.inl rfl, requeueLapsedRow_advanced found lapsed safe done⟩

theorem reconcileRows_traced {tick : Nat} {rows : List ExecutionRow}
    (distinct : (rows.map ExecutionRow.executionId).Nodup) (lapsed : ∀ row ∈ rows, row.Lapsed now)
    (untouched : ∀ row ∈ rows, begun.executions.find? row.executionId = some row ∧ db.aggregate row.executionId = begun.aggregate row.executionId)
    (done : Db.reconcileRows env now tick rows db = .ok db') :
    Traced (HealAllows begun now) db db' := by
  induction rows generalizing tick db with
  | nil =>
    cases done
    exact .refl _
  | cons row rest ih =>
    obtain ⟨middle, healed, done⟩ := bind_ok done
    obtain ⟨foundBegun, same⟩ := untouched row List.mem_cons_self
    have found : db.executions.find? row.executionId = some row :=
      (congrArg Aggregate.row same).trans foundBegun
    obtain ⟨label, allowed, advanced⟩ :=
      healLapsedRow_advanced found (lapsed row List.mem_cons_self) healed
    have allowedBegun : HealAllows begun now row.executionId label := by
      apply allowed.imp_right
      rintro ⟨isBlock, other, foundOther, lapsedOther, blockedOther⟩
      rw [found] at foundOther
      cases foundOther
      exact ⟨isBlock, row, foundBegun, lapsedOther,
        (congrArg Aggregate.blocked same).symm.trans blockedOther⟩
    rw [List.map_cons, List.nodup_cons] at distinct
    refine (advanced.traced allowedBegun).trans (ih distinct.2 ?_ ?_ done)
    · intro other member
      exact lapsed other (List.mem_cons_of_mem _ member)
    · intro other member
      obtain ⟨foundOther, sameOther⟩ := untouched other (List.mem_cons_of_mem _ member)
      have different : other.executionId ≠ row.executionId := by
        intro clash
        exact distinct.1 (clash ▸ List.mem_map_of_mem member)
      exact ⟨foundOther, (advanced.elsewhere _ different).trans sameOther⟩

theorem reconcileStartup_traced {count : Nat}
    (done : Db.reconcileStartup env db = .ok (count, db')) :
    Traced (HealAllows db env.now) db db' := by
  obtain ⟨_, healed, done⟩ := bind_ok done
  cases done
  have rowsPerm : (db.lapsedRows env.now).Perm
      (db.executions.select (fun row => row.Lapsed env.now)) := List.perm_insertionSort _ _
  have inTable : ∀ row ∈ db.lapsedRows env.now, row ∈ db.executions.rows ∧ row.Lapsed env.now := by
    intro row member
    exact (Table.mem_select _).1 (rowsPerm.mem_iff.1 member)
  apply reconcileRows_traced ?_ ?_ ?_ healed
  · have sublist := List.filter_sublist (p := fun row => decide (row.Lapsed env.now))
      (l := db.executions.rows)
    exact (rowsPerm.map _).nodup_iff.2 ((sublist.map _).nodup db.executions.keysNodup)
  · intro row member
    exact (inTable row member).2
  · intro row member
    exact ⟨Table.find?_of_mem (inTable row member).1, rfl⟩

end AnnaAgent.Execution
