/-
The lease invariant.

Three tables speak about the holder of an execution: its own row, the attempt
rows, and the token that both carry.  `LeaseInvariant` ties them together; each
transition either opens an attempt, ends the current one, or leaves both alone.
-/

import AnnaAgent.Execution.History

namespace AnnaAgent.Execution

open Foundation

structure LeaseInvariant (row : ExecutionRow) (attempts : List AttemptRow) : Prop where
  held : row.status = .running → row.leaseOwner.isSome = true ∧ row.leaseExpiresAt.isSome = true
  free : row.status ≠ .running → row.leaseOwner = none ∧ row.leaseExpiresAt = none
  token : row.leaseToken = row.attempt
  begun : row.status = .running → 0 < row.attempt
  numbered : attempts.map AttemptRow.attempt = List.range' 1 row.attempt
  tokens : ∀ attempt ∈ attempts, attempt.leaseToken = attempt.attempt
  current : ∀ attempt ∈ attempts,
    attempt.status = .running ↔ row.status = .running ∧ attempt.attempt = row.attempt
  owners : ∀ attempt ∈ attempts, row.status = .running → attempt.attempt = row.attempt →
    row.leaseOwner = some attempt.ownerId

namespace LeaseInvariant

variable {row row' : ExecutionRow} {attempts : List AttemptRow}

section

variable (invariant : LeaseInvariant row attempts)

include invariant

theorem token_iff_number {attempt : AttemptRow} (member : attempt ∈ attempts) :
    attempt.leaseToken = row.leaseToken ↔ attempt.attempt = row.attempt := by
  rw [invariant.tokens attempt member, invariant.token]

theorem kept (status : row'.status = row.status) (owner : row'.leaseOwner = row.leaseOwner)
    (expires : row'.leaseExpiresAt.isSome = row.leaseExpiresAt.isSome)
    (attempt : row'.attempt = row.attempt) (token : row'.leaseToken = row.leaseToken) :
    LeaseInvariant row' attempts := by
  constructor
  · rw [status, owner, expires]
    exact invariant.held
  · intro released
    rw [status] at released
    obtain ⟨noOwner, noExpiry⟩ := invariant.free released
    rw [noExpiry, Option.isSome_none, Option.isSome_eq_false_iff, Option.isNone_iff_eq_none]
      at expires
    exact ⟨owner.trans noOwner, expires⟩
  · rw [token, attempt]
    exact invariant.token
  · rw [status, attempt]
    exact invariant.begun
  · rw [attempt]
    exact invariant.numbered
  · exact invariant.tokens
  · rw [status, attempt]
    exact invariant.current
  · rw [status, attempt, owner]
    exact invariant.owners

theorem mapped {p : AttemptRow → Prop} [DecidablePred p] {assign : AttemptRow → AttemptRow}
    (same : ∀ attempt, (assign attempt).attempt = attempt.attempt ∧ (assign attempt).leaseToken = attempt.leaseToken ∧ (assign attempt).ownerId = attempt.ownerId)
    (status : row'.status = .running → row.status = .running)
    (sameOwner : row'.status = .running → row'.leaseOwner = row.leaseOwner)
    (held : row'.status = .running → row'.leaseExpiresAt.isSome = true)
    (free : row'.status ≠ .running → row'.leaseOwner = none ∧ row'.leaseExpiresAt = none)
    (sameAttempt : row'.attempt = row.attempt) (sameToken : row'.leaseToken = row.leaseToken)
    (current : ∀ attempt ∈ attempts, (if p attempt then assign attempt else attempt).status = .running ↔ row'.status = .running ∧ attempt.attempt = row.attempt)
    :
    LeaseInvariant row'
      (attempts.map (fun attempt => if p attempt then assign attempt else attempt)) := by
  have sameNumber : ∀ attempt,
      (if p attempt then assign attempt else attempt).attempt = attempt.attempt := by
    intro attempt
    split
    · exact (same attempt).1
    · rfl
  constructor
  · intro running
    rw [sameOwner running]
    exact ⟨(invariant.held (status running)).1, held running⟩
  · exact free
  · rw [sameToken, sameAttempt]
    exact invariant.token
  · intro running
    rw [sameAttempt]
    exact invariant.begun (status running)
  · rw [List.map_map, sameAttempt, ← invariant.numbered]
    exact List.map_congr_left (fun attempt _ => sameNumber attempt)
  · intro attempt member
    obtain ⟨old, oldMember, rfl⟩ := List.mem_map.1 member
    rw [sameNumber]
    split
    · rw [(same old).2.1]
      exact invariant.tokens old oldMember
    · exact invariant.tokens old oldMember
  · intro attempt member
    obtain ⟨old, oldMember, rfl⟩ := List.mem_map.1 member
    rw [sameNumber, sameAttempt]
    exact current old oldMember
  · intro attempt member running atCurrent
    obtain ⟨old, oldMember, rfl⟩ := List.mem_map.1 member
    rw [sameNumber, sameAttempt] at atCurrent
    rw [sameOwner running, invariant.owners old oldMember (status running) atCurrent]
    split
    · rw [(same old).2.2]
    · rfl

theorem ended {p : AttemptRow → Prop} [DecidablePred p] {status : AttemptStatus}
    (selects : ∀ attempt ∈ attempts, attempt.status = .running → p attempt)
    (notRunning : status ≠ .running) (released : row'.status ≠ .running)
    (free : row'.leaseOwner = none ∧ row'.leaseExpiresAt = none)
    (sameAttempt : row'.attempt = row.attempt) (sameToken : row'.leaseToken = row.leaseToken) :
    LeaseInvariant row' (attempts.map (fun attempt =>
      if p attempt then { attempt with status := status } else attempt)) := by
  apply invariant.mapped ?same (fun running => absurd running released)
    (fun running => absurd running released) (fun running => absurd running released)
    (fun _ => free) sameAttempt sameToken
  case same =>
    intro attempt
    exact ⟨rfl, rfl, rfl⟩
  intro attempt member
  constructor
  · intro running
    exfalso
    by_cases selected : p attempt
    · rw [if_pos selected] at running
      exact notRunning running
    · rw [if_neg selected] at running
      exact selected (selects attempt member running)
  · rintro ⟨running, _⟩
    exact absurd running released

end

theorem opened (token : row.leaseToken = row.attempt)
    (numbered : attempts.map AttemptRow.attempt = List.range' 1 row.attempt)
    (tokens : ∀ attempt ∈ attempts, attempt.leaseToken = attempt.attempt)
    (quiet : ∀ attempt ∈ attempts, attempt.status ≠ .running)
    (executionId : ExecutionId) (ownerId : String) (leaseExpiresAt now : Time) :
    LeaseInvariant
      (row.claimedBy ownerId (row.attempt + 1) (row.leaseToken + 1) leaseExpiresAt now)
      (attempts ++ [openedAttempt executionId row ownerId leaseExpiresAt now]) := by
  have earlier : ∀ attempt ∈ attempts, attempt.attempt ≤ row.attempt := by
    intro attempt member
    have number := List.mem_map_of_mem (f := AttemptRow.attempt) member
    rw [numbered, List.mem_range'_1] at number
    omega
  constructor
  · intro _
    exact ⟨rfl, rfl⟩
  · intro released
    exact absurd rfl released
  · exact congrArg (· + 1) token
  · intro _
    exact Nat.succ_pos _
  · rw [List.map_append, numbered]
    change _ ++ [row.attempt + 1] = List.range' 1 (row.attempt + 1)
    rw [List.range'_concat, Nat.one_mul, Nat.add_comm 1]
  · intro attempt member
    rcases List.mem_append.1 member with old | new
    · exact tokens attempt old
    · rw [List.mem_singleton.1 new]
      exact congrArg (· + 1) token
  · intro attempt member
    rcases List.mem_append.1 member with old | new
    · constructor
      · intro running
        exact absurd running (quiet attempt old)
      · rintro ⟨_, atCurrent⟩
        have below := earlier attempt old
        change attempt.attempt = row.attempt + 1 at atCurrent
        omega
    · rw [List.mem_singleton.1 new]
      exact ⟨fun _ => ⟨rfl, rfl⟩, fun _ => rfl⟩
  · intro attempt member _ atCurrent
    rcases List.mem_append.1 member with old | new
    · have below := earlier attempt old
      change attempt.attempt = row.attempt + 1 at atCurrent
      omega
    · rw [List.mem_singleton.1 new]
      rfl

end LeaseInvariant

structure Aggregate.Leased (aggregate : Aggregate) : Prop where
  absent : aggregate.row = none → aggregate.attempts = []
  present : ∀ row, aggregate.row = some row → LeaseInvariant row aggregate.attempts

variable {row : ExecutionRow}

namespace Aggregate.Leased

theorem of_row {aggregate : Aggregate} (written : aggregate.row = some row)
    (invariant : LeaseInvariant row aggregate.attempts) : aggregate.Leased := by
  constructor
  · intro missing
    rw [written] at missing
    cases missing
  · intro other found
    rw [written] at found
    cases found
    exact invariant

theorem of_same {before after : Aggregate} (leased : before.Leased)
    (sameRow : after.row = before.row) (sameAttempts : after.attempts = before.attempts) :
    after.Leased := by
  constructor
  · rw [sameRow, sameAttempts]
    exact leased.absent
  · rw [sameRow, sameAttempts]
    exact leased.present

end Aggregate.Leased

theorem LeaseInvariant.fresh (queued : row.status = .queued)
    (unclaimed : row.attempt = 0 ∧ row.leaseToken = 0)
    (free : row.leaseOwner = none ∧ row.leaseExpiresAt = none) : LeaseInvariant row [] := by
  have idle : row.status ≠ .running := by
    rw [queued]
    intro impossible
    cases impossible
  constructor
  · exact fun running => absurd running idle
  · exact fun _ => free
  · rw [unclaimed.1, unclaimed.2]
  · exact fun running => absurd running idle
  · rw [unclaimed.1]
    rfl
  · exact nofun
  · exact nofun
  · exact nofun

theorem LeaseInvariant.selects {attempts : List AttemptRow}
    (invariant : LeaseInvariant row attempts) (kind : ReleaseKind) {attempt : AttemptRow}
    (member : attempt ∈ attempts) (running : attempt.status = .running) :
    kind.Selects row attempt := by
  have atCurrent := ((invariant.current attempt member).1 running).2
  unfold ReleaseKind.Selects
  split
  · exact atCurrent
  · exact (invariant.token_iff_number member).2 atCurrent

theorem ReleaseKind.attemptStatus_ne_running (kind : ReleaseKind) :
    kind.attemptStatus ≠ .running := by
  cases kind <;> intro impossible <;> cases impossible

theorem ReleaseKind.status_ne_running (kind : ReleaseKind) : kind.status ≠ .running := by
  cases kind <;> intro impossible <;> cases impossible

theorem attempt_running_iff (status : ExecutionStatus) :
    status.attempt = .running ↔ status = .running := by
  cases status <;> simp [ExecutionStatus.attempt]

theorem LeaseInvariant.merged {row : ExecutionRow} {attempts : List AttemptRow}
    {ownerId : String} {now : Time} (invariant : LeaseInvariant row attempts)
    (held : row.Fenced ownerId row.leaseToken now) (result : LoopResult) :
    LeaseInvariant (row.merged row ownerId result now) (attempts.map (fun attempt =>
      if attempt.leaseToken = row.leaseToken then
        { attempt with status := result.status.attempt }
      else attempt)) := by
  by_cases running : result.status = .running
  · have sameOwner : (row.merged row ownerId result now).leaseOwner = row.leaseOwner := by
      change (if result.status = .running then some ownerId else none) = row.leaseOwner
      rw [if_pos running, held.2.1]
    have sameExpiry : (row.merged row ownerId result now).leaseExpiresAt =
        row.leaseExpiresAt := by
      change (if result.status = .running then row.leaseExpiresAt else none) = _
      rw [if_pos running]
    refine invariant.mapped ?same (fun _ => held.1) (fun _ => sameOwner)
      (fun _ => sameExpiry ▸ (invariant.held held.1).2) (fun released => absurd running released)
      rfl rfl ?_
    case same =>
      intro attempt
      exact ⟨rfl, rfl, rfl⟩
    intro attempt member
    have sameAttempt := invariant.token_iff_number member
    by_cases selected : attempt.leaseToken = row.leaseToken
    · rw [if_pos selected]
      exact ⟨fun _ => ⟨running, sameAttempt.1 selected⟩, fun _ => (attempt_running_iff _).2 running⟩
    · rw [if_neg selected, invariant.current attempt member]
      exact ⟨fun both => absurd (sameAttempt.2 both.2) selected,
        fun both => absurd (sameAttempt.2 both.2) selected⟩
  · have free : (row.merged row ownerId result now).leaseOwner = none ∧
        (row.merged row ownerId result now).leaseExpiresAt = none := by
      change (if result.status = .running then some ownerId else none) = none ∧
        (if result.status = .running then row.leaseExpiresAt else none) = none
      rw [if_neg running, if_neg running]
      exact ⟨rfl, rfl⟩
    refine invariant.ended ?_ (fun impossible => running ((attempt_running_iff _).1 impossible))
      running free rfl rfl
    intro attempt member isRunning
    exact (invariant.token_iff_number member).2 ((invariant.current attempt member).1 isRunning).2

theorem Transition.leased {executionId : ExecutionId} {before after : Aggregate} {label : Label}
    (step : Transition executionId before label after) (leased : before.Leased) : after.Leased := by
  cases step with
  | started absent queued unclaimed free named =>
    apply Aggregate.Leased.of_row rfl
    change LeaseInvariant _ before.attempts
    rw [leased.absent absent]
    exact .fresh queued unclaimed free
  | signaled present alive unapplied named =>
    exact .of_row rfl ((leased.present _ present).kept rfl rfl rfl rfl rfl)
  | @cancelled row emission now present alive named =>
    have invariant := leased.present row present
    apply Aggregate.Leased.of_row rfl
    refine invariant.ended ?_ (by intro impossible; cases impossible)
      (by intro impossible; cases impossible) ⟨rfl, rfl⟩ rfl rfl
    intro attempt member running
    obtain ⟨rowRunning, atCurrent⟩ := (invariant.current attempt member).1 running
    have begun := invariant.begun rowRunning
    refine ⟨?_, (invariant.token_iff_number member).2 atCurrent⟩
    rw [invariant.token]
    omega
  | @claimed row ownerId leaseExpiresAt now emission present idle named =>
    have invariant := leased.present row present
    apply Aggregate.Leased.of_row rfl
    apply LeaseInvariant.opened invariant.token invariant.numbered invariant.tokens
    intro attempt member running
    have rowRunning := ((invariant.current attempt member).1 running).1
    rcases idle with queued | ⟨awaiting, _⟩
    · rw [queued] at rowRunning
      cases rowRunning
    · rw [awaiting] at rowRunning
      cases rowRunning
  | @reclaimed row ownerId leaseExpiresAt now expiry emission present lapsed safe expiryNamed
      named =>
      have invariant := leased.present row present
      have healed : LeaseInvariant (row.released .queued now) _ :=
        @LeaseInvariant.ended row _ _ invariant (fun attempt => attempt.attempt = row.attempt)
          _ .expired
          (fun attempt member running => ((invariant.current attempt member).1 running).2)
          (by intro impossible; cases impossible)
          (by intro impossible; cases impossible) ⟨rfl, rfl⟩ rfl rfl
      apply Aggregate.Leased.of_row rfl
      apply LeaseInvariant.opened invariant.token healed.numbered healed.tokens
      intro attempt member running
      have impossible := ((healed.current attempt member).1 running).1
      cases impossible
  | @renewed row ownerId leaseExpiresAt now present held =>
    have invariant := leased.present row present
    apply Aggregate.Leased.of_row rfl
    refine invariant.mapped ?same (fun running => running) (fun _ => rfl) (fun _ => rfl)
      (fun released => absurd held.1 released) rfl rfl ?_
    case same =>
      intro attempt
      exact ⟨rfl, rfl, rfl⟩
    intro attempt member
    have current := invariant.current attempt member
    by_cases selected : attempt.leaseToken = row.leaseToken
    · rw [if_pos selected]
      exact current
    · rw [if_neg selected]
      exact current
  | @merged row ownerId now result signalIds emissions present held allowed settled plain
      emitted =>
      apply Aggregate.Leased.of_row rfl
      have invariant := (leased.present row present).merged held result
      rw [← Aggregate.emitAll_attempts before executionId emissions] at invariant
      exact invariant
  | @released row kind now notBefore lastErrorCode emission present lease guarded named =>
    have invariant := leased.present row present
    apply Aggregate.Leased.of_row rfl
    exact invariant.ended (fun attempt member running => invariant.selects kind member running)
      kind.attemptStatus_ne_running kind.status_ne_running ⟨rfl, rfl⟩ rfl rfl
  | effectRecorded | outboxClaimed chosen | outboxDelivered => exact leased.of_same rfl rfl

theorem reachable_leased {digest : Digest} {db : Db} (reached : ReachableDb digest db)
    (executionId : ExecutionId) : (db.aggregate executionId).Leased :=
  aggregate_invariant (fun _ => Aggregate.Leased)
    (fun _ => ⟨fun _ => rfl, fun _ missing => by cases missing⟩)
    (fun _ _ _ _ step => step.leased) reached executionId

end AnnaAgent.Execution
