/-
The event log of an execution.

Numbers run from one without a gap, the first event is the start, a terminal
event stands last and only in the log of a finished execution, and the outbox
mirrors the log row by row.
-/

import AnnaAgent.Execution.Fencing

namespace AnnaAgent.Execution

open Foundation

/-- What the log and the outbox both store of an event. -/
def EventRow.content (event : EventRow) : Nat × String × JsonObject :=
  (event.seq, event.type, event.payload)

def OutboxRow.content (row : OutboxRow) : Nat × String × JsonObject :=
  (row.seq, row.type, row.payload)

def EventRow.emitted (event : EventRow) : String × JsonObject :=
  (event.type, event.payload)

def EventRow.Closing (event : EventRow) : Prop := event.type ∈ terminalEventTypes

instance (event : EventRow) : Decidable event.Closing := by
  unfold EventRow.Closing
  infer_instance

theorem lastSeq_of_numbered {events : List EventRow}
    (numbered : events.map EventRow.seq = List.range' 1 events.length) :
    lastSeq events = events.length := by
  unfold lastSeq
  rw [numbered]
  generalize events.length = count
  induction count with
  | zero => rfl
  | succ count ih =>
    rw [List.range'_concat, List.foldr_append, Nat.one_mul]
    have step : ∀ (numbers : List Nat) (start : Nat), (∀ n ∈ numbers, n ≤ start) →
        numbers.foldr max start = start := by
      intro numbers start bounded
      induction numbers with
      | nil => rfl
      | cons head tail ihTail =>
        rw [List.foldr_cons, ihTail (fun n member => bounded n (List.mem_cons_of_mem _ member))]
        exact max_eq_right (bounded head List.mem_cons_self)
    change (List.range' 1 count).foldr max (max (1 + count) 0) = count + 1
    rw [Nat.max_zero, step]
    · omega
    · intro n member
      rw [List.mem_range'_1] at member
      omega

structure Aggregate.Sequenced (aggregate : Aggregate) : Prop where
  numbered : aggregate.events.map EventRow.seq = List.range' 1 aggregate.events.length
  mirrored : aggregate.outbox.map OutboxRow.content = aggregate.events.map EventRow.content

namespace Aggregate.Sequenced

variable {aggregate : Aggregate}

theorem emit (sequenced : aggregate.Sequenced) (executionId : ExecutionId)
    (emission : Emission) : (aggregate.emit executionId emission).Sequenced := by
  constructor
  · change (aggregate.events ++ [_]).map _ = List.range' 1 (aggregate.events ++ [_]).length
    rw [List.map_append, sequenced.numbered, List.length_append, List.length_singleton,
      List.range'_concat, Nat.one_mul, Nat.add_comm 1]
    change _ ++ [lastSeq aggregate.events + 1] = _
    rw [lastSeq_of_numbered sequenced.numbered]
  · change (aggregate.outbox ++ [_]).map _ = (aggregate.events ++ [_]).map _
    rw [List.map_append, List.map_append, sequenced.mirrored]
    rfl

theorem emitAll (sequenced : aggregate.Sequenced) (executionId : ExecutionId)
    (emissions : List Emission) : (aggregate.emitAll executionId emissions).Sequenced := by
  induction emissions generalizing aggregate with
  | nil => exact sequenced
  | cons head tail ih => exact ih (sequenced.emit executionId head)

theorem of_same {after : Aggregate} (sequenced : aggregate.Sequenced)
    (sameEvents : after.events = aggregate.events)
    (sameOutbox : after.outbox.map OutboxRow.content = aggregate.outbox.map OutboxRow.content) :
    after.Sequenced := by
  constructor
  · rw [sameEvents]
    exact sequenced.numbered
  · rw [sameOutbox, sameEvents]
    exact sequenced.mirrored

theorem mapOutbox (sequenced : aggregate.Sequenced) {p : OutboxRow → Prop} [DecidablePred p]
    {assign : OutboxRow → OutboxRow} (same : ∀ row, (assign row).content = row.content) :
    (aggregate.mapOutbox p assign).Sequenced := by
  refine sequenced.of_same rfl ?_
  change (aggregate.outbox.map _).map _ = _
  rw [List.map_map]
  apply List.map_congr_left
  intro row _member
  by_cases selected : p row
  · simp only [Function.comp_apply, if_pos selected, same]
  · simp only [Function.comp_apply, if_neg selected]

end Aggregate.Sequenced

/-- The events a step appends to the log of a live execution. -/
structure Appended (status : ExecutionStatus) (events : List EventRow) : Prop where
  plain : status.terminal = false → ∀ event ∈ events, ¬ event.Closing
  closing : status.terminal = true → ∃ earlier last, events = earlier ++ [last] ∧
    (∀ event ∈ earlier, ¬ event.Closing) ∧ last.Closing

variable {status : ExecutionStatus}

theorem Appended.prepend {old events : List EventRow} (quiet : ∀ event ∈ old, ¬ event.Closing)
    (appended : Appended status events) : Appended status (old ++ events) := by
  constructor
  · intro alive event member
    rcases List.mem_append.1 member with inOld | inNew
    · exact quiet event inOld
    · exact appended.plain alive event inNew
  · intro ended
    obtain ⟨earlier, last, shape, earlierQuiet, lastCloses⟩ := appended.closing ended
    refine ⟨old ++ earlier, last, ?_, ?_, lastCloses⟩
    · rw [shape, List.append_assoc]
    · intro event member
      rcases List.mem_append.1 member with inOld | inEarlier
      · exact quiet event inOld
      · exact earlierQuiet event inEarlier

theorem Appended.single {event : EventRow} (fits : event.Closing ↔ status.terminal = true) :
    Appended status [event] := by
  constructor
  · intro alive other member closes
    rw [List.mem_singleton.1 member, fits, alive] at closes
    cases closes
  · intro ended
    exact ⟨[], event, rfl, nofun, fits.2 ended⟩

theorem Appended.nothing (alive : status.terminal = false) : Appended status [] := by
  constructor
  · exact nofun
  · intro ended
    rw [alive] at ended
    cases ended

structure Aggregate.Logged (aggregate : Aggregate) : Prop where
  sequenced : aggregate.Sequenced
  absent : aggregate.row = none → aggregate.events = []
  started : ∀ row, aggregate.row = some row →
    ∃ first rest, aggregate.events = first :: rest ∧ first.type = "execution.started"
  shape : ∀ row, aggregate.row = some row → Appended row.status aggregate.events

/-! ### Every step keeps the invariant -/

namespace Aggregate.Logged

variable {before after : Aggregate} {row row' : ExecutionRow}

theorem extend (logged : before.Logged) (present : before.row = some row)
    (alive : row.status.terminal = false) (written : after.row = some row')
    (sequenced : after.Sequenced) {events : List EventRow}
    (log : after.events = before.events ++ events) (appended : Appended row'.status events) :
    after.Logged := by
  refine { sequenced := sequenced, absent := ?_, started := ?_, shape := ?_ }
  · intro missing
    rw [written] at missing
    cases missing
  · intro _ _
    obtain ⟨first, rest, shape, isStart⟩ := logged.started row present
    exact ⟨first, rest ++ events, by rw [log, shape, List.cons_append], isStart⟩
  · intro other found
    cases written.symm.trans found
    rw [log]
    exact appended.prepend ((logged.shape row present).plain alive)

theorem emitted (logged : before.Logged) (present : before.row = some row)
    (alive : row.status.terminal = false) (written : after.row = some row')
    (executionId : ExecutionId) {emission : Emission}
    (sameEvents : after.events = (before.emit executionId emission).events)
    (sameOutbox : after.outbox = (before.emit executionId emission).outbox)
    (fits : emission.type ∈ terminalEventTypes ↔ row'.status.terminal = true) : after.Logged := by
  apply logged.extend present alive written ?_ sameEvents (.single fits)
  exact (logged.sequenced.emit executionId emission).of_same sameEvents
    (congrArg (List.map OutboxRow.content) sameOutbox)

theorem unchanged (logged : before.Logged) (sameRow : after.row = before.row)
    (sameEvents : after.events = before.events) (sequenced : after.Sequenced) : after.Logged := by
  refine { sequenced := sequenced, absent := ?_, started := ?_, shape := ?_ }
  · rw [sameRow, sameEvents]
    exact logged.absent
  · rw [sameRow, sameEvents]
    exact logged.started
  · rw [sameRow, sameEvents]
    exact logged.shape

end Aggregate.Logged

theorem Aggregate.emitAll_events (aggregate : Aggregate) (executionId : ExecutionId)
    (emissions : List Emission) :
    ∃ events, (aggregate.emitAll executionId emissions).events = aggregate.events ++ events ∧
      events.map EventRow.emitted = emissions.map Emission.content := by
  induction emissions generalizing aggregate with
  | nil => exact ⟨[], (List.append_nil _).symm, rfl⟩
  | cons head tail ih =>
    obtain ⟨events, shape, contents⟩ := ih (aggregate.emit executionId head)
    refine ⟨aggregate.nextEvent executionId head :: events, ?_, ?_⟩
    · change ((aggregate.emit executionId head).emitAll executionId tail).events = _
      rw [shape]
      exact List.append_assoc _ _ _
    · rw [List.map_cons, List.map_cons, contents]
      rfl

variable {status : ExecutionStatus} {events : List EventRow}

theorem closing_type (ended : status.terminal = true) :
    "execution." ++ status.text ∈ terminalEventTypes := by
  cases status with
  | queued | running | awaitingSignal => cases ended
  | succeeded | failed | cancelled => decide

theorem appended_of_result {result : LoopResult}
    (plain : ∀ event ∈ result.events, event.1 ∉ terminalEventTypes)
    (contents : events.map EventRow.emitted = result.events ++ closingEvents result) :
    Appended result.status events := by
  have named : events.map EventRow.type =
      result.events.map Prod.fst ++ (closingEvents result).map Prod.fst := by
    rw [← List.map_append, ← contents, List.map_map]
    rfl
  obtain ⟨earlier, closing, shape, earlierNamed, closingNamed⟩ := List.map_eq_append_iff.1 named
  have quiet : ∀ event ∈ earlier, ¬ event.Closing := by
    intro event member closes
    have typed := List.mem_map_of_mem (f := EventRow.type) member
    rw [earlierNamed] at typed
    obtain ⟨source, sourceMember, same⟩ := List.mem_map.1 typed
    exact plain source sourceMember (same ▸ closes)
  rw [shape]
  apply Appended.prepend quiet
  unfold closingEvents at closingNamed
  by_cases ended : result.status.terminal = true
  · rw [if_pos ended] at closingNamed
    obtain ⟨last, isLast, lastNamed⟩ := List.map_eq_singleton_iff.1 closingNamed
    rw [isLast]
    apply Appended.single
    refine ⟨fun _ => ended, fun _ => ?_⟩
    unfold EventRow.Closing
    rw [lastNamed]
    exact closing_type ended
  · rw [if_neg ended] at closingNamed
    rw [List.map_eq_nil_iff.1 closingNamed]
    exact .nothing (Bool.not_eq_true _ ▸ ended)

theorem ReleaseKind.closing_iff (kind : ReleaseKind) :
    kind.eventType ∈ terminalEventTypes ↔ kind.status.terminal = true := by
  cases kind with
  | deferred result signalIds =>
    change "execution.result_deferred" ∈ terminalEventTypes ↔ ExecutionStatus.queued.terminal = true
    decide
  | retried maxAttempts =>
    change "execution.retry_scheduled" ∈ terminalEventTypes ↔ ExecutionStatus.queued.terminal = true
    decide
  | deadLettered | blockedClaimed | blockedLapsed | requeuedClaimed | requeuedLapsed => decide

theorem Transition.logged {executionId : ExecutionId} {before after : Aggregate} {label : Label}
    (step : Transition executionId before label after) (logged : before.Logged) : after.Logged := by
  cases step with
  | @started row emission absent queued unclaimed free named =>
    have empty := logged.absent absent
    have log : ((before.setRow row).emit executionId emission).events =
        [before.nextEvent executionId emission] := by
      change before.events ++ [before.nextEvent executionId emission] = _
      rw [empty, List.nil_append]
    have sequenced : (before.setRow row).Sequenced := logged.sequenced.of_same rfl rfl
    refine { sequenced := sequenced.emit executionId emission, absent := ?_, started := ?_,
             shape := ?_ }
    · intro missing
      cases missing
    · intro _ _
      exact ⟨_, [], log, named⟩
    · intro other found
      cases found
      rw [log]
      apply Appended.single
      unfold EventRow.Closing
      change emission.type ∈ _ ↔ _
      rw [named, queued]
      decide
  | @signaled row signal emission now present alive unapplied named =>
    refine logged.emitted present alive rfl executionId rfl rfl ?_
    change _ ↔ row.status.terminal = true
    rw [named, alive]
    decide
  | cancelled present alive named =>
    refine logged.emitted present alive rfl executionId rfl rfl ?_
    rw [named]
    exact ⟨fun _ => rfl, fun _ => by decide⟩
  | @claimed row ownerId leaseExpiresAt now emission present idle named =>
    have alive : row.status.terminal = false := by
      rcases idle with queued | ⟨awaiting, _⟩
      · rw [queued]
        rfl
      · rw [awaiting]
        rfl
    refine logged.emitted present alive rfl executionId rfl rfl ?_
    rw [named]
    change _ ↔ ExecutionStatus.running.terminal = true
    decide
  | @reclaimed row ownerId leaseExpiresAt now expiry emission present lapsed safe expiryNamed
      named =>
      have once : (before.emit executionId expiry).Logged := by
        refine logged.emitted present (alive_of_running lapsed.1) present executionId rfl rfl ?_
        rw [expiryNamed, lapsed.1]
        decide
      refine once.emitted present (alive_of_running lapsed.1) rfl executionId rfl rfl ?_
      rw [named]
      change _ ↔ ExecutionStatus.running.terminal = true
      decide
  | renewed present held =>
    exact logged.extend present (alive_of_running held.1) rfl
      (logged.sequenced.of_same rfl rfl) (List.append_nil _).symm
      (.nothing (alive_of_running held.1))
  | @merged row ownerId now result signalIds emissions present held allowed settled plain
      emitted =>
      obtain ⟨events, log, contents⟩ := before.emitAll_events executionId emissions
      exact logged.extend present (alive_of_running held.1) rfl
        ((logged.sequenced.emitAll executionId emissions).of_same rfl rfl) log
        (appended_of_result plain (contents.trans emitted))
  | released present lease guarded named =>
    refine logged.emitted present (alive_of_running lease.running) rfl executionId rfl rfl ?_
    rw [named]
    exact ReleaseKind.closing_iff _
  | effectRecorded => exact logged.unchanged rfl rfl (logged.sequenced.of_same rfl rfl)
  | outboxClaimed chosen | outboxDelivered =>
    exact logged.unchanged rfl rfl (logged.sequenced.mapOutbox (fun _ => rfl))

theorem reachable_logged {digest : Digest} {db : Db} (reached : ReachableDb digest db)
    (executionId : ExecutionId) : (db.aggregate executionId).Logged := by
  refine aggregate_invariant (fun _ => Aggregate.Logged) ?_
    (fun _ _ _ _ step => step.logged) reached executionId
  intro other
  refine { sequenced := ⟨rfl, rfl⟩, absent := fun _ => rfl, started := ?_, shape := ?_ }
  · intro row missing
    cases missing
  · intro row missing
    cases missing

theorem Appended.closing_last {earlier later : List EventRow} {event : EventRow}
    (appended : Appended status events) (shape : events = earlier ++ event :: later)
    (closes : event.Closing) : later = [] := by
  have member : event ∈ events := by
    rw [shape]
    exact List.mem_append_right _ List.mem_cons_self
  cases alive : status.terminal with
  | false => exact absurd closes (appended.plain alive event member)
  | true =>
    obtain ⟨quiet, last, lastShape, quietPlain, _⟩ := appended.closing alive
    rcases List.eq_nil_or_concat later with empty | ⟨front, final, split⟩
    · exact empty
    · exfalso
      rw [split] at shape
      have sameParts : quiet ++ [last] = (earlier ++ event :: front) ++ [final] := by
        rw [← lastShape, shape, List.append_assoc, List.cons_append, List.concat_eq_append]
      have sameFront := (List.append_inj' sameParts rfl).1
      apply quietPlain event ?_ closes
      rw [sameFront]
      exact List.mem_append_right _ List.mem_cons_self

theorem Appended.closing_iff (appended : Appended status events) :
    (∃ event ∈ events, event.Closing) ↔ status.terminal = true := by
  constructor
  · rintro ⟨event, member, closes⟩
    rw [← Bool.not_eq_false]
    intro alive
    exact appended.plain alive event member closes
  · intro ended
    obtain ⟨earlier, last, shape, _, closes⟩ := appended.closing ended
    exact ⟨last, by rw [shape]; exact List.mem_append_right _ List.mem_cons_self, closes⟩

/-- The event log of every execution, in every reachable state and under every
operation. -/
theorem event_log (digest : Digest) :
    (∀ db, ReachableDb digest db → ∀ row ∈ db.executions.rows,
      (db.eventsOf row.executionId).map EventRow.seq =
        List.range' 1 (db.eventsOf row.executionId).length ∧
      (∃ first rest, db.eventsOf row.executionId = first :: rest ∧
        first.type = "execution.started") ∧
      (∀ earlier event later, db.eventsOf row.executionId = earlier ++ event :: later →
        event.type ∈ terminalEventTypes → later = []) ∧
      ((∃ event ∈ db.eventsOf row.executionId, event.type ∈ terminalEventTypes) ↔
        row.status.terminal = true) ∧
      (db.outboxOf row.executionId).map OutboxRow.content =
        (db.eventsOf row.executionId).map EventRow.content) ∧
    (∀ call db db' outcome row, perform digest call db = (outcome, db') →
      row ∈ db.executions.rows → row.status.terminal = true →
      row ∈ db'.executions.rows ∧ db'.eventsOf row.executionId = db.eventsOf row.executionId) ∧
    (∀ call db db' error, perform digest call db = (.error error, db') →
      db'.events = db.events ∧ db'.outbox = db.outbox) := by
  refine ⟨?_, ?_, ?_⟩
  · intro db reached row member
    have found := Table.find?_of_mem member
    have logged := reachable_logged reached row.executionId
    have shape := logged.shape row found
    exact ⟨logged.sequenced.numbered, logged.started row found,
      fun earlier event later split closes => shape.closing_last split closes,
      shape.closing_iff, logged.sequenced.mirrored⟩
  · intro call db db' outcome row done member ended
    have single : Run (Step digest) db [⟨db, ⟨call, outcome⟩, db'⟩] db' := .single done
    have frozen := (run_follows single row.executionId).frozen row (Table.find?_of_mem member) ended
    exact ⟨Table.find?_mem frozen.1, frozen.2⟩
  · intro call db db' error raised
    rcases perform_error raised with same | ⟨_, _, _, _, _, commands, same⟩
    · rw [same]
      exact ⟨rfl, rfl⟩
    · rw [same]
      exact ⟨rfl, rfl⟩

end AnnaAgent.Execution
