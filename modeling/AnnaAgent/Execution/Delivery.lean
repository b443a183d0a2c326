/-
Delivery of the outbox.

Consumers claim the earliest undelivered event of an execution for a while and
acknowledge what they claimed.  The outbox of one execution is a queue in head
of line order, a row is marked delivered only under its current claim, and a
consumer can drain the outbox from every state.
-/

import AnnaAgent.Foundation.HeadOfLine
import AnnaAgent.Execution.EventLog

namespace AnnaAgent.Execution

open Foundation

def OutboxRow.Delivered (row : OutboxRow) : Prop := row.deliveredAt.isSome = true

def OutboxRow.Claimed (row : OutboxRow) : Prop := row.claimExpiresAt.isSome = true

def OutboxRow.ClaimedAt (row : OutboxRow) (now : Time) : Prop :=
  ∃ expires ∈ row.claimExpiresAt, now < expires

theorem OutboxRow.ClaimedAt.claimed {row : OutboxRow} {now : Time} (claimed : row.ClaimedAt now) :
    row.Claimed := by
  rcases claimed with ⟨expires, isSome, _⟩
  unfold OutboxRow.Claimed
  rw [Option.mem_def.1 isSome]
  rfl

variable {row : OutboxRow}

theorem OutboxRow.not_delivered_iff :
    ¬ row.Delivered ↔ row.deliveredAt.isNone = true := by
  unfold OutboxRow.Delivered
  cases row.deliveredAt with
  | none => exact ⟨fun _ => rfl, fun _ impossible => by cases impossible⟩
  | some time => exact ⟨fun absent => absurd rfl absent, fun impossible => by cases impossible⟩

def Aggregate.InLine (aggregate : Aggregate) : Prop :=
  HeadOfLine OutboxRow.Delivered OutboxRow.Claimed aggregate.outbox

theorem Aggregate.Sequenced.ordered {aggregate : Aggregate} (sequenced : aggregate.Sequenced) :
    aggregate.outbox.Pairwise (fun early late => early.seq < late.seq) := by
  have numbers : aggregate.outbox.map OutboxRow.seq =
      List.range' 1 aggregate.events.length := by
    have first := congrArg (List.map Prod.fst) sequenced.mirrored
    rw [List.map_map, List.map_map] at first
    exact first.trans sequenced.numbered
  have increasing := List.pairwise_lt_range' (s := 1) (n := aggregate.events.length)
  rw [← numbers] at increasing
  exact List.pairwise_map.1 increasing

theorem Aggregate.Sequenced.seq_injective {aggregate : Aggregate}
    (sequenced : aggregate.Sequenced) {left right : OutboxRow} (leftMember : left ∈ aggregate.outbox)
    (rightMember : right ∈ aggregate.outbox) (sameSeq : left.seq = right.seq) : left = right := by
  have distinct : (aggregate.outbox.map OutboxRow.seq).Nodup :=
    List.pairwise_map.2 (sequenced.ordered.imp Nat.ne_of_lt)
  exact List.inj_on_of_nodup_map distinct leftMember rightMember sameSeq

namespace Aggregate.InLine

variable {aggregate : Aggregate}

theorem emit (line : aggregate.InLine) (executionId : ExecutionId) (emission : Emission) :
    (aggregate.emit executionId emission).InLine :=
  HeadOfLine.push line (fun impossible => by cases impossible) (fun impossible => by cases impossible)

theorem emitAll (line : aggregate.InLine) (executionId : ExecutionId)
    (emissions : List Emission) : (aggregate.emitAll executionId emissions).InLine := by
  induction emissions generalizing aggregate with
  | nil => exact line
  | cons head tail ih => exact ih (line.emit executionId head)

theorem mapOutbox (line : aggregate.InLine) (sequenced : aggregate.Sequenced)
    {p : OutboxRow → Prop} [DecidablePred p] {assign : OutboxRow → OutboxRow}
    (undelivered : ∀ row, p row → row.deliveredAt.isNone = true)
    (first : ∀ row ∈ aggregate.outbox, p row → ∀ earlier ∈ aggregate.outbox,
      earlier.seq < row.seq → earlier.Delivered) : (aggregate.mapOutbox p assign).InLine := by
  refine HeadOfLine.map line ?_ (sequenced.ordered.imp_of_mem ?_)
  · intro row delivered
    apply if_neg
    intro selected
    exact OutboxRow.not_delivered_iff.2 (undelivered row selected) delivered
  · intro early late earlyMember lateMember before changed
    by_cases selected : p late
    · exact first late lateMember selected early earlyMember before
    · exact absurd (if_neg selected) changed

end Aggregate.InLine

variable {executionId : ExecutionId}

theorem Transition.inLine {before after : Aggregate} {label : Label}
    (step : Transition executionId before label after) (sequenced : before.Sequenced)
    (line : before.InLine) : after.InLine := by
  cases step with
  | started | signaled | cancelled | claimed | released => exact line.emit executionId _
  | reclaimed => exact (line.emit executionId _).emit executionId _
  | merged => exact line.emitAll executionId _
  | renewed | effectRecorded => exact line
  | outboxClaimed chosen =>
    apply line.mapOutbox sequenced
    · intro row selected
      exact selected.2
    · intro row member selected
      exact (chosen row member selected.1).2
  | outboxDelivered =>
    apply line.mapOutbox sequenced
    · intro row acknowledged
      exact acknowledged.2.1
    · intro row member acknowledged earlier earlierMember before
      apply HeadOfLine.taken_before line sequenced.ordered earlierMember member before
      rcases acknowledged with ⟨_, _, _, _, claimed⟩
      exact Or.inr (OutboxRow.ClaimedAt.claimed claimed)

theorem reachable_inLine {digest : Digest} {db : Db} (reached : ReachableDb digest db)
    (executionId : ExecutionId) : (db.aggregate executionId).InLine := by
  have start : ReachableDb digest Db.empty := .refl
  have both := aggregate_invariant (fun _ aggregate => aggregate.Logged ∧ aggregate.InLine)
    (fun other => ⟨reachable_logged start other, HeadOfLine.nil⟩)
    (fun _ _ _ _ step held => ⟨step.logged held.1, step.inLine held.1.sequenced held.2⟩)
    reached executionId
  exact both.2

theorem Aggregate.mem_emitAll_outbox {aggregate : Aggregate} {emissions : List Emission}
    (member : row ∈ (aggregate.emitAll executionId emissions).outbox) :
    row ∈ aggregate.outbox ∨ (row.deliveredAt = none ∧ row.claimToken = none) := by
  induction emissions generalizing aggregate with
  | nil => exact Or.inl member
  | cons head tail ih =>
    rcases ih member with inEmit | new
    · rcases List.mem_append.1 inEmit with old | new
      · exact Or.inl old
      · rw [List.mem_singleton.1 new]
        exact Or.inr ⟨rfl, rfl⟩
    · exact Or.inr new

theorem Transition.outbox_old {before after : Aggregate} {label : Label}
    (step : Transition executionId before label after) (Kind : OutboxRow → Prop)
    (appended : ∀ row : OutboxRow, row.deliveredAt = none → row.claimToken = none → ¬ Kind row)
    (claimed : label = .outboxClaimed → ∀ (row : OutboxRow) ownerId claimToken claimExpiresAt, row.deliveredAt.isNone = true → ¬ Kind (row.claimedBy ownerId claimToken claimExpiresAt))
    (delivered : label = .outboxDelivered → ∀ (row : OutboxRow) now, ¬ Kind (row.delivered now))
    (member : row ∈ after.outbox) (kind : Kind row) : row ∈ before.outbox := by
  have emitted : ∀ {aggregate : Aggregate} (emissions : List Emission),
      row ∈ (aggregate.emitAll executionId emissions).outbox → row ∈ aggregate.outbox := by
    intro aggregate emissions inEmit
    exact (Aggregate.mem_emitAll_outbox inEmit).resolve_right
      (fun new => appended row new.1 new.2 kind)
  have mapped : ∀ {p : OutboxRow → Prop} [DecidablePred p] {assign : OutboxRow → OutboxRow},
      row ∈ (before.mapOutbox p assign).outbox → (∀ old, p old → ¬ Kind (assign old)) →
      row ∈ before.outbox := by
    intro p _ assign inMap changed
    obtain ⟨old, oldMember, same⟩ := List.mem_map.1 inMap
    by_cases selected : p old
    · rw [if_pos selected] at same
      exact absurd (same ▸ kind) (changed old selected)
    · rw [if_neg selected] at same
      exact same ▸ oldMember
  cases step with
  | started | signaled | cancelled | claimed | released =>
    exact emitted [_] member
  | reclaimed => exact emitted [_, _] member
  | merged => exact emitted _ member
  | renewed | effectRecorded => exact member
  | outboxClaimed chosen =>
    exact mapped member (fun old selected => claimed rfl old _ _ _ selected.2)
  | outboxDelivered => exact mapped member (fun old _ => delivered rfl old _)

variable {ownerId : String}

section Calls

variable {digest : Digest} {call : Call} {db db' : Db} {outcome : Outcome}

theorem perform_outbox_old (done : perform digest call db = (outcome, db'))
    (Kind : OutboxRow → Prop)
    (appended : ∀ row : OutboxRow, row.deliveredAt = none → row.claimToken = none → ¬ Kind row)
    (claimed : ∀ ownerId limit seconds subjectRefPrefix, call.operation = .claimOutboxEvents ownerId limit seconds subjectRefPrefix → ∀ (row : OutboxRow) ownerId claimToken claimExpiresAt, row.deliveredAt.isNone = true → ¬ Kind (row.claimedBy ownerId claimToken claimExpiresAt))
    (delivered : ∀ events ownerId claimToken, call.operation = .ackOutboxEvents events ownerId claimToken → ∀ (row : OutboxRow) now, ¬ Kind (row.delivered now))
    (member : row ∈ db'.outbox.rows) (kind : Kind row) :
    row ∈ db.outbox.rows := by
  obtain ⟨trace, run, allowed⟩ := (perform_traced done).moves row.executionId
  have old := run.keeps
    (fun aggregate => ∀ other ∈ aggregate.outbox, Kind other → other ∈ db.outboxOf row.executionId)
    ?_ (fun _ inDb _ => inDb)
  · have mine : row ∈ db'.outboxOf row.executionId := (Table.mem_select _).2 ⟨member, rfl⟩
    exact ((Table.mem_select _).1 (old row mine kind)).1
  · intro move inTrace step held other inAfter otherKind
    apply held other ?_ otherKind
    refine step.outbox_old Kind appended ?_ ?_ inAfter otherKind
    · intro isClaim
      have source := (allowed move inTrace).source
      rw [isClaim] at source
      rcases source with ⟨ownerId, limit, seconds, subjectRefPrefix, isOperation⟩
      exact claimed ownerId limit seconds subjectRefPrefix isOperation
    · intro isDelivery
      have source := (allowed move inTrace).source
      rw [isDelivery] at source
      rcases source with ⟨events, ownerId, claimToken, isOperation⟩
      exact delivered events ownerId claimToken isOperation

theorem outbox_unique {row' : OutboxRow} (member : row ∈ db.outbox.rows)
    (member' : row' ∈ db.outbox.rows) (sameId : row'.id = row.id) : row' = row := by
  have looked := Table.find?_of_mem member'
  rw [sameId, Table.find?_of_mem member] at looked
  exact (Option.some.inj looked).symm

theorem delivers_inv (done : perform digest call db = (outcome, db')) {row' : OutboxRow}
    (member : row ∈ db.outbox.rows) (member' : row' ∈ db'.outbox.rows) (sameId : row'.id = row.id)
    (undelivered : ¬ row.Delivered) (delivered : row'.Delivered) :
    ∃ events ownerId claimToken, call.operation = .ackOutboxEvents events ownerId claimToken ∧
      row.id ∈ events.map ExecutionOutboxEvent.id ∧ row.claimOwner = some ownerId ∧
      row.claimToken = some claimToken ∧ row.ClaimedAt call.env.now := by
  have notOld : row' ∉ db.outbox.rows := by
    intro old
    exact undelivered (outbox_unique member old sameId ▸ delivered)
  by_cases isAck : ∃ events ownerId claimToken,
      call.operation = .ackOutboxEvents events ownerId claimToken
  · rcases isAck with ⟨events, ownerId, claimToken, isOperation⟩
    refine ⟨events, ownerId, claimToken, isOperation, ?_⟩
    unfold perform at done
    rw [isOperation] at done
    cases done
    obtain ⟨old, oldMember, same⟩ := List.mem_map.1 member'
    by_cases acknowledged : Acknowledges (events.map ExecutionOutboxEvent.id) ownerId claimToken
        call.env.now old
    · have isRow : old = row := by
        apply outbox_unique member oldMember
        rw [← sameId, ← same, if_pos acknowledged]
        rfl
      rw [isRow] at acknowledged
      exact ⟨acknowledged.1, acknowledged.2.2.1, acknowledged.2.2.2.1, acknowledged.2.2.2.2⟩
    · rw [if_neg acknowledged] at same
      exact absurd (same ▸ oldMember) notOld
  · exfalso
    apply notOld
    refine perform_outbox_old done OutboxRow.Delivered ?_ ?_ ?_ member' delivered
    · intro other none _ impossible
      unfold OutboxRow.Delivered at impossible
      rw [none] at impossible
      cases impossible
    · intro _ _ _ _ _ other _ _ _ none
      exact OutboxRow.not_delivered_iff.2 none
    · intro events ownerId claimToken isOperation
      exact absurd ⟨events, ownerId, claimToken, isOperation⟩ isAck

theorem claimOutboxEvents_inv {env : Env} {limit : Int} {seconds : Seconds}
    {subjectRefPrefix : Option String} {events : List ExecutionOutboxEvent}
    (done : Db.claimOutboxEvents env ownerId limit seconds subjectRefPrefix db = .ok (events, db')) :
    db' = db ∨ ∃ ids expires, db' = (db.claimOutboxIds ids ownerId env.uuid expires).2 ∧
      events = (db.claimOutboxIds ids ownerId env.uuid expires).1.filterMap
        OutboxRow.toEvent := by
  obtain ⟨ttl, _, done⟩ := bind_ok done
  simp only at done
  split at done
  · cases done
    exact Or.inl rfl
  · cases done
    exact Or.inr ⟨_, _, rfl, rfl⟩

theorem event_of_claimed {ids : List Nat} {ownerId claimToken : String} (expires : Time)
    {row : OutboxRow} (member : row ∈ db.outbox.rows) (chosen : row.id ∈ ids)
    (undelivered : row.deliveredAt.isNone = true) :
    ∃ event ∈ (db.claimOutboxIds ids ownerId claimToken expires).1.filterMap OutboxRow.toEvent,
      event.id = row.id := by
  have written : row.claimedBy ownerId claimToken expires ∈
      (db.claimOutboxIds ids ownerId claimToken expires).2.outbox.rows :=
    List.mem_map.2 ⟨row, member, if_pos ⟨chosen, undelivered⟩⟩
  refine ⟨_, List.mem_filterMap.2 ⟨row.claimedBy ownerId claimToken expires, ?_, rfl⟩, rfl⟩
  exact (List.mem_insertionSort _).2 ((Table.mem_select _).2 ⟨written, chosen, rfl, rfl⟩)

theorem claims_inv (done : perform digest call db = (outcome, db')) (member : row ∈ db'.outbox.rows)
    {claimToken : String} (owned : row.claimOwner = some ownerId)
    (named : row.claimToken = some claimToken) (fresh : row ∉ db.outbox.rows) :
    ∃ limit seconds subjectRefPrefix events event,
      call.operation = .claimOutboxEvents ownerId limit seconds subjectRefPrefix ∧
      call.env.uuid = claimToken ∧ outcome = .ok (.outboxEvents events) ∧ event ∈ events ∧
      event.id = row.id := by
  by_cases isClaim : ∃ ownerId limit seconds subjectRefPrefix,
      call.operation = .claimOutboxEvents ownerId limit seconds subjectRefPrefix
  · rcases isClaim with ⟨consumer, limit, seconds, subjectRefPrefix, isOperation⟩
    unfold perform at done
    rw [isOperation] at done
    rcases answer_atomically done with ⟨events, committed, answered⟩ | ⟨_, same⟩
    · rcases claimOutboxEvents_inv committed with same | ⟨ids, expires, written, sent⟩
      · exact absurd (same ▸ member) fresh
      · rw [written] at member
        obtain ⟨old, oldMember, same⟩ := List.mem_map.1 member
        by_cases selected : old.id ∈ ids ∧ old.deliveredAt.isNone = true
        · obtain ⟨event, sentEvent, sameId⟩ :=
            event_of_claimed expires oldMember selected.1 selected.2
          rw [if_pos selected] at same
          rw [← same] at owned named ⊢
          cases owned
          cases named
          exact ⟨limit, seconds, subjectRefPrefix, events, event, isOperation, rfl, answered,
            sent ▸ sentEvent, sameId⟩
        · rw [if_neg selected] at same
          exact absurd (same ▸ oldMember) fresh
    · exact absurd (same ▸ member) fresh
  · exfalso
    apply fresh
    refine perform_outbox_old done (fun row => row.claimToken.isSome = true) ?_ ?_ ?_ member
      (by rw [named]; rfl)
    · intro other _ none impossible
      rw [none] at impossible
      cases impossible
    · intro consumer limit seconds subjectRefPrefix isOperation
      exact absurd ⟨consumer, limit, seconds, subjectRefPrefix, isOperation⟩ isClaim
    · intro _ _ _ _ other now impossible
      cases impossible

end Calls

def Claims (move : Move Db Performed) (ownerId claimToken : String) (id : Nat) : Prop :=
  ∃ limit seconds subjectRefPrefix events event,
    move.label.call.operation = .claimOutboxEvents ownerId limit seconds subjectRefPrefix ∧
    move.label.call.env.uuid = claimToken ∧ move.label.outcome = .ok (.outboxEvents events) ∧
    event ∈ events ∧ event.id = id

theorem claimed_before {digest : Digest} {trace : List (Move Db Performed)} {last : Db}
    (run : StoreRun digest trace last) (member : row ∈ last.outbox.rows) {claimToken : String}
    (owned : row.claimOwner = some ownerId) (named : row.claimToken = some claimToken) :
    ∃ move ∈ trace, Claims move ownerId claimToken row.id := by
  have reached := run.stays_or
    (fun db => ∀ other ∈ db.outbox.rows, other.id = row.id →
      ¬ (other.claimOwner = some ownerId ∧ other.claimToken = some claimToken))
    (fun move => Claims move ownerId claimToken row.id) ?_ (fun _ absent => by cases absent)
  · exact reached.resolve_left (fun never => never row member rfl ⟨owned, named⟩)
  · intro move _ step free
    by_cases claims : Claims move ownerId claimToken row.id
    · exact Or.inr claims
    · left
      intro other otherMember sameId carries
      apply claims
      rw [← sameId]
      apply claims_inv step otherMember carries.1 carries.2
      exact fun old => free other old sameId carries

/-! ### Draining -/

def Db.undelivered (db : Db) : List OutboxRow :=
  db.outbox.select (fun row => row.deliveredAt.isNone = true)

def Db.Unclaimed (db : Db) (now : Time) : Prop :=
  ∀ row ∈ db.undelivered, ¬ row.ClaimedAt now

section Draining

variable {db : Db} {now : Time}

theorem unclaimed_at_late (db : Db) (start : Time) : ∃ now, start ≤ now ∧ db.Unclaimed now := by
  have bound : ∀ rows : List OutboxRow, ∃ now, start ≤ now ∧
      ∀ row ∈ rows, ∀ expires ∈ row.claimExpiresAt, expires ≤ now := by
    intro rows
    induction rows with
    | nil => exact ⟨start, le_rfl, nofun⟩
    | cons head tail ih =>
      rcases ih with ⟨now, late, expired⟩
      refine ⟨max now (head.claimExpiresAt.getD now), late.trans (le_max_left _ _), ?_⟩
      intro row member expires isSome
      rcases List.mem_cons.1 member with isHead | inTail
      · rw [← isHead, Option.mem_def.1 isSome]
        exact le_max_right _ _
      · exact (expired row inTail expires isSome).trans (le_max_left _ _)
  obtain ⟨now, late, expired⟩ := bound db.undelivered
  refine ⟨now, late, ?_⟩
  rintro row member ⟨expires, isSome, unexpired⟩
  exact absurd unexpired (not_lt_of_ge (expired row member expires isSome))

theorem some_claimable (unclaimed : db.Unclaimed now) (member : row ∈ db.undelivered) :
    ∃ head ∈ db.outbox.rows, db.OutboxClaimable now none head := by
  induction number : row.seq using Nat.strong_induction_on generalizing row with
  | _ seq ih =>
    by_cases head : db.HeadOfLine row
    · obtain ⟨inTable, undelivered⟩ := (Table.mem_select _).1 member
      refine ⟨row, inTable, undelivered, ?_, fun _ absent => absurd absent (by nofun), head⟩
      intro expires isSome
      exact le_of_not_gt (fun unexpired => unclaimed row member ⟨expires, isSome, unexpired⟩)
    · unfold Db.HeadOfLine at head
      push Not at head
      rcases head with ⟨earlier, earlierMember, before, waiting⟩
      have waits : earlier ∈ db.undelivered :=
        (Table.mem_select _).2 ⟨((Table.mem_select _).1 earlierMember).1,
          OutboxRow.not_delivered_iff.1 waiting⟩
      exact ih earlier.seq (number ▸ before) waits rfl

theorem outboxClaimIds_nonempty (limit : Int) {head : OutboxRow} (member : head ∈ db.outbox.rows)
    (claimable : db.OutboxClaimable now none head) : db.outboxClaimIds now none limit ≠ [] := by
  intro empty
  have queried : head ∈ (db.outbox.select (fun row => db.OutboxClaimable now none row)).insertionSort
      (fun left right => left.id ≤ right.id) :=
    (List.mem_insertionSort _).2 ((Table.mem_select _).2 ⟨member, claimable⟩)
  have positive : 0 < clampLimit limit := by
    unfold clampLimit
    omega
  rcases List.take_eq_nil_iff.1 (List.map_eq_nil_iff.1 empty) with zero | none
  · omega
  · rw [none] at queried
    cases queried

def drainClaim (db : Db) (ownerId : String) (now : Time) : List OutboxRow × Db :=
  db.claimOutboxIds (db.outboxClaimIds now none 1) ownerId "drain" (now + 30)

def drainEvents (db : Db) (ownerId : String) (now : Time) : List ExecutionOutboxEvent :=
  (drainClaim db ownerId now).1.filterMap OutboxRow.toEvent

def drainCall (ownerId : String) (now : Time) : Call :=
  callAt now "drain" (.claimOutboxEvents ownerId 1 (.finite 30) none)

/-- A consumer claims what it can and acknowledges what it was answered with. -/
def drainRound (db : Db) (ownerId : String) (now : Time) : List Call :=
  [drainCall ownerId now,
   callAt now "" (.ackOutboxEvents (drainEvents db ownerId now) ownerId "drain")]

theorem drainRound_db (digest : Digest) (ownerId : String)
    (finds : db.outboxClaimIds now none 1 ≠ []) :
    performAll digest db (drainRound db ownerId now) =
      (drainClaim db ownerId now).2.updateOutbox
        (Acknowledges ((drainEvents db ownerId now).map ExecutionOutboxEvent.id) ownerId "drain"
          now)
        (fun row => row.delivered now) := by
  have valid : validateLeaseTtl (.finite 30) = .ok 30 := by decide
  have claims : Db.claimOutboxEvents (drainCall ownerId now).env ownerId 1 (.finite 30) none db =
      .ok (drainEvents db ownerId now, (drainClaim db ownerId now).2) := by
    unfold Db.claimOutboxEvents
    rw [valid]
    exact if_neg (fun empty => finds (List.isEmpty_iff.1 empty))
  have claimed : (perform digest (drainCall ownerId now) db).2 =
      (drainClaim db ownerId now).2 := by
    change (answer Response.outboxEvents (atomically (Db.claimOutboxEvents
      (drainCall ownerId now).env ownerId 1 (.finite 30) none) db)).2 = _
    unfold answer atomically
    rw [claims]
  change (perform digest _ (perform digest (drainCall ownerId now) db).2).2 = _
  rw [claimed]
  rfl

theorem drain_acknowledges (member : row ∈ db.outbox.rows)
    (chosen : row.id ∈ db.outboxClaimIds now none 1) (undelivered : row.deliveredAt.isNone = true) :
    Acknowledges ((drainEvents db ownerId now).map ExecutionOutboxEvent.id) ownerId "drain" now
      (row.claimedBy ownerId "drain" (now + 30)) := by
  obtain ⟨event, sent, sameId⟩ :=
    @event_of_claimed db _ ownerId "drain" (now + 30) row member chosen undelivered
  refine ⟨List.mem_map.2 ⟨event, sent, sameId⟩, undelivered, rfl, rfl, now + 30, rfl, ?_⟩
  exact lt_add_of_pos_right now (by decide)

theorem drainRound_progress (digest : Digest) (ownerId : String) (unclaimed : db.Unclaimed now)
    (member : row ∈ db.undelivered) :
    (performAll digest db (drainRound db ownerId now)).Unclaimed now ∧
      (performAll digest db (drainRound db ownerId now)).undelivered.length <
        db.undelivered.length := by
  obtain ⟨head, headMember, claimable⟩ := some_claimable unclaimed member
  have finds := outboxClaimIds_nonempty 1 headMember claimable
  rw [drainRound_db digest ownerId finds]
  constructor
  · rintro left leftMember ⟨expires, isSome, unexpired⟩
    obtain ⟨inTable, undelivered⟩ := (Table.mem_select _).1 leftMember
    obtain ⟨claimed, claimedMember, same⟩ := List.mem_map.1 inTable
    split at same
    · rw [← same] at undelivered
      cases undelivered
    · rename_i notAcknowledged
      obtain ⟨old, oldMember, same'⟩ := List.mem_map.1 claimedMember
      split at same'
      · rename_i selected
        apply notAcknowledged
        rw [← same']
        exact drain_acknowledges oldMember selected.1 selected.2
      · rw [← same, ← same'] at isSome undelivered
        exact unclaimed old ((Table.mem_select _).2 ⟨oldMember, undelivered⟩)
          ⟨expires, isSome, unexpired⟩
  · obtain ⟨id, chosen⟩ := List.exists_mem_of_ne_nil _ finds
    obtain ⟨claimed, taken, sameId⟩ := List.mem_map.1 chosen
    have queried := List.mem_of_mem_take taken
    rw [List.mem_insertionSort, Table.mem_select] at queried
    rcases queried with ⟨inTable, undelivered, _⟩
    have asMany : (drainClaim db ownerId now).2.undelivered.length = db.undelivered.length := by
      have sameRows := Table.select_update (fun row : OutboxRow => row.deliveredAt.isNone = true)
        db.outbox (fun row => row.id ∈ db.outboxClaimIds now none 1 ∧ row.deliveredAt.isNone = true)
        (fun row => row.claimedBy ownerId "drain" (now + 30)) (fun _ => rfl) (fun _ => Iff.rfl)
      exact (congrArg List.length sameRows).trans (List.length_map _)
    rw [← asMany]
    have chosenRow : claimed.id ∈ db.outboxClaimIds now none 1 := sameId ▸ chosen
    have written : claimed.claimedBy ownerId "drain" (now + 30) ∈
        (drainClaim db ownerId now).2.outbox.rows :=
      List.mem_map.2 ⟨claimed, inTable, if_pos ⟨chosenRow, undelivered⟩⟩
    have leaves : ∀ row : OutboxRow, ¬ (row.delivered now).deliveredAt.isNone = true := by
      intro row impossible
      cases impossible
    exact Table.select_update_shorter (fun row : OutboxRow => row.deliveredAt.isNone = true) _ _
      (fun row => row.delivered now) (fun _ => rfl) (fun row _ stays => absurd stays (leaves row))
      written undelivered (drain_acknowledges inTable chosenRow undelivered) (leaves _)

def Call.Consumes (call : Call) (ownerId : String) (now : Time) : Prop :=
  (call.env.clock = fun _ => now) ∧
    ((∃ limit seconds subjectRefPrefix,
      call.operation = .claimOutboxEvents ownerId limit seconds subjectRefPrefix) ∨
      ∃ events claimToken, call.operation = .ackOutboxEvents events ownerId claimToken)

theorem drains (digest : Digest) (ownerId : String) (unclaimed : db.Unclaimed now) :
    ∃ calls, (∀ call ∈ calls, call.Consumes ownerId now) ∧
      (performAll digest db calls).undelivered = [] := by
  induction size : db.undelivered.length using Nat.strong_induction_on generalizing db with
  | _ size ih =>
    cases waiting : db.undelivered with
    | nil => exact ⟨[], nofun, waiting⟩
    | cons row rest =>
      have member : row ∈ db.undelivered := by
        rw [waiting]
        exact List.mem_cons_self
      obtain ⟨stillUnclaimed, fewer⟩ := drainRound_progress digest ownerId unclaimed member
      obtain ⟨later, consumes, drained⟩ := ih _ (size ▸ fewer) stillUnclaimed rfl
      refine ⟨drainRound db ownerId now ++ later, ?_, ?_⟩
      · intro call inCalls
        rcases List.mem_append.1 inCalls with inRound | inLater
        · rcases List.mem_cons.1 inRound with isClaim | isAck
          · rw [isClaim]
            exact ⟨rfl, Or.inl ⟨_, _, _, rfl⟩⟩
          · rw [List.mem_singleton.1 isAck]
            exact ⟨rfl, Or.inr ⟨_, _, rfl⟩⟩
        · exact consumes call inLater
      · unfold performAll at drained ⊢
        rw [List.foldl_append]
        exact drained

end Draining

/-- Order and delivery of the outbox. -/
theorem outbox_delivery (digest : Digest) :
    (∀ db, ReachableDb digest db → ∀ executionId,
      (db.outboxOf executionId).map OutboxRow.content =
        (db.eventsOf executionId).map EventRow.content ∧
      (∀ row ∈ db.outboxOf executionId, row.Delivered →
        ∀ earlier ∈ db.outboxOf executionId, earlier.seq < row.seq → earlier.Delivered) ∧
      ∀ now, ∀ row ∈ db.outboxOf executionId, ¬ row.Delivered → row.ClaimedAt now →
        (∀ earlier ∈ db.outboxOf executionId, earlier.seq < row.seq → earlier.Delivered) ∧
          ∀ other ∈ db.outboxOf executionId, ¬ other.Delivered → other.ClaimedAt now →
            other = row) ∧
    (∀ call db db' outcome, perform digest call db = (outcome, db') →
      ∀ row ∈ db.outbox.rows, ∀ row' ∈ db'.outbox.rows, row'.id = row.id → ¬ row.Delivered →
        row'.Delivered →
        ∃ events ownerId claimToken, call.operation = .ackOutboxEvents events ownerId claimToken ∧
          row.id ∈ events.map ExecutionOutboxEvent.id ∧ row.claimOwner = some ownerId ∧
          row.claimToken = some claimToken ∧ row.ClaimedAt call.env.now) ∧
    (∀ trace last, StoreRun digest trace last → ∀ row ∈ last.outbox.rows, ∀ ownerId claimToken,
      row.claimOwner = some ownerId → row.claimToken = some claimToken →
      ∃ move ∈ trace, Claims move ownerId claimToken row.id) ∧
    (∀ db ownerId start, ∃ now calls, start ≤ now ∧ (∀ call ∈ calls, call.Consumes ownerId now) ∧
      ∀ row ∈ (performAll digest db calls).outbox.rows, row.Delivered) := by
  refine ⟨?_, ?_, ?_, ?_⟩
  · intro db reached executionId
    have sequenced := (reachable_logged reached executionId).sequenced
    have line := reachable_inLine reached executionId
    have first : ∀ row, row ∈ db.outboxOf executionId → row.Delivered ∨ row.Claimed →
        ∀ earlier ∈ db.outboxOf executionId, earlier.seq < row.seq → earlier.Delivered := by
      intro row member reaches earlier earlierMember before
      exact HeadOfLine.taken_before line sequenced.ordered earlierMember member before reaches
    refine ⟨sequenced.mirrored, fun row member delivered => first row member (Or.inl delivered), ?_⟩
    intro now row member waiting claimed
    refine ⟨first row member (Or.inr claimed.claimed), ?_⟩
    intro other otherMember otherWaiting otherClaimed
    apply sequenced.seq_injective otherMember member
    apply Nat.le_antisymm
    · by_contra later
      exact waiting (first other otherMember (Or.inr otherClaimed.claimed) row member (not_le.1 later))
    · by_contra earlier
      exact otherWaiting (first row member (Or.inr claimed.claimed) other otherMember (not_le.1 earlier))
  · intro call db db' outcome done row member row' member' sameId undelivered delivered
    exact delivers_inv done member member' sameId undelivered delivered
  · intro trace last run row member ownerId claimToken owned named
    exact claimed_before run member owned named
  · intro db ownerId start
    obtain ⟨now, late, unclaimed⟩ := unclaimed_at_late db start
    obtain ⟨calls, consumes, drained⟩ := drains digest ownerId unclaimed
    refine ⟨now, calls, late, consumes, ?_⟩
    intro row member
    by_contra waiting
    have inNone : row ∈ (performAll digest db calls).undelivered :=
      (Table.mem_select _).2 ⟨member, OutboxRow.not_delivered_iff.1 waiting⟩
    rw [drained] at inNone
    cases inNone

end AnnaAgent.Execution
