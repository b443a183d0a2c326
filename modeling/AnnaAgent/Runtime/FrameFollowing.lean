/-
Subscribers of a frame journal get every frame once and in order.

A segment of a subscriber emits a logged frame it has not passed, or changes
only what it waits for.  A subscriber stays on track as long as no batch
capture finds that the ring has already dropped its next frame in a pass that
has backfilled nothing; one such capture loses the frame for good.
-/

import AnnaAgent.Runtime.FrameJournal
import Mathlib.Data.List.Infix

namespace AnnaAgent.Runtime

open Foundation Suspension

structure JournalState.Kept (state : JournalState) : Prop where
  numbered : NumberedFrom 1 state.log
  next : state.journal.nextSeq = state.log.length + 1
  ring : state.journal.ring <:+ state.log
  terminal : state.journal.terminal = true →
    ∃ final, state.log.getLast? = some final ∧ isTerminalType final.frame = true

theorem JournalState.log_flush (state : JournalState) (writer : StampedFrame → Bool) :
    (state.flush writer).log = state.log :=
  flushPending_log writer state.journal.pendingWrites state.persisted

theorem JournalState.log_append (state : JournalState) (frame : Frame) (ts : String)
    (writer : StampedFrame → Bool) (isOpen : state.journal.terminal = false) :
    (state.append frame ts writer).log = state.log ++ [state.journal.stamp frame ts] := by
  rw [JournalState.append, isOpen, if_neg Bool.false_ne_true, log_flush, log, log,
    FrameJournal.append, isOpen, if_neg Bool.false_ne_true, List.append_assoc]

theorem pushRing_suffix {journal : FrameJournal} {log : List StampedFrame}
    (ring : journal.ring <:+ log) (stamped : StampedFrame) :
    journal.pushRing stamped <:+ log ++ [stamped] := by
  obtain ⟨older, same⟩ := ring
  rw [FrameJournal.pushRing, ← same, List.append_assoc]
  exact (List.drop_suffix _ _).trans (List.suffix_append older _)

theorem JournalState.Kept.append {state : JournalState} (kept : state.Kept) (frame : Frame)
    (ts : String) (writer : StampedFrame → Bool) : (state.append frame ts writer).Kept := by
  cases isOpen : state.journal.terminal with
  | true =>
    rw [JournalState.append, if_pos isOpen]
    exact kept
  | false =>
    have grown := state.log_append frame ts writer isOpen
    have journal : (state.append frame ts writer).journal =
        { state.journal.append frame ts with
          pendingWrites := (state.append frame ts writer).journal.pendingWrites } := by
      rw [JournalState.append, isOpen, if_neg Bool.false_ne_true]
      rfl
    rw [FrameJournal.append, isOpen, if_neg Bool.false_ne_true] at journal
    constructor
    · rw [grown, numberedFrom_append]
      refine ⟨kept.numbered, ?_, trivial⟩
      change state.journal.nextSeq = 1 + state.log.length
      rw [kept.next, Nat.add_comm]
    · rw [grown, journal, List.length_append, List.length_singleton, ← kept.next]
    · rw [grown, journal]
      exact pushRing_suffix kept.ring _
    · rw [grown, journal]
      intro final
      exact ⟨_, List.getLast?_concat, final⟩

variable {after : JournalState}

theorem JournalState.Kept.step {before : JournalState} {action : JournalAction}
    (step : JournalStep before action after) (kept : before.Kept) : after.Kept := by
  cases step with
  | append frame ts writer written => exact kept.append frame ts writer
  | flush writer =>
    have same := before.log_flush writer
    constructor
    · rw [same]
      exact kept.numbered
    · rw [same]
      exact kept.next
    · rw [same]
      exact kept.ring
    · rw [same]
      exact kept.terminal
  | subscribe id fromSeq unused | resume id present ready =>
    exact ⟨kept.numbered, kept.next, kept.ring, kept.terminal⟩

variable {persisted : List StampedFrame}

theorem JournalState.kept_initial (ringCap : Nat) (numbered : NumberedFrom 1 persisted) :
    (initial ringCap persisted).Kept := by
  have same : (initial ringCap persisted).log = persisted := List.append_nil persisted
  constructor
  · rw [same]
    exact numbered
  · rw [same]
    rfl
  · exact List.nil_suffix
  · intro closed
    exact absurd closed Bool.false_ne_true

def Suspension.held : Suspension → List StampedFrame
  | .backfilling rows _ _ => rows
  | .serving batch => batch
  | _ => []

/-- How many segments a subscriber can run without emitting. -/
def Suspension.weight (nextSeq : Nat) : Suspension → Nat
  | .started | .backfilling _ _ _ | .serving _ => 3
  | .locking seqBeforeBackfill | .waiting seqBeforeBackfill _ =>
    if seqBeforeBackfill < nextSeq then 2 else 1
  | .ended => 0

inductive Segment (log : List StampedFrame) (terminal : Bool) (subscriber : Subscriber) :
    Subscriber → Prop
  | emits {frame : StampedFrame} {suspension : Suspension} (logged : frame ∈ log)
      (due : subscriber.nextSeq ≤ frame.seq) (held : ∀ other ∈ suspension.held, other ∈ log)
      (yields : suspension.weight (frame.seq + 1) = 3) :
      Segment log terminal subscriber (subscriber.emit frame suspension)
  | locks {seqBeforeBackfill : Nat}
      (lower : (locking seqBeforeBackfill).weight subscriber.nextSeq <
        subscriber.suspension.weight subscriber.nextSeq) :
      Segment log terminal subscriber
        { subscriber with suspension := .locking seqBeforeBackfill }
  | waits {seqBeforeBackfill : Nat} (isOpen : terminal = false) :
      Segment log terminal subscriber
        { subscriber with suspension := .waiting seqBeforeBackfill false }
  | ends (closed : terminal = true) :
      Segment log terminal subscriber { subscriber with suspension := .ended }

variable {seqBeforeBackfill : Nat} {batch rows : List StampedFrame}

section Segments

variable {state : JournalState} {subscriber : Subscriber}

theorem Suspension.weight_locking_le (seqBeforeBackfill nextSeq : Nat) :
    1 ≤ (locking seqBeforeBackfill).weight nextSeq ∧
      (locking seqBeforeBackfill).weight nextSeq ≤ 2 := by
  rw [weight]
  split <;> omega

theorem serveRows_segment (floor : Option Nat) (logged : ∀ row ∈ rows, row ∈ state.log)
    (lower : (locking seqBeforeBackfill).weight subscriber.nextSeq < subscriber.suspension.weight subscriber.nextSeq) :
    Segment state.log state.journal.terminal subscriber
      (Subscriber.serveRows floor seqBeforeBackfill rows subscriber) := by
  induction rows with
  | nil => exact .locks lower
  | cons row rows ih =>
    rw [Subscriber.serveRows]
    by_cases passed : row.seq < subscriber.nextSeq
    · rw [if_pos passed]
      exact ih (fun other member => logged other (List.mem_cons_of_mem row member))
    · rw [if_neg passed]
      by_cases covered : floor.any (fun floor => decide (floor ≤ row.seq)) = true
      · rw [if_pos covered]
        exact .locks lower
      · rw [if_neg covered]
        exact .emits (logged row List.mem_cons_self) (Nat.le_of_not_lt passed)
          (fun other member => logged other (List.mem_cons_of_mem row member)) rfl

theorem pass_segment (yielded : 1 < subscriber.suspension.weight subscriber.nextSeq) :
    Segment state.log state.journal.terminal subscriber
      (subscriber.pass state.journal state.persisted) := by
  have lower : (locking subscriber.nextSeq).weight subscriber.nextSeq <
      subscriber.suspension.weight subscriber.nextSeq := by
    rw [weight, if_neg (Nat.lt_irrefl _)]
    exact yielded
  rw [Subscriber.pass]
  split
  · apply serveRows_segment _ _ lower
    intro row member
    exact List.mem_append_left _ (List.mem_filter.1 member).1
  · exact .locks lower

theorem serve_segment (logged : ∀ frame ∈ batch, frame ∈ state.log)
    (yielded : 1 < subscriber.suspension.weight subscriber.nextSeq) :
    Segment state.log state.journal.terminal subscriber
      (Subscriber.serve state.journal state.persisted batch subscriber) := by
  induction batch with
  | nil => exact pass_segment yielded
  | cons frame rest ih =>
    have others : ∀ other ∈ rest, other ∈ state.log :=
      fun other member => logged other (List.mem_cons_of_mem frame member)
    rw [Subscriber.serve]
    by_cases passed : frame.seq < subscriber.nextSeq
    · rw [if_pos passed]
      exact ih others
    · rw [if_neg passed]
      exact .emits (logged frame List.mem_cons_self) (Nat.le_of_not_lt passed) others rfl

theorem capture_segment (kept : state.Kept)
    (within : subscriber.suspension.weight subscriber.nextSeq = (locking
      seqBeforeBackfill).weight subscriber.nextSeq) :
    Segment state.log state.journal.terminal subscriber
      (subscriber.capture state.journal state.persisted seqBeforeBackfill) := by
  have logged : ∀ frame ∈ state.journal.readFrom subscriber.nextSeq,
      frame ∈ state.log ∧ subscriber.nextSeq ≤ frame.seq := by
    intro frame member
    have buffered := List.mem_filter.1 member
    exact ⟨kept.ring.subset buffered.1, of_decide_eq_true buffered.2⟩
  rw [Subscriber.capture]
  cases batch : state.journal.readFrom subscriber.nextSeq with
  | nil =>
    cases closed : state.journal.terminal with
    | true => exact .ends rfl
    | false => exact .waits rfl
  | cons first rest =>
    rw [batch] at logged
    have isLogged := logged first List.mem_cons_self
    by_cases gap : subscriber.nextSeq < first.seq ∧ seqBeforeBackfill < subscriber.nextSeq
    · change Segment _ _ _ (if _ then _ else _)
      rw [if_pos gap]
      apply pass_segment
      rw [within, weight, if_pos gap.2]
      omega
    · change Segment _ _ _ (if _ then _ else _)
      rw [if_neg gap, Subscriber.serve, if_neg (Nat.not_lt.2 isLogged.2)]
      exact .emits isLogged.1 isLogged.2
        (fun other member => (logged other (List.mem_cons_of_mem first member)).1) rfl

theorem resume_segment (kept : state.Kept) (ready : subscriber.isReady = true)
    (logged : ∀ frame ∈ subscriber.suspension.held, frame ∈ state.log) :
    Segment state.log state.journal.terminal subscriber
      (subscriber.resume state.journal state.persisted) := by
  rw [Subscriber.resume]
  rw [Subscriber.isReady] at ready
  cases suspended : subscriber.suspension with
  | started =>
    apply pass_segment
    rw [suspended, weight]
    omega
  | backfilling rows floor seqBeforeBackfill =>
    rw [suspended] at logged
    apply serveRows_segment floor logged
    have bounds := weight_locking_le seqBeforeBackfill subscriber.nextSeq
    rw [suspended]
    change _ < 3
    omega
  | locking seqBeforeBackfill =>
    apply capture_segment kept
    rw [suspended]
  | waiting seqBeforeBackfill notified =>
    apply capture_segment kept
    rw [suspended]
    rfl
  | serving batch =>
    rw [suspended] at logged
    apply serve_segment logged
    rw [suspended, weight]
    omega
  | ended =>
    rw [suspended] at ready
    exact absurd ready Bool.false_ne_true

end Segments

def JournalState.Holds (P : List StampedFrame → Bool → Subscriber → Prop) (id : Nat)
    (state : JournalState) : Prop :=
  state.Kept ∧ ∀ subscriber, state.subscribers id = some subscriber →
    P state.log state.journal.terminal subscriber

variable {id : Nat}

/-- What an invariant of one subscriber has to survive: the start of the
subscriber, appends of the producer, and its own segments. -/
theorem JournalState.Holds.step {P : List StampedFrame → Bool → Subscriber → Prop}
    {before : JournalState} {action : JournalAction}
    (start : before.subscribers id = none → ∀ log terminal fromSeq, P log terminal (Subscriber.new fromSeq))
    (append : ∀ log stamped terminal subscriber, P log false subscriber → P (log ++ [stamped]) terminal subscriber.notify)
    (resume : action = .resume id → ∀ subscriber, before.subscribers id = some subscriber → subscriber.isReady = true → P before.log before.journal.terminal subscriber → P before.log before.journal.terminal (subscriber.resume before.journal before.persisted))
    (step : JournalStep before action after) (held : before.Holds P id) : after.Holds P id := by
  refine ⟨held.1.step step, ?_⟩
  intro subscriber present
  cases step with
  | append frame ts writer written =>
    cases isOpen : before.journal.terminal with
    | true =>
      rw [JournalState.append, if_pos isOpen] at present ⊢
      exact held.2 subscriber present
    | false =>
      have subscribers : (before.append frame ts writer).subscribers id =
          (before.subscribers id).map Subscriber.notify := by
        rw [JournalState.append, isOpen, if_neg Bool.false_ne_true]
        rfl
      rw [subscribers, Option.map_eq_some_iff] at present
      obtain ⟨earlier, isEarlier, same⟩ := present
      have kept := held.2 earlier isEarlier
      rw [isOpen] at kept
      rw [before.log_append frame ts writer isOpen, ← same]
      exact append before.log _ _ earlier kept
  | flush writer =>
    rw [before.log_flush]
    exact held.2 subscriber present
  | subscribe other fromSeq unused =>
    change (if id = other then _ else _) = _ at present
    by_cases isOther : id = other
    · rw [if_pos isOther] at present
      cases present
      rw [← isOther] at unused
      exact start unused _ _ fromSeq
    · rw [if_neg isOther] at present
      exact held.2 subscriber present
  | resume other found ready =>
    change (if id = other then _ else _) = _ at present
    by_cases isOther : id = other
    · rw [if_pos isOther] at present
      cases present
      rw [← isOther] at found
      exact resume (by rw [isOther]) _ found ready (held.2 _ found)
    · rw [if_neg isOther] at present
      exact held.2 subscriber present

/-! ### What holds of every subscriber -/

structure Paced (log : List StampedFrame) (terminal : Bool) (subscriber : Subscriber) :
    Prop where
  ahead : subscriber.fromSeq < subscriber.nextSeq
  passed : ∀ frame ∈ subscriber.emitted, frame.seq < subscriber.nextSeq
  logged : ∀ frame ∈ subscriber.suspension.held, frame ∈ log
  awake : terminal = true → subscriber.isReady = true ∨ subscriber.suspension = .ended
  ended : subscriber.suspension = .ended → terminal = true

theorem Suspension.notify_held (suspension : Suspension) :
    suspension.notify.held = suspension.held := by
  cases suspension <;> rfl

variable {suspension : Suspension}

theorem Suspension.notify_ended (ended : suspension.notify = .ended) : suspension = .ended := by
  cases suspension with
  | ended => rfl
  | waiting seqBeforeBackfill notified => cases ended
  | started => exact ended
  | backfilling rows floor seqBeforeBackfill => exact ended
  | locking seqBeforeBackfill => exact ended
  | serving batch => exact ended

theorem Subscriber.notify_awake (subscriber : Subscriber) :
    subscriber.notify.isReady = true ∨ subscriber.notify.suspension = .ended := by
  obtain ⟨fromSeq, nextSeq, emitted, suspension⟩ := subscriber
  cases suspension with
  | ended => exact Or.inr rfl
  | started | backfilling rows floor seqBeforeBackfill | locking seqBeforeBackfill
  | waiting seqBeforeBackfill notified | serving batch => exact Or.inl rfl

theorem Suspension.ready_of_weight {nextSeq : Nat} (yields : suspension.weight nextSeq = 3)
    (subscriber : Subscriber) (suspended : subscriber.suspension = suspension) :
    subscriber.isReady = true := by
  rw [Subscriber.isReady, suspended]
  cases suspension with
  | started => rfl
  | backfilling rows floor seqBeforeBackfill => rfl
  | serving batch => rfl
  | locking seqBeforeBackfill => rfl
  | waiting seqBeforeBackfill notified =>
    have bounds := (weight_locking_le seqBeforeBackfill nextSeq).2
    change (locking seqBeforeBackfill).weight nextSeq = 3 at yields
    omega
  | ended =>
    change 0 = 3 at yields
    omega

theorem paced_new (log : List StampedFrame) (terminal : Bool) (fromSeq : Nat) :
    Paced log terminal (Subscriber.new fromSeq) :=
  { ahead := Nat.lt_succ_self fromSeq
    passed := nofun
    logged := nofun
    awake := fun _ => Or.inl rfl
    ended := fun ended => nomatch ended }

variable {log : List StampedFrame}

theorem Paced.append {subscriber : Subscriber} (paced : Paced log false subscriber)
    (stamped : StampedFrame) (terminal : Bool) :
    Paced (log ++ [stamped]) terminal subscriber.notify :=
  { ahead := paced.ahead
    passed := paced.passed
    logged := by
      intro frame member
      change frame ∈ subscriber.suspension.notify.held at member
      rw [notify_held] at member
      exact List.mem_append_left _ (paced.logged frame member)
    awake := fun _ => subscriber.notify_awake
    ended := fun ended =>
      absurd (paced.ended (notify_ended ended)) Bool.false_ne_true }

variable {next : Subscriber} {terminal : Bool}

theorem Paced.segment {subscriber : Subscriber} (paced : Paced log terminal subscriber)
    (segment : Segment log terminal subscriber next) :
    Paced log terminal next := by
  cases segment with
  | @emits frame suspension logged due held yields =>
    have isReady := ready_of_weight yields (subscriber.emit frame suspension) rfl
    refine ⟨?_, ?_, held, fun _ => Or.inl isReady, ?_⟩
    · exact Nat.lt_succ_of_lt (paced.ahead.trans_le due)
    · intro other member
      rcases List.mem_append.1 member with earlier | isFrame
      · exact Nat.lt_succ_of_lt ((paced.passed other earlier).trans_le due)
      · rw [List.mem_singleton.1 isFrame]
        exact Nat.lt_succ_self frame.seq
    · intro ended
      change suspension = .ended at ended
      rw [ended] at yields
      change 0 = 3 at yields
      omega
  | locks lower =>
    exact ⟨paced.ahead, paced.passed, nofun,
      fun _ => Or.inl rfl, fun ended => nomatch ended⟩
  | waits isOpen =>
    exact ⟨paced.ahead, paced.passed, nofun,
      fun closed => absurd (isOpen.symm.trans closed) Bool.false_ne_true,
      fun ended => nomatch ended⟩
  | ends closed =>
    exact ⟨paced.ahead, paced.passed, nofun,
      fun _ => Or.inr rfl, fun _ => closed⟩

theorem JournalState.Holds.paced_step {before : JournalState} {action : JournalAction}
    (step : JournalStep before action after) (held : before.Holds Paced id) :
    after.Holds Paced id := by
  refine held.step (fun _ => paced_new)
    (fun _ stamped terminal _ paced => paced.append stamped terminal) ?_ step
  intro _ subscriber _ ready paced
  exact paced.segment (resume_segment held.1 ready paced.logged)

/-- A batch capture comes too late: the ring has dropped the next frame, and
this pass has backfilled nothing. -/
def Subscriber.Overrun (journal : FrameJournal) (subscriber : Subscriber) : Prop :=
  ∃ seqBeforeBackfill, (subscriber.suspension = .locking seqBeforeBackfill ∨
      subscriber.suspension = .waiting seqBeforeBackfill true) ∧
    subscriber.nextSeq < journal.nextSeq ∧
    (journal.ring = [] ∧ journal.terminal = true ∨
      ∃ floor, journal.ringFloor = some floor ∧ subscriber.nextSeq < floor ∧
        subscriber.nextSeq ≤ seqBeforeBackfill)

structure OnTrack (log : List StampedFrame) (terminal : Bool) (subscriber : Subscriber) :
    Prop where
  paced : Paced log terminal subscriber
  bounded : subscriber.nextSeq = subscriber.fromSeq + 1 ∨ subscriber.nextSeq ≤ log.length + 1
  emitted : subscriber.emitted =
    (log.drop subscriber.fromSeq).take (subscriber.nextSeq - (subscriber.fromSeq + 1))
  upcoming : subscriber.suspension.held <+: log.drop (subscriber.nextSeq - 1)
  finished : subscriber.suspension = .ended → log.length < subscriber.nextSeq

theorem onTrack_new (log : List StampedFrame) (terminal : Bool) (fromSeq : Nat) :
    OnTrack log terminal (Subscriber.new fromSeq) := by
  refine ⟨paced_new log terminal fromSeq, Or.inl rfl, ?_, List.nil_prefix, ?_⟩
  · change [] = (log.drop fromSeq).take (fromSeq + 1 - (fromSeq + 1))
    rw [Nat.sub_self, List.take_zero]
  · intro ended
    cases ended

theorem OnTrack.append {subscriber : Subscriber} (track : OnTrack log false subscriber)
    (stamped : StampedFrame) (terminal : Bool) :
    OnTrack (log ++ [stamped]) terminal subscriber.notify := by
  refine ⟨track.paced.append stamped terminal, ?_, ?_, ?_, ?_⟩
  · rcases track.bounded with fresh | within
    · exact Or.inl fresh
    · right
      rw [List.length_append]
      exact Nat.le_trans within (Nat.succ_le_succ (Nat.le_add_right _ _))
  · change subscriber.emitted = ((log ++ [stamped]).drop subscriber.fromSeq).take
      (subscriber.nextSeq - (subscriber.fromSeq + 1))
    rw [track.emitted]
    rcases track.bounded with fresh | within
    · rw [fresh, Nat.sub_self, List.take_zero, List.take_zero]
    · have ahead := track.paced.ahead
      have short : subscriber.nextSeq - (subscriber.fromSeq + 1) ≤
          (log.drop subscriber.fromSeq).length := by
        rw [List.length_drop]
        omega
      rw [List.drop_append_of_le_length (by omega), List.take_append_of_le_length short]
  · change subscriber.suspension.notify.held <+: _
    rw [notify_held]
    exact track.upcoming.trans ((List.prefix_append log [stamped]).drop _)
  · intro ended
    exact absurd (track.paced.ended (notify_ended ended)) Bool.false_ne_true

section OnTrack

variable {state : JournalState} {subscriber : Subscriber}

theorem OnTrack.suspend (track : OnTrack state.log state.journal.terminal subscriber)
    (nothing : suspension.held = [])
    (segment : Segment state.log state.journal.terminal subscriber { subscriber with suspension :=
      suspension }) (finished : suspension = .ended → state.log.length < subscriber.nextSeq) :
    OnTrack state.log state.journal.terminal { subscriber with suspension := suspension } := by
  refine ⟨track.paced.segment segment, track.bounded, track.emitted, ?_, finished⟩
  change suspension.held <+: _
  rw [nothing]
  exact List.nil_prefix

section

variable (kept : state.Kept)

include kept

theorem seq_of_upcoming (ahead : 0 < subscriber.nextSeq) {frame : StampedFrame}
    {rest : List StampedFrame}
    (upcoming : frame :: rest <+: state.log.drop (subscriber.nextSeq - 1)) :
    frame.seq = subscriber.nextSeq ∧ rest <+: state.log.drop subscriber.nextSeq ∧
      state.log[subscriber.nextSeq - 1]? = some frame := by
  obtain ⟨more, same⟩ := upcoming
  have numbered := kept.numbered.drop (subscriber.nextSeq - 1)
  have next : subscriber.nextSeq = subscriber.nextSeq - 1 + 1 := by omega
  rw [← same] at numbered
  refine ⟨numbered.1.trans (by omega), ⟨more, ?_⟩, ?_⟩
  · rw [next, ← List.drop_drop, ← same]
    rfl
  · have first : (state.log.drop (subscriber.nextSeq - 1))[0]? =
        state.log[subscriber.nextSeq - 1 + 0]? := List.getElem?_drop
    rw [← same, Nat.add_zero] at first
    exact first.symm

theorem OnTrack.emit (track : OnTrack state.log state.journal.terminal subscriber)
    {frame : StampedFrame} (yields : ∀ nextSeq, suspension.weight nextSeq = 3)
    (upcoming : frame :: suspension.held <+: state.log.drop (subscriber.nextSeq - 1)) :
    OnTrack state.log state.journal.terminal (subscriber.emit frame suspension) := by
  have ahead := track.paced.ahead
  obtain ⟨isNext, others, atNext⟩ := seq_of_upcoming kept (by omega) upcoming
  have logged := List.mem_of_getElem? atNext
  have within := (kept.numbered.seq_of_mem logged).2
  refine ⟨track.paced.segment (.emits logged isNext.ge ?_ (yields _)), ?_, ?_, ?_, ?_⟩
  · intro other member
    exact List.mem_of_mem_drop (others.subset member)
  · right
    change frame.seq + 1 ≤ state.log.length + 1
    omega
  · change subscriber.emitted ++ [frame] =
      (state.log.drop subscriber.fromSeq).take (frame.seq + 1 - (subscriber.fromSeq + 1))
    have count : frame.seq + 1 - (subscriber.fromSeq + 1) =
        subscriber.nextSeq - (subscriber.fromSeq + 1) + 1 := by omega
    have position : subscriber.fromSeq + (subscriber.nextSeq - (subscriber.fromSeq + 1)) =
        subscriber.nextSeq - 1 := by omega
    rw [count, List.take_add_one, List.getElem?_drop, position, atNext, track.emitted]
    rfl
  · change suspension.held <+: state.log.drop (frame.seq + 1 - 1)
    rw [isNext, Nat.add_sub_cancel]
    exact others
  · intro ended
    have weight := yields 0
    change suspension = .ended at ended
    rw [ended] at weight
    change 0 = 3 at weight
    omega

theorem OnTrack.serveRows (track : OnTrack state.log state.journal.terminal subscriber)
    (floor : Option Nat)
    (lower : (locking seqBeforeBackfill).weight subscriber.nextSeq < subscriber.suspension.weight subscriber.nextSeq)
    (upcoming : rows <+: state.log.drop (subscriber.nextSeq - 1)) :
    OnTrack state.log state.journal.terminal
      (Subscriber.serveRows floor seqBeforeBackfill rows subscriber) := by
  cases rows with
  | nil => exact track.suspend rfl (.locks lower) (fun ended => nomatch ended)
  | cons row rows =>
    have isNext := (seq_of_upcoming kept (by have := track.paced.ahead; omega) upcoming).1
    rw [Subscriber.serveRows, if_neg (by omega)]
    by_cases covered : floor.any (fun floor => decide (floor ≤ row.seq)) = true
    · rw [if_pos covered]
      exact track.suspend rfl (.locks lower) (fun ended => nomatch ended)
    · rw [if_neg covered]
      exact track.emit kept (fun _ => rfl) upcoming

theorem JournalState.Kept.backfill (nextSeq : Nat) :
    state.persisted.filter (fun row => nextSeq ≤ row.seq) <+: state.log.drop (nextSeq - 1) := by
  have numbered : NumberedFrom 1 state.persisted := (numberedFrom_append.1 kept.numbered).1
  rw [numbered.filter_le nextSeq]
  exact (List.prefix_append state.persisted state.journal.pendingWrites).drop _

theorem OnTrack.pass (track : OnTrack state.log state.journal.terminal subscriber)
    (yielded : 1 < subscriber.suspension.weight subscriber.nextSeq) :
    OnTrack state.log state.journal.terminal (subscriber.pass state.journal state.persisted) := by
  have lower : (locking subscriber.nextSeq).weight subscriber.nextSeq <
      subscriber.suspension.weight subscriber.nextSeq := by
    rw [weight, if_neg (Nat.lt_irrefl _)]
    exact yielded
  rw [Subscriber.pass]
  split
  · exact track.serveRows kept _ lower (kept.backfill subscriber.nextSeq)
  · exact track.suspend rfl (.locks lower) (fun ended => nomatch ended)

theorem OnTrack.serve (track : OnTrack state.log state.journal.terminal subscriber)
    (yielded : batch = [] → 1 < subscriber.suspension.weight subscriber.nextSeq)
    (upcoming : batch <+: state.log.drop (subscriber.nextSeq - 1)) :
    OnTrack state.log state.journal.terminal
      (Subscriber.serve state.journal state.persisted batch subscriber) := by
  cases batch with
  | nil => exact track.pass kept (yielded rfl)
  | cons frame rest =>
    have isNext := (seq_of_upcoming kept (by have := track.paced.ahead; omega) upcoming).1
    rw [Subscriber.serve, if_neg (by omega)]
    exact track.emit kept (fun _ => rfl) upcoming

theorem JournalState.Kept.readFrom : ∃ dropped,
    state.journal.ring = state.log.drop dropped ∧
    ∀ nextSeq, state.journal.readFrom nextSeq = state.log.drop (max dropped (nextSeq - 1)) := by
  refine ⟨state.log.length - state.journal.ring.length, List.suffix_iff_eq_drop.1 kept.ring, ?_⟩
  intro nextSeq
  have ring := List.suffix_iff_eq_drop.1 kept.ring
  generalize state.log.length - state.journal.ring.length = dropped at ring ⊢
  have numbered : NumberedFrom (1 + dropped) state.journal.ring := by
    rw [ring]
    exact kept.numbered.drop dropped
  have position : dropped + (nextSeq - (1 + dropped)) = max dropped (nextSeq - 1) := by omega
  rw [FrameJournal.readFrom, numbered.filter_le nextSeq, ring, List.drop_drop, position]

theorem OnTrack.capture (track : OnTrack state.log state.journal.terminal subscriber)
    (suspended : subscriber.suspension = .locking seqBeforeBackfill ∨ subscriber.suspension =
      .waiting seqBeforeBackfill true) (inTime : ¬ subscriber.Overrun state.journal) :
    OnTrack state.log state.journal.terminal
      (subscriber.capture state.journal state.persisted seqBeforeBackfill) := by
  obtain ⟨dropped, ring, readFrom⟩ := kept.readFrom
  have ahead := track.paced.ahead
  have next := kept.next
  have within : subscriber.suspension.weight subscriber.nextSeq =
      (locking seqBeforeBackfill).weight subscriber.nextSeq := by
    rcases suspended with locking | waiting
    · rw [locking]
    · rw [waiting]
      rfl
  rw [Subscriber.capture]
  cases batch : state.journal.readFrom subscriber.nextSeq with
  | nil =>
    change OnTrack _ _ (if _ then _ else _)
    by_cases closed : state.journal.terminal = true
    · rw [if_pos closed]
      apply track.suspend rfl (.ends closed)
      intro _
      by_contra unread
      have short := List.drop_eq_nil_iff.1 ((readFrom _).symm.trans batch)
      apply inTime
      refine ⟨seqBeforeBackfill, suspended, by omega, Or.inl ⟨?_, closed⟩⟩
      rw [ring, List.drop_eq_nil_iff]
      omega
    · rw [if_neg closed]
      apply track.suspend rfl (.waits (Bool.eq_false_iff.2 closed))
      intro ended
      cases ended
  | cons first rest =>
    change OnTrack _ _ (if _ then _ else _)
    by_cases gap : subscriber.nextSeq < first.seq ∧ seqBeforeBackfill < subscriber.nextSeq
    · rw [if_pos gap]
      apply track.pass kept
      rw [within, weight, if_pos gap.2]
      omega
    · rw [if_neg gap]
      rw [readFrom] at batch
      by_cases covered : dropped ≤ subscriber.nextSeq - 1
      · rw [Nat.max_eq_right covered] at batch
        apply track.serve kept
        · intro isNil
          cases isNil
        · rw [batch]
      · rw [Nat.max_eq_left (by omega)] at batch
        have numbered := kept.numbered.drop dropped
        rw [batch] at numbered
        have firstSeq := numbered.1
        have logged : first ∈ state.log := by
          apply List.mem_of_mem_drop (i := dropped)
          rw [batch]
          exact List.mem_cons_self
        have bounds := kept.numbered.seq_of_mem logged
        refine absurd ⟨seqBeforeBackfill, suspended, by omega, Or.inr ⟨first.seq, ?_, ?_, ?_⟩⟩
          inTime
        · rw [FrameJournal.ringFloor, ring, batch]
          rfl
        · omega
        · by_contra progressed
          exact gap ⟨by omega, by omega⟩

theorem OnTrack.resume (track : OnTrack state.log state.journal.terminal subscriber)
    (ready : subscriber.isReady = true) (inTime : ¬ subscriber.Overrun state.journal) :
    OnTrack state.log state.journal.terminal (subscriber.resume state.journal state.persisted) := by
  have upcoming := track.upcoming
  rw [Subscriber.resume]
  rw [Subscriber.isReady] at ready
  cases suspended : subscriber.suspension with
  | started =>
    apply track.pass kept
    rw [suspended, weight]
    omega
  | backfilling rows floor seqBeforeBackfill =>
    rw [suspended] at upcoming
    have bounds := weight_locking_le seqBeforeBackfill subscriber.nextSeq
    apply track.serveRows kept floor _ upcoming
    rw [suspended]
    change _ < 3
    omega
  | locking seqBeforeBackfill => exact track.capture kept (Or.inl suspended) inTime
  | waiting seqBeforeBackfill notified =>
    rw [suspended] at ready
    change notified = true at ready
    rw [ready] at suspended
    exact track.capture kept (Or.inr suspended) inTime
  | serving batch =>
    rw [suspended] at upcoming
    apply track.serve kept _ upcoming
    intro _
    rw [suspended, weight]
    omega
  | ended =>
    rw [suspended] at ready
    exact absurd ready Bool.false_ne_true

end

end OnTrack

/-- No batch capture of the subscriber in these moves comes too late. -/
def InTime (id : Nat) (trace : List (Move JournalState JournalAction)) : Prop :=
  ∀ move ∈ trace, move.label = .resume id → ∀ subscriber,
    move.before.subscribers id = some subscriber → ¬ subscriber.Overrun move.before.journal

variable {last before : JournalState} {trace : List (Move JournalState JournalAction)}
  {log : List StampedFrame} {action : JournalAction}

theorem onTrack_run {ringCap : Nat} (numbered : NumberedFrom 1 persisted)
    (run : Run JournalStep (.initial ringCap persisted) trace last) (inTime : InTime id trace) :
    last.Holds OnTrack id := by
  refine run.keeps (JournalState.Holds OnTrack id) ?_ ⟨JournalState.kept_initial ringCap numbered, ?_⟩
  · intro move member step held
    refine held.step (fun _ => onTrack_new)
      (fun _ stamped terminal _ track => track.append stamped terminal) ?_ step
    intro isResume subscriber present ready track
    exact track.resume held.1 ready (inTime move member isResume subscriber present)
  · intro subscriber present
    cases present

theorem paced_run {ringCap : Nat} (numbered : NumberedFrom 1 persisted) (id : Nat)
    (run : Run JournalStep (.initial ringCap persisted) trace last) : last.Holds Paced id := by
  apply run.invariant (JournalState.Holds Paced id)
  · intro before label after step held
    exact held.paced_step step
  · refine ⟨JournalState.kept_initial ringCap numbered, ?_⟩
    intro subscriber present
    cases present

theorem OnTrack.complete {subscriber : Subscriber} (track : OnTrack log terminal subscriber)
    (ended : subscriber.suspension = .ended) :
    subscriber.emitted = log.drop subscriber.fromSeq := by
  have finished := track.finished ended
  rw [track.emitted, List.take_of_length_le]
  rw [List.length_drop]
  omega

/-! ### A lost frame -/

structure Lost (seq : Nat) (log : List StampedFrame) (subscriber : Subscriber) : Prop where
  due : subscriber.fromSeq < seq
  appended : seq ≤ log.length
  missing : ∀ frame ∈ subscriber.emitted, frame.seq ≠ seq
  passed : seq < subscriber.nextSeq ∨ subscriber.suspension = .ended

variable {seq : Nat}

theorem Lost.segment {subscriber : Subscriber} (lost : Lost seq log subscriber)
    (ready : subscriber.isReady = true) (segment : Segment log terminal subscriber next) :
    Lost seq log next := by
  have passed : seq < subscriber.nextSeq := by
    rcases lost.passed with passed | ended
    · exact passed
    · rw [Subscriber.isReady, ended] at ready
      exact absurd ready Bool.false_ne_true
  cases segment with
  | @emits frame suspension logged due held yields =>
    refine ⟨lost.due, lost.appended, ?_, Or.inl (Nat.lt_succ_of_lt (passed.trans_le due))⟩
    intro other member
    rcases List.mem_append.1 member with earlier | isFrame
    · exact lost.missing other earlier
    · rw [List.mem_singleton.1 isFrame]
      omega
  | locks lower | waits isOpen | ends closed =>
    exact ⟨lost.due, lost.appended, lost.missing, Or.inl passed⟩

theorem Lost.append {subscriber : Subscriber} (lost : Lost seq log subscriber)
    (stamped : StampedFrame) : Lost seq (log ++ [stamped]) subscriber.notify := by
  refine ⟨lost.due, ?_, lost.missing, ?_⟩
  · rw [List.length_append]
    exact lost.appended.trans (Nat.le_add_right _ _)
  · rcases lost.passed with passed | ended
    · exact Or.inl passed
    · right
      change subscriber.suspension.notify = .ended
      rw [ended]
      rfl

theorem capture_loses {state : JournalState} {subscriber : Subscriber} (kept : state.Kept)
    (paced : Paced state.log state.journal.terminal subscriber)
    (overrun : subscriber.Overrun state.journal) :
    Lost subscriber.nextSeq state.log (subscriber.resume state.journal state.persisted) := by
  obtain ⟨seqBeforeBackfill, suspended, appended, dropped⟩ := overrun
  have next := kept.next
  have resumed : subscriber.resume state.journal state.persisted =
      subscriber.capture state.journal state.persisted seqBeforeBackfill := by
    rcases suspended with locking | waiting
    · rw [Subscriber.resume, locking]
    · rw [Subscriber.resume, waiting]
  have missing : ∀ frame ∈ subscriber.emitted, frame.seq ≠ subscriber.nextSeq :=
    fun frame member => (paced.passed frame member).ne
  rw [resumed, Subscriber.capture]
  rcases dropped with ⟨empty, closed⟩ | ⟨floor, isFloor, above, stalled⟩
  · have nothing : state.journal.readFrom subscriber.nextSeq = [] := by
      rw [FrameJournal.readFrom, empty, List.filter_nil]
    rw [nothing]
    change Lost _ _ (if _ then _ else _)
    rw [if_pos closed]
    exact ⟨paced.ahead, by omega, missing, Or.inr rfl⟩
  · rw [FrameJournal.ringFloor, Option.map_eq_some_iff] at isFloor
    obtain ⟨first, isFirst, firstSeq⟩ := isFloor
    obtain ⟨rest, ring⟩ := List.head?_eq_some_iff.1 isFirst
    have present : decide (subscriber.nextSeq ≤ first.seq) = true := decide_eq_true (by omega)
    have buffered : state.journal.readFrom subscriber.nextSeq =
        first :: rest.filter (fun frame => subscriber.nextSeq ≤ frame.seq) := by
      rw [FrameJournal.readFrom, ring, List.filter_cons, if_pos present]
    rw [buffered]
    change Lost _ _ (if _ then _ else _)
    rw [if_neg (by omega), Subscriber.serve, if_neg (by omega)]
    refine ⟨paced.ahead, by omega, ?_, Or.inl ?_⟩
    · intro frame member
      rcases List.mem_append.1 member with earlier | isFrame
      · exact missing frame earlier
      · rw [List.mem_singleton.1 isFrame]
        omega
    · change subscriber.nextSeq < first.seq + 1
      omega

theorem present_step (step : JournalStep before action after)
    (present : (before.subscribers id).isSome = true) : (after.subscribers id).isSome = true := by
  cases step with
  | append frame ts writer written =>
    rw [JournalState.append]
    split
    · exact present
    · change ((before.subscribers id).map Subscriber.notify).isSome = true
      rw [Option.isSome_map]
      exact present
  | flush writer => exact present
  | subscribe other fromSeq unused | resume other found ready =>
    change (if id = other then _ else _ : Option Subscriber).isSome = true
    split
    · rfl
    · exact present

theorem lost_run {first : JournalState} (run : Run JournalStep first trace last)
    (present : (first.subscribers id).isSome = true)
    (held : first.Holds (fun log terminal subscriber => Paced log terminal subscriber ∧ Lost seq
      log subscriber) id) :
    last.Holds (fun log terminal subscriber =>
      Paced log terminal subscriber ∧ Lost seq log subscriber) id := by
  refine (run.invariant (fun state => (state.subscribers id).isSome = true ∧
    state.Holds (fun log terminal subscriber =>
      Paced log terminal subscriber ∧ Lost seq log subscriber) id) ?_ ⟨present, held⟩).2
  rintro before label after step ⟨isPresent, holds⟩
  refine ⟨present_step step isPresent, holds.step ?_ ?_ ?_ step⟩
  · intro absent
    rw [absent] at isPresent
    exact absurd isPresent Bool.false_ne_true
  · rintro log stamped terminal subscriber ⟨paced, lost⟩
    exact ⟨paced.append stamped terminal, lost.append stamped⟩
  · rintro _ subscriber _ ready ⟨paced, lost⟩
    have segment := resume_segment holds.1 ready paced.logged
    exact ⟨paced.segment segment, lost.segment ready segment⟩

theorem Lost.incomplete {state : JournalState} {subscriber : Subscriber} (kept : state.Kept)
    (lost : Lost seq state.log subscriber) :
    subscriber.emitted ≠ state.log.drop subscriber.fromSeq := by
  intro same
  have due := lost.due
  have appended := lost.appended
  have numbered := kept.numbered.drop subscriber.fromSeq
  obtain ⟨frame, member, isSeq⟩ := numbered.exists_mem seq (by omega)
    (by rw [List.length_drop]; omega)
  rw [← same] at member
  exact lost.missing frame member isSeq

def JournalAction.isResume (id : Nat) : JournalAction → Bool
  | .resume other => decide (other = id)
  | _ => false

/-- A bound for the segments left once the journal is terminal. -/
def Subscriber.budget (nextSeq : Nat) (subscriber : Subscriber) : Nat :=
  4 * (nextSeq - subscriber.nextSeq) + subscriber.suspension.weight subscriber.nextSeq

theorem Segment.lowers {state : JournalState} {subscriber : Subscriber} (kept : state.Kept)
    (closed : state.journal.terminal = true) (ready : subscriber.isReady = true)
    (segment : Segment state.log state.journal.terminal subscriber next) :
    next.budget state.journal.nextSeq + 1 ≤ subscriber.budget state.journal.nextSeq := by
  have nextSeq := kept.next
  cases segment with
  | @emits frame suspension logged due held yields =>
    have within := (kept.numbered.seq_of_mem logged).2
    change 4 * (state.journal.nextSeq - (frame.seq + 1)) + suspension.weight (frame.seq + 1) + 1
      ≤ 4 * (state.journal.nextSeq - subscriber.nextSeq) + _
    omega
  | locks lower => exact Nat.add_lt_add_left lower _
  | waits isOpen => exact absurd (isOpen.symm.trans closed) Bool.false_ne_true
  | ends _ =>
    change 4 * (state.journal.nextSeq - subscriber.nextSeq) + 0 + 1 ≤
      4 * (state.journal.nextSeq - subscriber.nextSeq) + _
    rw [Subscriber.isReady] at ready
    cases suspended : subscriber.suspension with
    | started | backfilling rows floor seqBeforeBackfill | serving batch =>
      exact Nat.add_le_add_left (Nat.le_add_left 1 2) _
    | locking seqBeforeBackfill | waiting seqBeforeBackfill notified =>
      exact Nat.add_le_add_left (weight_locking_le _ _).1 _
    | ended =>
      rw [suspended] at ready
      exact absurd ready Bool.false_ne_true

theorem terminal_step (step : JournalStep before action after)
    (closed : before.journal.terminal = true) :
    after.journal.terminal = true ∧ after.journal.nextSeq = before.journal.nextSeq := by
  cases step with
  | append frame ts writer written =>
    rw [JournalState.append, if_pos closed]
    exact ⟨closed, rfl⟩
  | flush writer | subscribe id fromSeq unused | resume id present ready => exact ⟨closed, rfl⟩

def JournalState.budgetOf (state : JournalState) (id : Nat) : Nat :=
  ((state.subscribers id).map (Subscriber.budget state.journal.nextSeq)).getD 0

theorem budget_step (held : before.Holds Paced id) (closed : before.journal.terminal = true)
    (present : (before.subscribers id).isSome = true) (step : JournalStep before action after) :
    after.budgetOf id + (if action.isResume id = true then 1 else 0) ≤ before.budgetOf id := by
  cases step with
  | append frame ts writer written =>
    rw [JournalState.append, if_pos closed]
    exact Nat.le_refl _
  | flush writer => exact Nat.le_refl _
  | subscribe other fromSeq unused =>
    have isOther : id ≠ other := by
      intro same
      rw [same, unused] at present
      exact absurd present Bool.false_ne_true
    change (Option.map _ (if id = other then _ else _)).getD 0 + 0 ≤ _
    rw [if_neg isOther]
    exact Nat.le_refl _
  | @resume other subscriber found ready =>
    by_cases isOther : id = other
    · subst isOther
      have lowered := (resume_segment held.1 ready (held.2 subscriber found).logged).lowers
        held.1 closed ready
      have isResume : (JournalAction.resume id).isResume id = true := decide_eq_true rfl
      rw [if_pos isResume, JournalState.budgetOf, JournalState.budgetOf, found]
      change (Option.map _ (if id = id then _ else _)).getD 0 + 1 ≤ _
      rw [if_pos rfl]
      exact lowered
    · have notResume : ¬ (JournalAction.resume other).isResume id = true := by
        intro isResume
        exact isOther (of_decide_eq_true isResume).symm
      rw [if_neg notResume]
      change (Option.map _ (if id = other then _ else _)).getD 0 + 0 ≤ _
      rw [if_neg isOther]
      exact Nat.le_refl _

theorem resumes_le_budget {first : JournalState} (run : Run JournalStep first trace last)
    (held : first.Holds Paced id) (closed : first.journal.terminal = true)
    (present : (first.subscribers id).isSome = true) :
    trace.countP (fun move => move.label.isResume id) ≤ first.budgetOf id := by
  have bound := run.countP_le_budget
    (fun state => state.Holds Paced id ∧ state.journal.terminal = true ∧
      (state.subscribers id).isSome = true)
    (fun move => move.label.isResume id) (fun state => state.budgetOf id)
    (fun move _ step holds => ⟨holds.1.paced_step step, (terminal_step step holds.2.1).1,
      present_step step holds.2.2⟩)
    (fun move _ step holds => budget_step holds.1 holds.2.1 holds.2.2 step)
    ⟨held, closed, present⟩
  omega

/-- A subscriber that has ended has emitted every frame after `fromSeq` up to
the terminal frame, once and in order, exactly when none of its batch captures
came too late; until then it has emitted the first of them.  Once the journal
is terminal, a subscriber that has not ended can run, and it ends after a
bounded number of segments. -/
theorem followed_completely_iff {ringCap : Nat} {persisted : List StampedFrame}
    (numbered : NumberedFrom 1 persisted) {trace : List (Move JournalState JournalAction)}
    {last : JournalState} (run : Run JournalStep (.initial ringCap persisted) trace last)
    {id : Nat} {subscriber : Subscriber} (present : last.subscribers id = some subscriber) :
    NumberedFrom 1 last.log ∧
    (subscriber.suspension = .ended →
      (subscriber.emitted = last.log.drop subscriber.fromSeq ↔ InTime id trace) ∧
      ∃ final, last.log.getLast? = some final ∧ isTerminalType final.frame = true) ∧
    (InTime id trace → subscriber.emitted <+: last.log.drop subscriber.fromSeq) ∧
    (last.journal.terminal = true →
      (subscriber.isReady = true ∨ subscriber.suspension = .ended) ∧
      ∀ later final, Run JournalStep last later final →
        later.countP (fun move => move.label.isResume id) ≤
          4 * (last.journal.nextSeq - subscriber.nextSeq) + 3) := by
  have held := paced_run numbered id run
  have paced := held.2 subscriber present
  have isSome : (last.subscribers id).isSome = true := by
    rw [present]
    rfl
  refine ⟨held.1.numbered, ?_, ?_, ?_⟩
  · intro ended
    refine ⟨⟨?_, ?_⟩, held.1.terminal (paced.ended ended)⟩
    · intro complete move member isResume resumed found overrun
      obtain ⟨early, late, split⟩ := List.append_of_mem member
      subst split
      obtain ⟨start, step, finish⟩ := run.around
      have heldBefore := paced_run numbered id start
      have heldAfter := heldBefore.paced_step step
      have lost := capture_loses heldBefore.1 (heldBefore.2 resumed found) overrun
      obtain ⟨before, label, after⟩ := move
      change JournalStep before label after at step
      change label = _ at isResume
      subst isResume
      cases step with
      | @resume _ stepping isStepping ready =>
        change before.subscribers id = some resumed at found
        rw [isStepping] at found
        cases found
        have isPresent := present_step (.resume id isStepping ready) (by rw [isStepping]; rfl)
        have stays := lost_run finish isPresent (And.intro heldAfter.1 fun next isNext => by
          have pacedNext := heldAfter.2 next isNext
          change (if id = id then _ else _) = _ at isNext
          rw [if_pos rfl] at isNext
          cases isNext
          exact ⟨pacedNext, lost⟩)
        exact (stays.2 subscriber present).2.incomplete held.1 complete
    · intro inTime
      exact ((onTrack_run numbered run inTime).2 subscriber present).complete ended
  · intro inTime
    rw [((onTrack_run numbered run inTime).2 subscriber present).emitted]
    exact List.take_prefix _ _
  · intro closed
    refine ⟨paced.awake closed, ?_⟩
    intro later final continued
    have bound := resumes_le_budget continued held closed isSome
    rw [JournalState.budgetOf, present] at bound
    have weight : subscriber.suspension.weight subscriber.nextSeq ≤ 3 := by
      cases subscriber.suspension with
      | started | backfilling rows floor seqBeforeBackfill | serving batch => exact Nat.le_refl 3
      | locking seqBeforeBackfill | waiting seqBeforeBackfill notified =>
        exact (weight_locking_le _ _).2.trans (Nat.le_succ 2)
      | ended => exact Nat.zero_le 3
    exact bound.trans (Nat.add_le_add_left weight _)

/-- A follower that waits for the terminal frame of a run. -/
theorem frames_followed_completely : ∃ trace last subscriber,
    Run JournalStep (.initial 1 []) trace last ∧ last.subscribers 0 = some subscriber ∧
    (subscriber.suspension = .ended →
      (subscriber.emitted = last.log.drop subscriber.fromSeq ↔ InTime 0 trace) ∧
      ∃ final, last.log.getLast? = some final ∧ isTerminalType final.frame = true) ∧
    subscriber.suspension = .ended ∧ subscriber.emitted.map StampedFrame.seq = [1] := by
  have run : Run JournalStep (.initial 1 []) _ _ :=
    .cons (.subscribe 0 0 rfl) <| .cons (.resume 0 rfl rfl) <| .cons (.resume 0 rfl rfl) <|
    .cons (.append [("type", .str "done")] "2026-01-01T00:00:00.000+00:00" (fun _ => true) rfl) <|
    .cons (.resume 0 rfl rfl) <| .cons (.resume 0 rfl rfl) <| .cons (.resume 0 rfl rfl) <|
    .nil _
  exact ⟨_, _, _, run, rfl, (followed_completely_iff (show NumberedFrom 1 [] from trivial) run rfl).2.1, rfl, rfl⟩

/-- A burst of two frames reaches a waiting follower of a ring with room for
one: the first of them is never emitted. -/
theorem burst_skips_frame : ∃ trace last subscriber,
    Run JournalStep (.initial 1 []) trace last ∧ last.subscribers 0 = some subscriber ∧
    last.journal.pendingWrites = [] ∧ last.journal.terminal = true ∧
    subscriber.suspension = .ended ∧ subscriber.fromSeq = 0 ∧
    last.log.map StampedFrame.seq = [1, 2] ∧
    subscriber.emitted.map StampedFrame.seq = [2] := by
  have run : Run JournalStep (.initial 1 []) _ _ :=
    .cons (.subscribe 0 0 rfl) <| .cons (.resume 0 rfl rfl) <| .cons (.resume 0 rfl rfl) <|
    .cons (.append [("type", .str "token")] "2026-01-01T00:00:00.000+00:00" (fun _ => true) rfl) <|
    .cons (.append [("type", .str "done")] "2026-01-01T00:00:00.001+00:00" (fun _ => true) rfl) <|
    .cons (.resume 0 rfl rfl) <| .cons (.resume 0 rfl rfl) <| .cons (.resume 0 rfl rfl) <|
    .nil _
  exact ⟨_, _, _, run, rfl, rfl, rfl, rfl, rfl, rfl, rfl⟩

end AnnaAgent.Runtime
