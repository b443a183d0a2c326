/-
The frame journal of one run, and the subscribers that follow it.

A producer stamps frames, keeps the latest ones in a bounded ring and writes
each one through to the store.  A subscriber is a generator: it suspends at
every yield, at every acquisition of the lock and at every wait, and runs from
one suspension to the next without interruption.
-/

import AnnaAgent.Foundation.Run
import AnnaAgent.Foundation.Json

namespace AnnaAgent.Runtime

open Foundation

abbrev Frame := List (String × Json)

structure StampedFrame where
  seq : Nat
  ts : String
  frame : Frame

def isTerminalType (frame : Frame) : Bool :=
  match frame.lookup "type" with
  | some (.str type) => decide (type = "done" ∨ type = "error")
  | _ => false

structure FrameJournal where
  ringCap : Nat
  ring : List StampedFrame
  nextSeq : Nat
  terminal : Bool
  pendingWrites : List StampedFrame

namespace FrameJournal

/-- `FrameJournal(ring_cap, start_seq=...)`. -/
def new (ringCap startSeq : Nat) : FrameJournal :=
  { ringCap, ring := [], nextSeq := startSeq, terminal := false, pendingWrites := [] }

/-- The oldest buffered `seq`. -/
def ringFloor (journal : FrameJournal) : Option Nat :=
  journal.ring.head?.map StampedFrame.seq

def readFrom (journal : FrameJournal) (seq : Nat) : List StampedFrame :=
  journal.ring.filter (fun frame => seq ≤ frame.seq)

/-- Appending to a `deque` with `maxlen` drops the oldest entries. -/
def pushRing (journal : FrameJournal) (stamped : StampedFrame) : List StampedFrame :=
  (journal.ring ++ [stamped]).drop (journal.ring.length + 1 - journal.ringCap)

def stamp (journal : FrameJournal) (frame : Frame) (ts : String) : StampedFrame :=
  { seq := journal.nextSeq, ts, frame }

/-- The part of `append` under the lock, and the frame it queues for the
writer; a terminal journal drops the frame. -/
def append (journal : FrameJournal) (frame : Frame) (ts : String) : FrameJournal :=
  if journal.terminal then journal
  else
    { journal with
      ring := journal.pushRing (journal.stamp frame ts)
      nextSeq := journal.nextSeq + 1
      terminal := isTerminalType frame
      pendingWrites := journal.pendingWrites ++ [journal.stamp frame ts] }

end FrameJournal

/-- `_flush_pending`: the frames still pending and the ones stored, where the
writer raises on the frames it does not accept. -/
def flushPending (writer : StampedFrame → Bool) :
    List StampedFrame → List StampedFrame → List StampedFrame × List StampedFrame
  | [], persisted => ([], persisted)
  | stamped :: rest, persisted =>
    if writer stamped then flushPending writer rest (persisted ++ [stamped])
    else (stamped :: rest, persisted)

inductive Suspension where
  | started
  | backfilling (rows : List StampedFrame) (floor : Option Nat) (seqBeforeBackfill : Nat)
  | locking (seqBeforeBackfill : Nat)
  | waiting (seqBeforeBackfill : Nat) (notified : Bool)
  | serving (batch : List StampedFrame)
  | ended

def Suspension.notify : Suspension → Suspension
  | .waiting seqBeforeBackfill _ => .waiting seqBeforeBackfill true
  | suspension => suspension

/-- One call of `subscribe`; nothing reads `nextSeq` while a frame is being
yielded, so it is set with the yield. -/
structure Subscriber where
  fromSeq : Nat
  nextSeq : Nat
  emitted : List StampedFrame
  suspension : Suspension

namespace Subscriber

def new (fromSeq : Nat) : Subscriber :=
  { fromSeq, nextSeq := fromSeq + 1, emitted := [], suspension := .started }

def emit (subscriber : Subscriber) (frame : StampedFrame) (suspension : Suspension) :
    Subscriber :=
  { subscriber with
    nextSeq := frame.seq + 1
    emitted := subscriber.emitted ++ [frame]
    suspension }

/-- The loop over the backfilled rows, up to its next yield or its end. -/
def serveRows (floor : Option Nat) (seqBeforeBackfill : Nat) :
    List StampedFrame → Subscriber → Subscriber
  | [], subscriber => { subscriber with suspension := .locking seqBeforeBackfill }
  | row :: rows, subscriber =>
    if row.seq < subscriber.nextSeq then serveRows floor seqBeforeBackfill rows subscriber
    else if floor.any (fun floor => decide (floor ≤ row.seq)) then
      { subscriber with suspension := .locking seqBeforeBackfill }
    else subscriber.emit row (.backfilling rows floor seqBeforeBackfill)

/-- A pass of the outer loop, with the backfill of the store. -/
def pass (journal : FrameJournal) (persisted : List StampedFrame) (subscriber : Subscriber) :
    Subscriber :=
  if journal.ringFloor.all (fun floor => decide (subscriber.nextSeq < floor)) then
    serveRows journal.ringFloor subscriber.nextSeq
      (persisted.filter (fun row => subscriber.nextSeq ≤ row.seq)) subscriber
  else { subscriber with suspension := .locking subscriber.nextSeq }

/-- The loop over a captured batch, up to its next yield or its end. -/
def serve (journal : FrameJournal) (persisted : List StampedFrame) :
    List StampedFrame → Subscriber → Subscriber
  | [], subscriber => subscriber.pass journal persisted
  | frame :: rest, subscriber =>
    if frame.seq < subscriber.nextSeq then serve journal persisted rest subscriber
    else subscriber.emit frame (.serving rest)

/-- The batch capture under the lock. -/
def capture (journal : FrameJournal) (persisted : List StampedFrame) (seqBeforeBackfill : Nat)
    (subscriber : Subscriber) : Subscriber :=
  match journal.readFrom subscriber.nextSeq with
  | [] =>
    if journal.terminal then { subscriber with suspension := .ended }
    else { subscriber with suspension := .waiting seqBeforeBackfill false }
  | first :: rest =>
    if subscriber.nextSeq < first.seq ∧ seqBeforeBackfill < subscriber.nextSeq then
      subscriber.pass journal persisted
    else serve journal persisted (first :: rest) subscriber

def resume (journal : FrameJournal) (persisted : List StampedFrame) (subscriber : Subscriber) :
    Subscriber :=
  match subscriber.suspension with
  | .started => subscriber.pass journal persisted
  | .backfilling rows floor seqBeforeBackfill =>
    serveRows floor seqBeforeBackfill rows subscriber
  | .locking seqBeforeBackfill => subscriber.capture journal persisted seqBeforeBackfill
  | .waiting seqBeforeBackfill _ => subscriber.capture journal persisted seqBeforeBackfill
  | .serving batch => serve journal persisted batch subscriber
  | .ended => subscriber

/-- A waiting generator continues after it was notified. -/
def isReady (subscriber : Subscriber) : Bool :=
  match subscriber.suspension with
  | .waiting _ notified => notified
  | .ended => false
  | _ => true

/-- `notify_all` reaches the generators that wait. -/
def notify (subscriber : Subscriber) : Subscriber :=
  { subscriber with suspension := subscriber.suspension.notify }

end Subscriber

structure JournalState where
  journal : FrameJournal
  persisted : List StampedFrame
  subscribers : Nat → Option Subscriber

namespace JournalState

/-- A journal that continues after the frames of the store. -/
def initial (ringCap : Nat) (persisted : List StampedFrame) : JournalState :=
  { journal := FrameJournal.new ringCap (persisted.length + 1)
    persisted
    subscribers := fun _ => none }

def log (state : JournalState) : List StampedFrame :=
  state.persisted ++ state.journal.pendingWrites

def flush (state : JournalState) (writer : StampedFrame → Bool) : JournalState :=
  let flushed := flushPending writer state.journal.pendingWrites state.persisted
  { state with
    journal := { state.journal with pendingWrites := flushed.1 }
    persisted := flushed.2 }

/-- `append` with its write-through; nothing suspends in between. -/
def append (state : JournalState) (frame : Frame) (ts : String)
    (writer : StampedFrame → Bool) : JournalState :=
  if state.journal.terminal then state
  else
    flush
      { state with
        journal := state.journal.append frame ts
        subscribers := fun id => (state.subscribers id).map Subscriber.notify } writer

def setSubscriber (state : JournalState) (id : Nat) (subscriber : Subscriber) : JournalState :=
  { state with
    subscribers := fun other => if other = id then some subscriber else state.subscribers other }

end JournalState

inductive JournalAction where
  | append (frame : Frame)
  | flush
  | subscribe (id fromSeq : Nat)
  | resume (id : Nat)

/-- The producer appends only once every earlier frame has been written. -/
inductive JournalStep : JournalState → JournalAction → JournalState → Prop
  | append {state : JournalState} (frame : Frame) (ts : String) (writer : StampedFrame → Bool)
      (written : state.journal.pendingWrites = []) :
      JournalStep state (.append frame) (state.append frame ts writer)
  | flush {state : JournalState} (writer : StampedFrame → Bool) :
      JournalStep state .flush (state.flush writer)
  | subscribe {state : JournalState} (id fromSeq : Nat) (unused : state.subscribers id = none) :
      JournalStep state (.subscribe id fromSeq) (state.setSubscriber id (Subscriber.new fromSeq))
  | resume {state : JournalState} (id : Nat) {subscriber : Subscriber}
      (present : state.subscribers id = some subscriber) (ready : subscriber.isReady = true) :
      JournalStep state (.resume id)
        (state.setSubscriber id (subscriber.resume state.journal state.persisted))

def NumberedFrom (start : Nat) : List StampedFrame → Prop
  | [] => True
  | frame :: rest => frame.seq = start ∧ NumberedFrom (start + 1) rest

variable {start : Nat} {frames : List StampedFrame}

theorem numberedFrom_append {first second : List StampedFrame} :
    NumberedFrom start (first ++ second) ↔
      NumberedFrom start first ∧ NumberedFrom (start + first.length) second := by
  induction first generalizing start with
  | nil => exact ⟨fun numbered => ⟨trivial, numbered⟩, And.right⟩
  | cons frame rest ih =>
    have shift : start + (frame :: rest).length = start + 1 + rest.length := by
      rw [List.length_cons]
      omega
    rw [List.cons_append, NumberedFrom, NumberedFrom, ih, shift, and_assoc]

section

variable (numbered : NumberedFrom start frames)

include numbered

theorem NumberedFrom.drop (count : Nat) : NumberedFrom (start + count) (frames.drop count) := by
  induction count generalizing start frames with
  | zero => exact numbered
  | succ count ih =>
    cases frames with
    | nil => exact trivial
    | cons frame rest =>
      have shift : start + (count + 1) = start + 1 + count := by omega
      rw [List.drop_succ_cons, shift]
      exact ih numbered.2

theorem NumberedFrom.seq_of_mem {frame : StampedFrame} (member : frame ∈ frames) :
    start ≤ frame.seq ∧ frame.seq < start + frames.length := by
  induction frames generalizing start with
  | nil => exact absurd member List.not_mem_nil
  | cons head rest ih =>
    rw [List.length_cons]
    rcases List.mem_cons.1 member with same | later
    · rw [same, numbered.1]
      omega
    · have bounds := ih numbered.2 later
      omega

theorem NumberedFrom.exists_mem (seq : Nat) (lower : start ≤ seq)
    (upper : seq < start + frames.length) : ∃ frame ∈ frames, frame.seq = seq := by
  induction frames generalizing start with
  | nil => exact absurd (lower.trans_lt upper) (Nat.lt_irrefl start)
  | cons head rest ih =>
    rw [List.length_cons] at upper
    by_cases isHead : start = seq
    · exact ⟨head, List.mem_cons_self, numbered.1.trans isHead⟩
    · obtain ⟨frame, member, same⟩ := ih numbered.2 (by omega) (by omega)
      exact ⟨frame, List.mem_cons_of_mem head member, same⟩

theorem NumberedFrom.filter_le (seq : Nat) :
    frames.filter (fun frame => seq ≤ frame.seq) = frames.drop (seq - start) := by
  induction frames generalizing start with
  | nil => rw [List.filter_nil, List.drop_nil]
  | cons head rest ih =>
    have headSeq := numbered.1
    by_cases reached : seq ≤ start
    · have all : ∀ frame ∈ head :: rest, decide (seq ≤ frame.seq) = true := by
        intro frame member
        exact decide_eq_true (reached.trans (numbered.seq_of_mem member).1)
      rw [List.filter_eq_self.2 all, Nat.sub_eq_zero_of_le reached, List.drop_zero]
    · have skipped : ¬ decide (seq ≤ head.seq) = true := by
        rw [decide_eq_true_eq, headSeq]
        exact reached
      have shift : seq - start = seq - (start + 1) + 1 := by omega
      rw [List.filter_cons, if_neg skipped, ih numbered.2, shift, List.drop_succ_cons]

end

theorem flushPending_log (writer : StampedFrame → Bool) (pending persisted : List StampedFrame) :
    (flushPending writer pending persisted).2 ++ (flushPending writer pending persisted).1 =
      persisted ++ pending := by
  induction pending generalizing persisted with
  | nil => rfl
  | cons stamped rest ih =>
    rw [flushPending]
    by_cases accepted : writer stamped = true
    · rw [if_pos accepted, ih, List.append_assoc, List.singleton_append]
    · rw [if_neg accepted]

end AnnaAgent.Runtime
